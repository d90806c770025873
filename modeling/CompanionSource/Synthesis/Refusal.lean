import CompanionSource.Directive

/-! # Refusals

    Why a marked declaration gets no companion.  The message is what the user reads. -/

namespace CompanionSource

/-- Why a declaration gets no companion.  `name` is the qualified name of the declaration. -/
inductive Refusal where
  /-- Companions could not see a private declaration. -/
  | privateDeclaration (name kind : String)
  /-- The directive does not go with this kind of declaration. -/
  | unsupportedKind (name kind : String) (directive : Directive)
  /-- The language provides the companion already. -/
  | valueSemantic (name : String) (directive : Directive)
  /-- There is no primary constructor. -/
  | missingConstructor (name : String)
  /-- The primary constructor has no parameters. -/
  | emptyConstructor (name : String)
  /-- The wrapper of an abstract class could not call its constructor. -/
  | abstractWithConstructor (name : String)
  /-- No field can be read from outside. -/
  | noReadableFields (name : String)
  /-- A member has the name of the wrapper's own field. -/
  | delegateClash (name clashing : String)
  /-- Another declaration has claimed the name of the generated class. -/
  | nameClash (name file first : String)
  /-- The type of a member is not known. -/
  | unresolvedType (name ofMember text : String)
  deriving DecidableEq, Repr

namespace Refusal

/-- The message for the user. -/
def message : Refusal → String
  | privateDeclaration name kind => name ++ " " ++ kind ++ " cannot be private"
  | unsupportedKind name kind d => "@" ++ d.word ++ " cannot be applied to " ++ kind ++ " " ++ name
  | valueSemantic name d =>
    "@" ++ d.word ++ " on " ++ name ++ " is redundant: data classes already provide it"
  | missingConstructor name => name ++ " has no primary constructor"
  | emptyConstructor name => name ++ " has an empty primary constructor"
  | abstractWithConstructor name =>
    "abstract class " ++ name ++ " must have no constructor parameters to be wrapped"
  | noReadableFields name => name ++ " has no constructor parameter readable from outside the class"
  | delegateClash name clashing =>
    name ++ ": member `" ++ clashing ++ "` clashes with the generated `delegate` field"
  | nameClash name file first =>
    name ++ ": generated `" ++ file ++ "` clashes with the one already generated for " ++ first
  | unresolvedType name ofMember text =>
    name ++ ": type of `" ++ ofMember ++ "` could not be resolved (`" ++ text ++ "`)"

/-- The refusal is no error, because nothing is missing. -/
def isWarning : Refusal → Bool
  | valueSemantic .. => true
  | _ => false

end Refusal

end CompanionSource
