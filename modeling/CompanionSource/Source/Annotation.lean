import CompanionSource.Number.Shortest
import CompanionSource.Source.Imports
import CompanionSource.Source.Literal

/-! # Annotations

    Annotations with their arguments, which may be annotations again, and their source text. -/

namespace CompanionSource.Source

/-- What an annotation is meant for when its place leaves a choice. -/
inductive UseSite where
  | file
  | property
  | field
  | get
  | set
  | param
  deriving DecidableEq, Repr

/-- All use sites. -/
def UseSite.all : List UseSite := [.file, .property, .field, .get, .set, .param]

/-- The word for a use site. -/
def UseSite.word : UseSite → String
  | .file => "file"
  | .property => "property"
  | .field => "field"
  | .get => "get"
  | .set => "set"
  | .param => "param"

/-- The use site that a word names. -/
def UseSite.ofWord? (word : String) : Option UseSite :=
  UseSite.all.find? fun site => site.word == word

/-- An argument of an annotation over the values `α`. -/
structure AnnotationArgument (α : Type) where
  /-- The name it is given by, if any. -/
  name : Option String := none
  /-- Its value. -/
  value : α
  deriving DecidableEq, Repr

/-- An annotation over the argument values `α`. -/
structure AnnotationOf (α : Type) where
  /-- The annotation's type. -/
  type : TypeExpr
  /-- Its arguments, in order. -/
  arguments : List (AnnotationArgument α) := []
  /-- What it is meant for. -/
  site : Option UseSite := none

/-- The value of an annotation argument. -/
inductive AnnotationValue where
  /-- A string literal. -/
  | text (content : String)
  /-- A whole number. -/
  | int (value : Int)
  /-- A floating point number. -/
  | float (value : Binary64)
  /-- A truth value. -/
  | bool (value : Bool)
  /-- An array of values. -/
  | array (values : List AnnotationValue)
  /-- An annotation as a value. -/
  | nested (inner : AnnotationOf AnnotationValue)
  /-- Source text to be written as it is: a constant, a class literal. -/
  | raw (code : String)

/-- An annotation. -/
abbrev Annotation : Type := AnnotationOf AnnotationValue

/-- The string of a string literal. -/
def AnnotationValue.text? : AnnotationValue → Option String
  | .text s => some s
  | _ => none

/-- A floating point number as source text.  The numbers that are not finite have no literal and
    are written as constants. -/
def floatCode (x : Binary64) : String :=
  if x.isNaN then "Double.NaN"
  else if x.isInfinite then
    if x.isNegative then "Double.NEGATIVE_INFINITY" else "Double.POSITIVE_INFINITY"
  else x.text

mutual

/-- The source text of an argument value. -/
def AnnotationValue.code (imports : Imports) : AnnotationValue → String
  | .text s => quoted s
  | .int value => toString value
  | .float value => floatCode value
  | .bool value => if value then "true" else "false"
  | .array values => "[" ++ ", ".intercalate (AnnotationValue.codes imports values) ++ "]"
  | .nested inner => AnnotationOf.body imports inner
  | .raw s => s

/-- The source texts of argument values. -/
def AnnotationValue.codes (imports : Imports) : List AnnotationValue → List String
  | [] => []
  | v :: vs => AnnotationValue.code imports v :: AnnotationValue.codes imports vs

/-- The type and the arguments, without the sign and the use site. -/
def AnnotationOf.body (imports : Imports) : AnnotationOf AnnotationValue → String
  | ⟨type, arguments, _⟩ =>
    typeCode imports type
      ++ (if arguments.isEmpty then ""
        else "(" ++ ", ".intercalate (AnnotationOf.argumentCodes imports arguments) ++ ")")

/-- The source texts of arguments. -/
def AnnotationOf.argumentCodes (imports : Imports) :
    List (AnnotationArgument AnnotationValue) → List String
  | [] => []
  | a :: as => AnnotationOf.argumentCode imports a :: AnnotationOf.argumentCodes imports as

/-- The source text of one argument. -/
def AnnotationOf.argumentCode (imports : Imports) :
    AnnotationArgument AnnotationValue → String
  | ⟨some name, value⟩ => Name.written name ++ " = " ++ AnnotationValue.code imports value
  | ⟨none, value⟩ => AnnotationValue.code imports value

end

/-- The source text of an annotation. -/
def AnnotationOf.code (imports : Imports) (a : Annotation) : String :=
  match a.site with
  | some site => "@" ++ site.word ++ ":" ++ a.body imports
  | none => "@" ++ a.body imports

end CompanionSource.Source
