import CompanionSource.Declared.Declaration
import CompanionSource.Synthesis.Refusal

/-! # Eligibility

    Which declarations can get which companion.

    * A **wrapper** needs an interface, or an abstract class that can be constructed without
      arguments.
    * A **copy** and a **text** need a concrete class whose primary constructor has parameters of
      known types.
    * A **text** needs, besides, a field that can be read from outside. -/

namespace CompanionSource.Synthesis

/-! ### Common checks -/

/-- The declaration is not private. -/
def checkVisible (d : Declaration) : Except Refusal Unit :=
  if d.isPrivate then .error (.privateDeclaration d.name d.kind.word) else .ok ()

/-- The directive does not go with the declaration. -/
def unsupported (d : Declaration) (directive : Directive) : Refusal :=
  .unsupportedKind d.name d.kindLabel directive

/-! ### Wrappers -/

/-- A class that may be derived from freely but has no instances of its own. -/
def isOpenlyAbstract (d : Declaration) : Bool :=
  d.kind == .class_ && d.has .abstract && !d.has .sealed

/-- The declaration can get a wrapper. -/
def checkWrappable (d : Declaration) : Except Refusal Unit :=
  match checkVisible d with
  | .error e => .error e
  | .ok () =>
    if d.kind = .interface then .ok ()
    else if isOpenlyAbstract d then
      match d.constructor? with
      | none | some [] => .ok ()
      | some (_ :: _) => .error (.abstractWithConstructor d.name)
    else .error (unsupported d .loggable)

/-! ### Constructors -/

/-- A parameter of a primary constructor whose type is known. -/
structure TypedParameter where
  /-- The parameter. -/
  parameter : Declared.ConstructorParameter
  /-- Its type. -/
  type : TypeExpr

/-- The parameter with its type. -/
def typedParameter (owner : String) (p : Declared.ConstructorParameter) :
    Except Refusal TypedParameter :=
  match p.type with
  | .resolved type => .ok ⟨p, type⟩
  | .unresolved text => .error (.unresolvedType owner p.name text)

/-- The parameters of the constructor that a companion goes by, in order. -/
def constructorFields (directive : Directive) (d : Declaration) :
    Except Refusal (List TypedParameter) :=
  match checkVisible d with
  | .error e => .error e
  | .ok () =>
    if d.kind ≠ .class_ ∨ d.isAbstractClass then .error (unsupported d directive)
    else if d.isValueSemantic then .error (.valueSemantic d.name directive)
    else match d.constructor? with
      | none => .error (.missingConstructor d.name)
      | some [] => .error (.emptyConstructor d.name)
      | some ps => ps.mapM (typedParameter d.name)

/-- The parameters of a constructor that give readable fields, and the others. -/
structure FieldPartition where
  /-- The readable fields. -/
  readable : List TypedParameter
  /-- The other parameters. -/
  hidden : List TypedParameter

/-- The fields that the text of an instance can show, and those it cannot. -/
def textFields (d : Declaration) : Except Refusal FieldPartition :=
  match constructorFields .toNiceString d with
  | .error e => .error e
  | .ok ps =>
    match ps.filter fun p => p.parameter.isExposed with
    | [] => .error (.noReadableFields d.name)
    | readable => .ok ⟨readable, ps.filter fun p => !p.parameter.isExposed⟩

/-- The declaration gets a `toNiceString` function, with markers in the namespace `scope`. -/
def hasText (scope : String) (d : Declaration) : Bool :=
  d.isMarked (Directive.toNiceString.marker scope) && (textFields d).isOk

end CompanionSource.Synthesis
