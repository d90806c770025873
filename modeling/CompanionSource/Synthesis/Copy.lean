import CompanionSource.Synthesis.Context
import CompanionSource.Synthesis.Eligibility

/-! # Copies

    The extension function `copy` calls the primary constructor with its parameters.  A parameter
    whose field can be read defaults to that field of the receiver. -/

namespace CompanionSource.Synthesis

open Source (Expr Function Parameter)

/-- The name of the function. -/
def copyName : String := "copy"

/-- The file for the copies of a namespace. -/
def copyFile : String := "CopyExtension"

/-- A parameter of the copy. -/
def copyParameter (p : TypedParameter) : Parameter :=
  { name := p.parameter.name
    type := p.type
    vararg := p.parameter.vararg
    default :=
      if p.parameter.isExposed then some (Expr.dot .this p.parameter.name) else none }

/-- The call of the constructor. -/
def construction (d : Declaration) (ps : List TypedParameter) : Expr :=
  .call (.type (.named d.typePath)) (typeArguments d.typeParameters)
    (ps.map fun p => passed p.parameter.name p.parameter.vararg)

/-- The copy of a declaration. -/
def copy (ctx : Context) (d : Declaration) : Except Refusal (Generated Function) :=
  match constructorFields .copy d with
  | .error e => .error e
  | .ok ps =>
    .ok
      { item :=
          { name := copyName
            annotations := [ctx.provenance.mark]
            typeVariables := d.typeParameters
            receiver := some d.declaredType
            parameters := ps.map copyParameter
            returns := some d.declaredType
            body := [.ret (some (construction d ps))] } }

end CompanionSource.Synthesis
