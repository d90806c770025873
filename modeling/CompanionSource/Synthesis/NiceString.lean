import CompanionSource.Synthesis.Context
import CompanionSource.Synthesis.Eligibility

/-! # Nice strings

    The extension function `toNiceString` lists the readable fields of an instance.  A field of
    a type that has the function itself is shown by it, so that nested instances are listed as
    well. -/

namespace CompanionSource.Synthesis

open Source (Expr Function Template)

/-- The name of the function. -/
def niceStringName : String := "toNiceString"

/-- The file for the functions of a namespace. -/
def niceStringFile : String := "ToNiceStringExtension"

/-- The type refers to a declaration that has the function. -/
def isNested (ctx : Context) (scope : String) (type : TypeExpr) : Bool :=
  (ctx.snapshot.resolve? type scope).any (hasText ctx.settings.markerNamespace)

/-- The value that stands for a field of a declaration in the namespace `scope`. -/
def fieldValue (ctx : Context) (scope : String) (p : TypedParameter) : Expr :=
  if !p.parameter.vararg && isNested ctx scope p.type then
    (Expr.member (.name p.parameter.name) niceStringName p.type.nullable).apply []
  else shown p.parameter.name p.parameter.vararg

/-- The text of an instance. -/
def niceTemplate (ctx : Context) (d : Declaration) (readable : List TypedParameter) : Template :=
  Template.ofPieces <|
    [.literal (d.simpleName ++ "(")]
      ++ listing (readable.map fun p => (p.parameter.name, fieldValue ctx d.scope p))
      ++ [.literal ")"]

/-- The warning about a parameter that the text leaves out. -/
def hiddenWarning (d : Declaration) (p : TypedParameter) : String :=
  d.name ++ ": constructor parameter `" ++ p.parameter.name
    ++ "` is not a readable field and is left out of " ++ niceStringName

/-- The `toNiceString` function of a declaration. -/
def niceString (ctx : Context) (d : Declaration) : Except Refusal (Generated Function) :=
  match textFields d with
  | .error e => .error e
  | .ok fields =>
    .ok
      { item :=
          { name := niceStringName
            annotations := [ctx.provenance.mark]
            typeVariables := d.typeParameters
            receiver := some d.declaredType
            returns := some (.named "String")
            body := [.ret (some (.template (niceTemplate ctx d fields.readable)))] }
        warnings := fields.hidden.map (hiddenWarning d) }

end CompanionSource.Synthesis
