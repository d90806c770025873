import CompanionSource.Synthesis.Context
import CompanionSource.Synthesis.Eligibility
import CompanionSource.Synthesis.FreshName

/-! # Logging wrappers

    The wrapper of an interface or abstract class implements it by handing every call on to a
    delegate, and logs the call after it returned:

    * a **function** calls the same function of the delegate with the same arguments, and returns
      its result;
    * a **getter** reads the property of the delegate, a **setter** writes it;
    * the **log line** goes to the configured function, begins with the tag of the wrapper and
      shows the arguments and the result.

    Members that ask for no log line are handed on all the same. -/

namespace CompanionSource.Synthesis

open Source (Argument Class Expr Parameter Piece Stmt Supertype Template)

/-! ### Names -/

/-- The name of the class that wraps a declaration. -/
def wrapperName (d : Declaration) : String := d.simpleName ++ "LoggerImpl"

/-- The field that holds the delegate. -/
def delegateField : String := "delegate"

/-- The local value that holds a result. -/
def resultLocal : String := "result"

/-- The parameter of a setter. -/
def setterParameter : String := "value"

/-! ### Log lines -/

/-- What the members of a wrapper share. -/
structure Wrapper where
  /-- The qualified name of the wrapped declaration. -/
  owner : String
  /-- What log lines begin with. -/
  tag : String
  /-- The function that is called with log lines. -/
  log : Expr
  /-- The namespace of the markers. -/
  markers : String

/-- The tag that a marker asks for: its argument `tag`, or its only argument if that has no name.
    It is a string, and blanks around it do not count. -/
def requestedTag? (a : Declared.Annotation) : Option String :=
  let value? := (a.argument? "tag").or <|
    match a.arguments with
    | [⟨none, value⟩] => some value
    | _ => none
  match value?.bind (·.text?) with
  | none => none
  | some s => if Text.isBlankText s then none else some (Text.trim s)

/-- What the log lines of a wrapper begin with: the requested tag, or the name of the wrapper. -/
def wrapperTag (marker : String) (d : Declaration) : String :=
  ((d.marking? marker).bind requestedTag?).getD (wrapperName d)

/-- A dotted name as an expression, each segment a member of the one before it. -/
def memberChain (name : String) : Expr :=
  match Name.segments name with
  | [] => .name ""
  | first :: rest => rest.foldl Expr.dot (.name first)

/-- What the members of the wrapper of a declaration share. -/
def Wrapper.of (ctx : Context) (d : Declaration) : Wrapper :=
  { owner := d.name
    tag := wrapperTag (ctx.settings.marker .loggable) d
    log := memberChain ctx.settings.logFunction
    markers := ctx.settings.markerNamespace }

namespace Wrapper

/-- The log line for a member, left out if the member asks for none. -/
def logged (w : Wrapper) (marks : List Declared.Annotation) (message : Template) : List Stmt :=
  if isLogged w.markers marks then [.expr (w.log.apply [{ value := .template message }])] else []

/-- The annotations that an override repeats: all that are no markers. -/
def repeated (w : Wrapper) (marks : List Declared.Annotation) : List Source.Annotation :=
  (marks.filter fun a => !a.isAnyMarker w.markers).map (·.toSource)

/-! ### Functions -/

/-- The modifiers that an override repeats. -/
def repeatedModifiers : List Modifier := [.suspend, .operator, .infix_]

/-- The modifiers of an override. -/
def overrideModifiers (modifiers : ModifierSet) : ModifierSet :=
  .ofList (.override :: repeatedModifiers.filter modifiers.contains)

/-- The delegate, seen from a function.  A parameter of the same name hides the field. -/
def delegate (f : Declared.Function) : Expr :=
  if f.parameters.any fun p => p.name == delegateField then Expr.dot .this delegateField
  else .name delegateField

/-- The call that a function hands on. -/
def delegation (f : Declared.Function) : Expr :=
  .call (Expr.dot (delegate f) f.name) (typeArguments f.typeParameters)
    (f.parameters.map fun p => passed p.name p.vararg)

/-- The log line about a call, with the result if there is one. -/
def callMessage (w : Wrapper) (f : Declared.Function) (result : Option Expr) : Template :=
  Template.ofPieces <|
    [.literal (w.tag ++ ": " ++ f.name ++ "(")]
      ++ listing (f.parameters.map fun p => (p.name, shown p.name p.vararg))
      ++ [.literal ")"]
      ++ match result with
        | some value => [.literal "->", .value value]
        | none => []

/-- The return type that an override repeats: one that is known and stands for a value. -/
def returnedType? (f : Declared.Function) : Option TypeExpr :=
  match f.returns with
  | some (.resolved type) => if type.isUnit then none else some type
  | _ => none

/-- The warning about a return type that is not known. -/
def returnWarnings (w : Wrapper) (f : Declared.Function) : List String :=
  match f.returns with
  | some (.unresolved text) =>
    [w.owner ++ ": return type of `" ++ f.name ++ "` could not be resolved (`" ++ text
      ++ "`), forwarding without a result"]
  | _ => []

/-- The local value that holds the result of a function.  No parameter hides it. -/
def functionResult (f : Declared.Function) : String :=
  freshName resultLocal (f.parameters.map (·.name))

/-- The statements of an override. -/
def functionBody (w : Wrapper) (f : Declared.Function) : List Stmt :=
  match returnedType? f with
  | some _ =>
    let result : Expr := .name (functionResult f)
    .val (functionResult f) (delegation f)
      :: w.logged f.annotations (w.callMessage f (some result)) ++ [.ret (some result)]
  | none => .expr (delegation f) :: w.logged f.annotations (w.callMessage f none)

/-- A parameter of an override. -/
def overrideParameter (w : Wrapper) (f : Declared.Function) (p : Declared.Parameter) :
    Except Refusal Parameter :=
  match p.type with
  | .resolved type => .ok { name := p.name, type, vararg := p.vararg }
  | .unresolved text => .error (.unresolvedType w.owner (f.name ++ "." ++ p.name) text)

/-- The override of a function. -/
def overrideFunction (w : Wrapper) (f : Declared.Function) : Except Refusal Source.Function :=
  match f.parameters.mapM (w.overrideParameter f) with
  | .error e => .error e
  | .ok parameters =>
    .ok
      { name := f.name
        doc := f.doc
        annotations := w.repeated f.annotations
        modifiers := overrideModifiers f.modifiers
        typeVariables := f.typeParameters
        parameters
        returns := returnedType? f
        body := w.functionBody f }

/-! ### Properties -/

/-- The property of the delegate. -/
def delegateProperty (p : Declared.Property) : Expr :=
  Expr.dot (.name delegateField) p.name

/-- The log line about a property. -/
def propertyMessage (w : Wrapper) (verb : String) (p : Declared.Property) (shownValue : Expr) :
    Template :=
  Template.ofPieces
    [.literal (w.tag ++ ": " ++ verb ++ " " ++ p.name ++ "="), .value shownValue]

/-- The statements of a getter. -/
def getterBody (w : Wrapper) (p : Declared.Property) : List Stmt :=
  let result : Expr := .name resultLocal
  .val resultLocal (delegateProperty p)
    :: w.logged p.annotations (w.propertyMessage "get" p result) ++ [.ret (some result)]

/-- The statements of a setter. -/
def setterBody (w : Wrapper) (p : Declared.Property) : List Stmt :=
  let value : Expr := .name setterParameter
  .assign (delegateProperty p) value
    :: w.logged p.annotations (w.propertyMessage "set" p value)

/-- The override of a property. -/
def overrideProperty (w : Wrapper) (p : Declared.Property) : Except Refusal Source.Property :=
  match p.type with
  | .unresolved text => .error (.unresolvedType w.owner p.name text)
  | .resolved type =>
    .ok
      { name := p.name
        type
        mutable := p.mutable
        doc := p.doc
        annotations := w.repeated p.annotations
        modifiers := .ofList [.override]
        getter := some (w.getterBody p)
        setter := if p.mutable then some (w.setterBody p) else none }

end Wrapper

/-! ### Classes -/

/-- A member with these modifiers is overridden by the wrapper. -/
def isOverridable (d : Declaration) (modifiers : ModifierSet) : Bool :=
  !modifiers.contains .private_
    && (d.kind == .interface || modifiers.contains .abstract || modifiers.contains .open_)

/-- The properties that the wrapper overrides. -/
def overridableProperties (d : Declaration) : List Declared.Property :=
  d.properties.filter fun p => isOverridable d p.modifiers

/-- The functions that the wrapper overrides. -/
def overridableFunctions (d : Declaration) : List Declared.Function :=
  d.functions.filter fun f => isOverridable d f.modifiers

/-- No property of the declaration has the name of the field for the delegate. -/
def checkDelegate (d : Declaration) : Except Refusal Unit :=
  match d.properties.find? fun p => p.name == delegateField with
  | some p => .error (.delegateClash d.name p.name)
  | none => .ok ()

/-- The parameter, and field, for the delegate. -/
def delegateParameter (d : Declaration) : Parameter :=
  { name := delegateField
    type := d.declaredType
    modifiers := .ofList [.private_]
    binding := some .val }

/-- The wrapper of a declaration. -/
def wrapper (ctx : Context) (d : Declaration) : Except Refusal (Generated Class) := do
  checkWrappable d
  checkDelegate d
  let w := Wrapper.of ctx d
  let properties ← (overridableProperties d).mapM w.overrideProperty
  let functions ← (overridableFunctions d).mapM w.overrideFunction
  return {
    item :=
      { name := wrapperName d
        doc := d.doc
        annotations := [ctx.provenance.mark]
        typeVariables := d.typeParameters
        parameters := [delegateParameter d]
        supertypes := [{ type := d.declaredType, constructed := d.kind != .interface }]
        properties
        functions }
    warnings := (overridableFunctions d).flatMap w.returnWarnings }

end CompanionSource.Synthesis
