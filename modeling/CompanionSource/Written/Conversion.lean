import CompanionSource.Written.Entry

/-! # From written to declared

    Types are read and modifiers looked up.  Nothing is dropped and nothing changes its place;
    the first text that does not fit, in the order in which this module visits them, is the
    fault. -/

namespace CompanionSource.Written

open Declared (TypeRef)

/-! ### Faults -/

/-- A text that is no type or no modifier, with the declaration or member it belongs to. -/
inductive Fault where
  /-- The text of a type cannot be read. -/
  | invalidType (symbol : String) (error : TypeExpr.ParseError)
  /-- There is no such modifier. -/
  | unknownModifier (symbol modifier : String)
  deriving DecidableEq, Repr

/-- The message for the user. -/
def Fault.message : Fault → String
  | .invalidType symbol error => symbol ++ ": " ++ error.message
  | .unknownModifier symbol m => symbol ++ ": unknown modifier `" ++ m ++ "`"

/-! ### Parts -/

/-- A member of a symbol. -/
def memberSymbol (owner name : String) : String := owner ++ "." ++ name

/-- The declared type that a text writes. -/
def declareType (symbol text : String) : Except Fault TypeRef :=
  (TypeRef.parse text).mapError (.invalidType symbol)

/-- The bound of a type parameter that a text writes.  A bound is always resolved. -/
def declareBound (symbol text : String) : Except Fault TypeExpr :=
  (TypeExpr.parse text).mapError (.invalidType symbol)

/-- The modifier that a text names.  Blanks around it do not count. -/
def declareModifier (symbol text : String) : Except Fault Modifier :=
  match Modifier.ofWord? (Text.trim text) with
  | some m => .ok m
  | none => .error (.unknownModifier symbol text)

/-- The set of modifiers that the texts name. -/
def declareModifiers (symbol : String) (texts : List String) : Except Fault ModifierSet :=
  ModifierSet.ofList <$> texts.mapM (declareModifier symbol)

/-- A type parameter. -/
def TypeParameter.declare (owner : String) (v : TypeParameter) : Except Fault TypeVariable := do
  let bounds ← v.bounds.mapM (declareBound (owner ++ "<" ++ v.name ++ ">"))
  return { name := v.name, bounds }

/-- A parameter of a primary constructor. -/
def ConstructorParameter.declare (owner : String) (p : ConstructorParameter) :
    Except Fault Declared.ConstructorParameter := do
  let type ← declareType (memberSymbol (memberSymbol owner "<init>") p.name) p.type
  return { name := p.name, type, binding := p.binding, visibility := p.visibility
           vararg := p.vararg }

/-- A parameter of a function. -/
def Parameter.declare (owner : String) (p : Parameter) : Except Fault Declared.Parameter := do
  let type ← declareType (memberSymbol owner p.name) p.type
  return { name := p.name, type, vararg := p.vararg }

/-- A function: its parameters come first, then its return type, its type parameters and its
    modifiers. -/
def Function.declare (owner : String) (f : Function) : Except Fault Declared.Function := do
  let symbol := memberSymbol owner f.name
  let parameters ← f.parameters.mapM (Parameter.declare symbol)
  let returns ← f.returns.mapM (declareType symbol)
  let typeParameters ← f.typeParameters.mapM (TypeParameter.declare symbol)
  let modifiers ← declareModifiers symbol f.modifiers
  return { name := f.name, parameters, returns, typeParameters
           annotations := f.annotations.map AnnotationOf.declare, modifiers, doc := f.doc }

/-- A property: its type comes first, then its modifiers. -/
def Property.declare (owner : String) (p : Property) : Except Fault Declared.Property := do
  let symbol := memberSymbol owner p.name
  let type ← declareType symbol p.type
  let modifiers ← declareModifiers symbol p.modifiers
  return { name := p.name, type, mutable := p.mutable
           annotations := p.annotations.map AnnotationOf.declare, modifiers, doc := p.doc }

/-! ### Declarations -/

/-- A declaration: its primary constructor comes first, then its modifiers, its type parameters,
    its functions and its properties. -/
def Declaration.declare (d : Declaration) : Except Fault CompanionSource.Declaration := do
  let constructor? ← d.constructor?.mapM fun ps => ps.mapM (ConstructorParameter.declare d.name)
  let modifiers ← declareModifiers d.name d.modifiers
  let typeParameters ← d.typeParameters.mapM (TypeParameter.declare d.name)
  let functions ← d.functions.mapM (Function.declare d.name)
  let properties ← d.properties.mapM (Property.declare d.name)
  return { name := d.name, scope? := d.scope?, kind := d.kind, visibility := d.visibility, modifiers
           typeParameters, annotations := d.annotations.map AnnotationOf.declare, doc := d.doc
           constructor?, functions, properties }

/-- All declarations of a document, in its order. -/
def declareAll (ds : List Declaration) : Except Fault (List CompanionSource.Declaration) :=
  ds.mapM Declaration.declare

end CompanionSource.Written
