import CompanionSource.Proofs.Written.Image

/-! # The first fault of a document

    The texts of types and modifiers in a document are **demands**: each has to be read.  The
    demands of a document are listed in the order of its declarations, and inside a declaration

    - the types in its primary constructor, its modifiers, and the bounds of its type parameters;
    - for each function the types of its parameters, its return type, the bounds of its type
      parameters, and its modifiers;
    - for each property its type and its modifiers.

    A demand that is not met has a fault, with the symbol of the declaration or member that the text
    belongs to.  The document is declared exactly if all demands are met, and otherwise the fault
    is that of the first one that is not. -/

namespace CompanionSource.Written

open Declared (TypeRef)
open Traversal

/-! ### Demands -/

/-- A text that has to be read, and the symbol that it belongs to. -/
inductive Demand where
  /-- The text has to write a type, or be the one for a type that could not be resolved. -/
  | type (symbol text : String)
  /-- The text has to write a type. -/
  | bound (symbol text : String)
  /-- The text has to name a modifier. -/
  | modifier (symbol text : String)

namespace Demand

/-- The text can be read. -/
def IsMet : Demand → Prop
  | .type _ text => ∃ type, TypeRef.parse text = .ok type
  | .bound _ text => ∃ type, TypeExpr.parse text = .ok type
  | .modifier _ text => ∃ m, Modifier.ofWord? (Text.trim text) = some m

/-- The text cannot be read, for a reason. -/
inductive Faults : Demand → Fault → Prop
  /-- The reader of declared types refuses the text. -/
  | type {symbol text : String} {error : TypeExpr.ParseError}
      (h : TypeRef.parse text = .error error) :
      Faults (.type symbol text) (.invalidType symbol error)
  /-- The reader of types refuses the text. -/
  | bound {symbol text : String} {error : TypeExpr.ParseError}
      (h : TypeExpr.parse text = .error error) :
      Faults (.bound symbol text) (.invalidType symbol error)
  /-- There is no such modifier. -/
  | modifier {symbol text : String} (h : Modifier.ofWord? (Text.trim text) = none) :
      Faults (.modifier symbol text) (.unknownModifier symbol text)

/-- Why the text cannot be read, if it cannot. -/
def fault? : Demand → Option Fault
  | .type symbol text => failure? (declareType symbol text)
  | .bound symbol text => failure? (declareBound symbol text)
  | .modifier symbol text => failure? (declareModifier symbol text)

theorem fault?_eq_none_iff {x : Demand} : x.fault? = none ↔ x.IsMet := by
  cases x with
  | type symbol text =>
    rw [fault?, failure?_eq_none_iff, declareType, exists_mapError_eq_ok_iff, IsMet]
  | bound symbol text =>
    rw [fault?, failure?_eq_none_iff, declareBound, exists_mapError_eq_ok_iff, IsMet]
  | modifier symbol text =>
    rw [fault?, failure?_eq_none_iff, exists_declareModifier_iff, NamesModifier, IsMet]

theorem fault?_eq_some_iff {x : Demand} {fault : Fault} :
    x.fault? = some fault ↔ x.Faults fault := by
  cases x with
  | type symbol text =>
    rw [fault?, failure?_eq_some_iff, declareType, mapError_eq_error_iff]
    constructor
    · intro h
      obtain ⟨error, herror, rfl⟩ := h
      exact .type herror
    · intro h
      cases h with
      | type herror => exact ⟨_, herror, rfl⟩
  | bound symbol text =>
    rw [fault?, failure?_eq_some_iff, declareBound, mapError_eq_error_iff]
    constructor
    · intro h
      obtain ⟨error, herror, rfl⟩ := h
      exact .bound herror
    · intro h
      cases h with
      | bound herror => exact ⟨_, herror, rfl⟩
  | modifier symbol text =>
    rw [fault?, failure?_eq_some_iff, declareModifier]
    constructor
    · intro h
      split at h
      · cases h
      · next hunknown =>
        cases h
        exact .modifier hunknown
    · intro h
      cases h with
      | modifier hunknown => rw [hunknown]

/-- The first demand that is not met has this fault. -/
def IsFirstFault (xs : List Demand) (fault : Fault) : Prop :=
  ∃ before x after, xs = before ++ x :: after ∧ (∀ y ∈ before, y.IsMet) ∧ x.Faults fault

theorem findSome?_fault?_eq_none_iff {xs : List Demand} :
    xs.findSome? fault? = none ↔ ∀ x ∈ xs, x.IsMet := by
  simp only [List.findSome?_eq_none_iff, fault?_eq_none_iff]

theorem findSome?_fault?_eq_some_iff {xs : List Demand} {fault : Fault} :
    xs.findSome? fault? = some fault ↔ IsFirstFault xs fault := by
  simp only [List.findSome?_eq_some_iff, fault?_eq_none_iff, fault?_eq_some_iff, IsFirstFault,
    and_comm]

end Demand

/-! ### The demands of an entry -/

/-- The bounds of a type parameter. -/
def TypeParameter.demands (owner : String) (v : TypeParameter) : List Demand :=
  v.bounds.map (.bound (owner ++ "<" ++ v.name ++ ">"))

/-- The type of a parameter of a primary constructor. -/
def ConstructorParameter.demand (owner : String) (p : ConstructorParameter) : Demand :=
  .type (owner ++ ".<init>." ++ p.name) p.type

/-- The type of a parameter of a function. -/
def Parameter.demand (owner : String) (p : Parameter) : Demand :=
  .type (owner ++ "." ++ p.name) p.type

/-- The types of the parameters, the return type, the bounds and the modifiers of a function. -/
def Function.demands (owner : String) (f : Function) : List Demand :=
  let symbol := owner ++ "." ++ f.name
  f.parameters.map (Parameter.demand symbol) ++ f.returns.toList.map (.type symbol)
    ++ f.typeParameters.flatMap (TypeParameter.demands symbol) ++ f.modifiers.map (.modifier symbol)

/-- The type and the modifiers of a property. -/
def Property.demands (owner : String) (p : Property) : List Demand :=
  let symbol := owner ++ "." ++ p.name
  [.type symbol p.type] ++ p.modifiers.map (.modifier symbol)

/-- The demands of a declaration and its members. -/
def Declaration.demands (d : Declaration) : List Demand :=
  (d.constructor?.toList.flatMap fun ps => ps.map (ConstructorParameter.demand d.name))
    ++ d.modifiers.map (.modifier d.name)
    ++ d.typeParameters.flatMap (TypeParameter.demands d.name)
    ++ d.functions.flatMap (Function.demands d.name)
    ++ d.properties.flatMap (Property.demands d.name)

/-- The demands of a document. -/
def demands (ds : List Declaration) : List Demand := ds.flatMap Declaration.demands

/-! ### Entries fail like their first demand -/

section failures
variable {owner : String}

theorem failure?_declareModifiers {symbol : String} {texts : List String} :
    failure? (declareModifiers symbol texts) =
      (texts.map (Demand.modifier symbol)).findSome? Demand.fault? := by
  show failure? ((texts.mapM (declareModifier symbol)).map ModifierSet.ofList) = _
  rw [failure?_map, failure?_mapM, List.findSome?_map]
  rfl

theorem TypeParameter.failure?_declare {v : TypeParameter} :
    failure? (v.declare owner) = (v.demands owner).findSome? Demand.fault? := by
  rw [TypeParameter.declare, failure?_bind fun _ => failure?_pure, Option.or_none, failure?_mapM,
    TypeParameter.demands, List.findSome?_map]
  rfl

theorem ConstructorParameter.failure?_declare {p : ConstructorParameter} :
    failure? (p.declare owner) = (p.demand owner).fault? := by
  have hdots : ".<init>." = "." ++ "<init>" ++ "." := by decide
  have hsymbol : memberSymbol (memberSymbol owner "<init>") p.name =
      owner ++ ".<init>." ++ p.name := by
    simp only [hdots, memberSymbol, String.append_assoc]
  rw [ConstructorParameter.declare, failure?_bind fun _ => failure?_pure, Option.or_none, hsymbol]
  rfl

theorem Parameter.failure?_declare {p : Parameter} :
    failure? (p.declare owner) = (p.demand owner).fault? := by
  rw [Parameter.declare, failure?_bind fun _ => failure?_pure, Option.or_none]
  rfl

theorem Function.failure?_declare {f : Function} :
    failure? (f.declare owner) = (f.demands owner).findSome? Demand.fault? := by
  unfold Function.declare
  rw [failure?_bind fun _ => failure?_bind fun _ => failure?_bind fun _ => failure?_bind fun _ =>
    failure?_pure]
  simp only [failure?_mapM, failure?_optionMapM, failure?_declareModifiers,
    Parameter.failure?_declare, TypeParameter.failure?_declare, Function.demands,
    List.findSome?_append, List.findSome?_map, findSome?_flatMap, Option.or_none, Option.or_assoc,
    Function.comp_def]
  rfl

theorem Property.failure?_declare {p : Property} :
    failure? (p.declare owner) = (p.demands owner).findSome? Demand.fault? := by
  unfold Property.declare
  rw [failure?_bind fun _ => failure?_bind fun _ => failure?_pure, failure?_declareModifiers,
    Option.or_none, Property.demands, List.findSome?_append, List.findSome?_singleton]
  rfl

end failures

theorem Declaration.failure?_declare {d : Declaration} :
    failure? d.declare = d.demands.findSome? Demand.fault? := by
  unfold Declaration.declare
  rw [failure?_bind fun _ => failure?_bind fun _ => failure?_bind fun _ => failure?_bind fun _ =>
    failure?_bind fun _ => failure?_pure]
  simp only [failure?_mapM, failure?_optionMapM, failure?_declareModifiers,
    ConstructorParameter.failure?_declare, TypeParameter.failure?_declare,
    Function.failure?_declare, Property.failure?_declare, Declaration.demands,
    List.findSome?_append, List.findSome?_map, findSome?_flatMap, Option.or_none, Option.or_assoc,
    Function.comp_def]

theorem failure?_declareAll {ds : List Declaration} :
    failure? (declareAll ds) = (demands ds).findSome? Demand.fault? := by
  rw [declareAll, failure?_mapM, demands, findSome?_flatMap]
  simp only [Declaration.failure?_declare]

/-- **Declaring a document.**  It succeeds exactly if every demand is met; what it gives is then
    what the document stands for, entry by entry and in order; and the fault is that of the first
    demand that is not met. -/
theorem declareAll_exact (ds : List Declaration) :
    ((∃ es, declareAll ds = .ok es) ↔ ∀ x ∈ demands ds, x.IsMet) ∧
      (∀ es, declareAll ds = .ok es ↔ List.Forall₂ Declaration.StandsFor ds es) ∧
      ∀ fault, declareAll ds = .error fault ↔ Demand.IsFirstFault (demands ds) fault := by
  refine ⟨?_, fun es => declareAll_eq_ok_iff, fun fault => ?_⟩
  · rw [← failure?_eq_none_iff, failure?_declareAll, Demand.findSome?_fault?_eq_none_iff]
  · rw [← failure?_eq_some_iff, failure?_declareAll, Demand.findSome?_fault?_eq_some_iff]

end CompanionSource.Written
