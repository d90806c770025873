import CompanionSource.Proofs.Traversal
import CompanionSource.Synthesis.Wrapper

/-! # What a wrapper is made of

    One statement for each step that builds a wrapper: when the step succeeds, and what comes out
    of it.

    * The override of a **parameter** or a **property** needs a known type, and nothing else.
    * The override of a **function** needs the types of its parameters.
    * The **wrapper** needs a declaration that can be wrapped, the name of its own field, and the
      overrides of all members that can be overridden. -/

namespace CompanionSource.Synthesis

open Traversal

/-! ### Members -/

namespace Wrapper

variable {w : Wrapper}

theorem overrideParameter_eq_ok_iff {f : Declared.Function} {p : Declared.Parameter}
    {q : Source.Parameter} :
    w.overrideParameter f p = .ok q ↔
      ∃ type, p.type = .resolved type ∧ q = { name := p.name, type, vararg := p.vararg } := by
  unfold overrideParameter
  cases p.type with
  | resolved type => simp [eq_comm]
  | unresolved text => simp

theorem overrideFunction_eq_ok_iff {f : Declared.Function} {g : Source.Function} :
    w.overrideFunction f = .ok g ↔
      ∃ parameters,
        List.Forall₂ (fun p q => w.overrideParameter f p = .ok q) f.parameters parameters ∧
        g = { name := f.name
              doc := f.doc
              annotations := w.repeated f.annotations
              modifiers := overrideModifiers f.modifiers
              typeVariables := f.typeParameters
              parameters
              returns := returnedType? f
              body := w.functionBody f } := by
  simp only [overrideFunction, ← mapM_eq_ok_iff]
  cases f.parameters.mapM (w.overrideParameter f) with
  | error e => simp
  | ok parameters => simp [eq_comm]

theorem overrideProperty_eq_ok_iff {p : Declared.Property} {q : Source.Property} :
    w.overrideProperty p = .ok q ↔
      ∃ type, p.type = .resolved type ∧
        q = { name := p.name
              type
              mutable := p.mutable
              doc := p.doc
              annotations := w.repeated p.annotations
              modifiers := .ofList [.override]
              getter := some (w.getterBody p)
              setter := if p.mutable then some (w.setterBody p) else none } := by
  unfold overrideProperty
  cases p.type with
  | resolved type =>
    constructor
    · intro h
      cases h
      exact ⟨type, rfl, rfl⟩
    · intro h
      obtain ⟨_, ⟨⟩, rfl⟩ := h
      rfl
  | unresolved text =>
    constructor
    · intro h
      cases h
    · intro h
      obtain ⟨_, ⟨⟩, _⟩ := h

theorem names_of_overrideParameter {f : Declared.Function} {ps : List Declared.Parameter}
    {qs : List Source.Parameter}
    (h : List.Forall₂ (fun p q => w.overrideParameter f p = .ok q) ps qs) :
    qs.map (·.name) = ps.map (·.name) := by
  induction h with
  | nil => rfl
  | cons hp _ ih =>
    obtain ⟨type, -, rfl⟩ := overrideParameter_eq_ok_iff.mp hp
    rw [List.map_cons, List.map_cons, ih]

/-- An override has the parameters of the function, by their names. -/
theorem names_of_overrideFunction {f : Declared.Function} {g : Source.Function}
    (h : w.overrideFunction f = .ok g) :
    g.parameters.map (·.name) = f.parameters.map (·.name) := by
  obtain ⟨parameters, hparameters, rfl⟩ := overrideFunction_eq_ok_iff.mp h
  exact names_of_overrideParameter hparameters

end Wrapper

/-! ### Wrappers -/

/-- The class that wraps a declaration, given the overrides of its members. -/
def wrapperClass (ctx : Context) (d : Declaration) (properties : List Source.Property)
    (functions : List Source.Function) : Source.Class :=
  { name := wrapperName d
    doc := d.doc
    annotations := [ctx.provenance.mark]
    typeVariables := d.typeParameters
    parameters := [delegateParameter d]
    supertypes := [{ type := d.declaredType, constructed := d.kind != .interface }]
    properties
    functions }

theorem wrapper_eq_ok_iff {ctx : Context} {d : Declaration} {g : Generated Source.Class} :
    wrapper ctx d = .ok g ↔
      checkWrappable d = .ok () ∧ checkDelegate d = .ok () ∧
      ∃ properties functions,
        List.Forall₂ (fun p q => (Wrapper.of ctx d).overrideProperty p = .ok q)
          (overridableProperties d) properties ∧
        List.Forall₂ (fun f h => (Wrapper.of ctx d).overrideFunction f = .ok h)
          (overridableFunctions d) functions ∧
        g = { item := wrapperClass ctx d properties functions
              warnings := (overridableFunctions d).flatMap (Wrapper.of ctx d).returnWarnings } := by
  simp only [wrapper, bind_eq_ok_iff, ← mapM_eq_ok_iff]
  constructor
  · intro h
    obtain ⟨⟨⟩, hwrappable, ⟨⟩, hdelegate, properties, hproperties, functions, hfunctions, hg⟩ := h
    cases hg
    exact ⟨hwrappable, hdelegate, properties, functions, hproperties, hfunctions, rfl⟩
  · intro h
    obtain ⟨hwrappable, hdelegate, properties, functions, hproperties, hfunctions, rfl⟩ := h
    exact ⟨(), hwrappable, (), hdelegate, properties, hproperties, functions, hfunctions, rfl⟩

end CompanionSource.Synthesis
