import CompanionSource.Proofs.Eligibility
import CompanionSource.Proofs.Wrapper.Basic

/-! # Wrappers are complete

    Which declarations get a wrapper, and that the wrapper leaves no member out:

    - a declaration gets a wrapper exactly if it is **wrappable**: a condition on its kind, its
      constructor, the names of its properties and the types of its members;
    - the wrapper has one **override** for each member that can be overridden, in the declared
      order, and no other members;
    - there is one **warning** for each of these functions whose return type is not known.

    The conditions and the overrides are stated by relations that do not compute.  The relation
    `OneEach` between two lists says that nothing is left out, added or moved. -/

namespace CompanionSource.Synthesis

open Traversal

/-! ### One result for each chosen element -/

/-- The second list has one element, related by `R`, for each element of the first that is
    `chosen`, in the same order. -/
inductive OneEach {α β : Type} (chosen : α → Prop) (R : α → β → Prop) : List α → List β → Prop
  | nil : OneEach chosen R [] []
  | keep {x y xs ys} : chosen x → R x y → OneEach chosen R xs ys →
      OneEach chosen R (x :: xs) (y :: ys)
  | skip {x xs ys} : ¬chosen x → OneEach chosen R xs ys → OneEach chosen R (x :: xs) ys

namespace OneEach

variable {α β : Type} {chosen : α → Prop} {R : α → β → Prop}

/-- A list that is computed from what a filter leaves. -/
theorem of_filter {keep : α → Bool} (hkeep : ∀ x, keep x = true ↔ chosen x) {xs : List α}
    {ys : List β} (h : List.Forall₂ R (xs.filter keep) ys) : OneEach chosen R xs ys := by
  induction xs generalizing ys with
  | nil =>
    rw [List.filter_nil, List.forall₂_nil_left_iff] at h
    rw [h]
    exact .nil
  | cons x xs ih =>
    by_cases hx : keep x = true
    · rw [List.filter_cons_of_pos hx, List.forall₂_cons_left_iff] at h
      obtain ⟨y, ys, hy, hys, rfl⟩ := h
      exact .keep ((hkeep x).mp hx) hy (ih hys)
    · rw [List.filter_cons_of_neg hx] at h
      exact .skip (fun hchosen => hx ((hkeep x).mpr hchosen)) (ih h)

theorem map_filter {keep : α → Bool} (hkeep : ∀ x, keep x = true ↔ chosen x) {f : α → β}
    (hf : ∀ x, R x (f x)) (xs : List α) : OneEach chosen R xs ((xs.filter keep).map f) := by
  refine of_filter hkeep ?_
  rw [List.forall₂_map_right_iff, List.forall₂_same]
  exact fun x _ => hf x

/-- A list to which each element adds what it is related to, or nothing. -/
theorem flatMap {f : α → List β} {xs : List α} (hkeep : ∀ x ∈ xs, chosen x → ∃ y, f x = [y] ∧ R x y)
    (hskip : ∀ x ∈ xs, ¬chosen x → f x = []) : OneEach chosen R xs (xs.flatMap f) := by
  induction xs with
  | nil => exact .nil
  | cons x xs ih =>
    rw [List.forall_mem_cons] at hkeep hskip
    rw [List.flatMap_cons]
    by_cases hx : chosen x
    · obtain ⟨y, hy, hR⟩ := hkeep.1 hx
      rw [hy]
      exact .keep hx hR (ih hkeep.2 hskip.2)
    · rw [hskip.1 hx]
      exact .skip hx (ih hkeep.2 hskip.2)

/-- Elements that are not chosen can be put back. -/
theorem of_filter_left {keep : α → Bool} (hkeep : ∀ x, chosen x → keep x = true) {xs : List α}
    {ys : List β} (h : OneEach chosen R (xs.filter keep) ys) : OneEach chosen R xs ys := by
  induction xs generalizing ys with
  | nil => exact h
  | cons x xs ih =>
    by_cases hx : keep x = true
    · rw [List.filter_cons_of_pos hx] at h
      cases h with
      | keep hchosen hR h => exact .keep hchosen hR (ih h)
      | skip hchosen h => exact .skip hchosen (ih h)
    · -- An element that was filtered out is not chosen, so nothing is missing for it.
      rw [List.filter_cons_of_neg hx] at h
      exact .skip (fun hchosen => hx (hkeep x hchosen)) (ih h)

end OneEach

/-! ### Conditions -/

/-- A member with these modifiers can be overridden. -/
structure Overridable (d : Declaration) (modifiers : ModifierSet) : Prop where
  /-- It is not private. -/
  visible : modifiers.contains .private_ = false
  /-- All members of an interface are open; those of a class say so. -/
  isOpen : d.kind = .interface ∨ modifiers.contains .abstract = true ∨
    modifiers.contains .open_ = true

/-- The declaration can get a wrapper. -/
structure Wrappable (d : Declaration) : Prop where
  /-- It is not private. -/
  visible : d.visibility ≠ .private_
  /-- The wrapper can derive from it. -/
  derivable : IsDerivable d
  /-- The name of the wrapper's field is free. -/
  delegate : ∀ p ∈ d.properties, p.name ≠ "delegate"
  /-- The types of the parameters of its functions are known. -/
  functions : ∀ f ∈ d.functions, Overridable d f.modifiers →
    ∀ p ∈ f.parameters, ∃ type, p.type = .resolved type
  /-- The types of its properties are known. -/
  properties : ∀ p ∈ d.properties, Overridable d p.modifiers → ∃ type, p.type = .resolved type

theorem isOverridable_iff {d : Declaration} {modifiers : ModifierSet} :
    isOverridable d modifiers = true ↔ Overridable d modifiers := by
  unfold isOverridable
  rw [Bool.and_eq_true, Bool.or_eq_true, Bool.or_eq_true, Bool.not_eq_true', beq_iff_eq, or_assoc]
  exact ⟨fun h => ⟨h.1, h.2⟩, fun h => ⟨h.visible, h.isOpen⟩⟩

theorem checkDelegate_eq_ok_iff {d : Declaration} :
    checkDelegate d = .ok () ↔ ∀ p ∈ d.properties, p.name ≠ "delegate" := by
  unfold checkDelegate
  cases hfind : d.properties.find? fun p => p.name == delegateField with
  | none =>
    rw [List.find?_eq_none] at hfind
    simp only [true_iff]
    intro p hp heq
    exact hfind p hp (beq_iff_eq.mpr heq)
  | some p =>
    have hname := List.find?_some hfind
    rw [beq_iff_eq] at hname
    simp only [reduceCtorEq, false_iff]
    intro hfree
    exact hfree p (List.mem_of_find?_eq_some hfind) hname

/-! ### Overrides -/

/-- `repeated` are the annotations among `marks` that are no markers in the namespace `scope`,
    as source. -/
def RepeatsAnnotations (scope : String) (marks : List Declared.Annotation)
    (repeated : List Source.Annotation) : Prop :=
  OneEach (fun a => a.isAnyMarker scope = false) (fun a b => b = a.toSource) marks repeated

/-- An override keeps the modifiers that a function passes on to its overrides. -/
def KeepsModifiers (declared override : ModifierSet) : Prop :=
  ∀ m, override.contains m = true ↔
    m = .override ∨ m ∈ [Modifier.suspend, .operator, .infix_] ∧ declared.contains m = true

/-- `g` overrides the function `f`. -/
structure OverridesFunction (scope : String) (f : Declared.Function)
    (g : Source.Function) : Prop where
  name : g.name = f.name
  doc : g.doc = f.doc
  annotations : RepeatsAnnotations scope f.annotations g.annotations
  modifiers : KeepsModifiers f.modifiers g.modifiers
  typeVariables : g.typeVariables = f.typeParameters
  receiver : g.receiver = none
  /-- The parameters have the declared names, types and numbers of arguments. -/
  parameters : List.Forall₂ (fun p q => ∃ type, p.type = .resolved type ∧
    q = { name := p.name, type, vararg := p.vararg }) f.parameters g.parameters
  /-- There is a return type exactly if it is known and stands for a value. -/
  returns : ∀ type, g.returns = some type ↔
    f.returns = some (.resolved type) ∧ type.isUnit = false

/-- `q` overrides the property `p`. -/
structure OverridesProperty (scope : String) (p : Declared.Property)
    (q : Source.Property) : Prop where
  name : q.name = p.name
  type : p.type = .resolved q.type
  mutable : q.mutable = p.mutable
  doc : q.doc = p.doc
  annotations : RepeatsAnnotations scope p.annotations q.annotations
  /-- A property passes no modifier on to its overrides. -/
  modifiers : ∀ m, q.modifiers.contains m = true ↔ m = .override
  initializer : q.initializer = none
  getter : q.getter.isSome = true
  setter : q.setter.isSome = p.mutable

/-- The function can be overridden, but its return type is not known. -/
def LosesResult (d : Declaration) (f : Declared.Function) : Prop :=
  Overridable d f.modifiers ∧ ∃ text, f.returns = some (.unresolved text)

/-- The warning about a function of which the return type is not known. -/
def WarnsAbout (d : Declaration) (f : Declared.Function) (warning : String) : Prop :=
  ∀ text, f.returns = some (.unresolved text) →
    warning = d.name ++ ": return type of `" ++ f.name ++ "` could not be resolved (`" ++ text
      ++ "`), forwarding without a result"

/-- What the wrapper of a declaration holds, with markers in the namespace `scope`. -/
structure IsComplete (scope : String) (d : Declaration) (g : Generated Source.Class) : Prop where
  /-- One override for each property that can be overridden. -/
  properties : OneEach (fun p => Overridable d p.modifiers) (OverridesProperty scope)
    d.properties g.item.properties
  /-- One override for each function that can be overridden. -/
  functions : OneEach (fun f => Overridable d f.modifiers) (OverridesFunction scope)
    d.functions g.item.functions
  /-- One warning for each function that is forwarded without its result. -/
  warnings : OneEach (LosesResult d) (WarnsAbout d) d.functions g.warnings

namespace Wrapper

variable {w : Wrapper}

theorem repeatsAnnotations (w : Wrapper) (marks : List Declared.Annotation) :
    RepeatsAnnotations w.markers marks (w.repeated marks) := by
  refine OneEach.map_filter ?_ ?_ marks
  · intro a
    rw [Bool.not_eq_true']
  · intro a
    rfl

theorem keepsModifiers (modifiers : ModifierSet) :
    KeepsModifiers modifiers (overrideModifiers modifiers) := by
  intro m
  rw [overrideModifiers, ModifierSet.contains_ofList, List.contains_iff_mem, List.mem_cons,
    List.mem_filter]
  rfl

theorem returnedType?_eq_some_iff {f : Declared.Function} {type : TypeExpr} :
    returnedType? f = some type ↔ f.returns = some (.resolved type) ∧ type.isUnit = false := by
  unfold returnedType?
  cases f.returns with
  | none => simp
  | some returned =>
    cases returned with
    | unresolved text => simp
    | resolved known =>
      by_cases hunit : known.isUnit = true
      · simp only [hunit, if_true, reduceCtorEq, Option.some.injEq,
          Declared.TypeRef.resolved.injEq, false_iff]
        intro h
        obtain ⟨rfl, hvalue⟩ := h
        rw [hunit] at hvalue
        cases hvalue
      · simp only [hunit, Bool.false_eq_true, if_false, Option.some.injEq,
          Declared.TypeRef.resolved.injEq]
        constructor
        · intro heq
          subst heq
          exact ⟨rfl, Bool.not_eq_true _ ▸ hunit⟩
        · intro h
          obtain ⟨rfl, -⟩ := h
          rfl

theorem overridesFunction {f : Declared.Function} {g : Source.Function}
    (h : w.overrideFunction f = .ok g) : OverridesFunction w.markers f g := by
  obtain ⟨parameters, hparameters, rfl⟩ := overrideFunction_eq_ok_iff.mp h
  exact
    { name := rfl
      doc := rfl
      annotations := w.repeatsAnnotations f.annotations
      modifiers := keepsModifiers f.modifiers
      typeVariables := rfl
      receiver := rfl
      parameters := hparameters.imp fun _ _ hq => overrideParameter_eq_ok_iff.mp hq
      returns := fun _ => returnedType?_eq_some_iff }

theorem overridesProperty {p : Declared.Property} {q : Source.Property}
    (h : w.overrideProperty p = .ok q) : OverridesProperty w.markers p q := by
  obtain ⟨type, htype, rfl⟩ := overrideProperty_eq_ok_iff.mp h
  exact
    { name := rfl
      type := htype
      mutable := rfl
      doc := rfl
      annotations := w.repeatsAnnotations p.annotations
      modifiers := fun m => by
        rw [ModifierSet.contains_ofList, List.contains_iff_mem, List.mem_singleton]
      initializer := rfl
      getter := rfl
      setter := by cases p.mutable <;> rfl }

/-- An override fails only on a parameter. -/
theorem exists_overrideFunction_iff {f : Declared.Function} :
    (∃ g, w.overrideFunction f = .ok g) ↔ ∀ p ∈ f.parameters, ∃ type, p.type = .resolved type := by
  have hone : ∀ p, (∃ q, w.overrideParameter f p = .ok q) ↔ ∃ type, p.type = .resolved type := by
    intro p
    simp only [overrideParameter_eq_ok_iff]
    rw [exists_comm]
    simp only [exists_and_left, exists_eq, and_true]
  simp only [← hone, ← exists_mapM_eq_ok_iff, mapM_eq_ok_iff, overrideFunction_eq_ok_iff]
  rw [exists_comm]
  simp only [exists_and_left, exists_eq, and_true]

theorem exists_overrideProperty_iff {p : Declared.Property} :
    (∃ q, w.overrideProperty p = .ok q) ↔ ∃ type, p.type = .resolved type := by
  simp only [overrideProperty_eq_ok_iff]
  rw [exists_comm]
  simp only [exists_and_left, exists_eq, and_true]

end Wrapper

/-! ### Wrappers -/

section wrappers
variable {ctx : Context} {d : Declaration}

theorem exists_wrapper_iff : (∃ g, wrapper ctx d = .ok g) ↔ Wrappable d := by
  -- Only members that are overridden are asked for their types, so the filters have to be seen
  -- through before the two sides can be compared.
  have hproperties : (∀ p ∈ overridableProperties d,
        ∃ q, (Wrapper.of ctx d).overrideProperty p = .ok q) ↔
      ∀ p ∈ d.properties, Overridable d p.modifiers → ∃ type, p.type = .resolved type := by
    simp only [Wrapper.exists_overrideProperty_iff, overridableProperties, List.mem_filter,
      isOverridable_iff, and_imp]
  have hfunctions : (∀ f ∈ overridableFunctions d,
        ∃ g, (Wrapper.of ctx d).overrideFunction f = .ok g) ↔
      ∀ f ∈ d.functions, Overridable d f.modifiers →
        ∀ p ∈ f.parameters, ∃ type, p.type = .resolved type := by
    simp only [Wrapper.exists_overrideFunction_iff, overridableFunctions, List.mem_filter,
      isOverridable_iff, and_imp]
  rw [← exists_mapM_eq_ok_iff] at hproperties hfunctions
  simp only [mapM_eq_ok_iff] at hproperties hfunctions
  simp only [wrapper_eq_ok_iff, checkWrappable_eq_ok_iff, checkDelegate_eq_ok_iff]
  constructor
  · intro h
    obtain ⟨_, ⟨hvisible, hderivable⟩, hdelegate, properties, functions, hps, hfs, -⟩ := h
    exact ⟨hvisible, hderivable, hdelegate, hfunctions.mp ⟨functions, hfs⟩,
      hproperties.mp ⟨properties, hps⟩⟩
  · intro h
    obtain ⟨properties, hps⟩ := hproperties.mpr h.properties
    obtain ⟨functions, hfs⟩ := hfunctions.mpr h.functions
    exact ⟨_, ⟨h.visible, h.derivable⟩, h.delegate, properties, functions, hps, hfs, rfl⟩

/-- The warnings of the functions that are overridden, and there are no others. -/
theorem warnings_complete (ctx : Context) (d : Declaration) :
    OneEach (LosesResult d) (WarnsAbout d) d.functions
      ((overridableFunctions d).flatMap (Wrapper.of ctx d).returnWarnings) := by
  refine .of_filter_left (fun f hloses => isOverridable_iff.mpr hloses.1) (.flatMap ?_ ?_)
  · intro f _ hloses
    obtain ⟨-, text, htext⟩ := hloses
    rw [Wrapper.returnWarnings, htext]
    refine ⟨_, rfl, ?_⟩
    intro text' htext'
    rw [htext] at htext'
    cases htext'
    rfl
  · -- What is left after the filter can be overridden, so its return type is known.
    intro f hf hkeeps
    have hoverridable := isOverridable_iff.mp (List.mem_filter.mp hf).2
    unfold Wrapper.returnWarnings
    split
    · next text htext => exact absurd ⟨hoverridable, text, htext⟩ hkeeps
    · rfl

theorem isComplete_of_wrapper {g : Generated Source.Class} (h : wrapper ctx d = .ok g) :
    IsComplete ctx.settings.markerNamespace d g := by
  obtain ⟨-, -, properties, functions, hps, hfs, rfl⟩ := wrapper_eq_ok_iff.mp h
  exact
    { properties := .of_filter (fun _ => isOverridable_iff)
        (hps.imp fun _ _ hq => Wrapper.overridesProperty hq)
      functions := .of_filter (fun _ => isOverridable_iff)
        (hfs.imp fun _ _ hg => Wrapper.overridesFunction hg)
      warnings := warnings_complete ctx d }

/-- **Completeness.**  Exactly the wrappable declarations get a wrapper, and it overrides each
    member that can be overridden, once and in the declared order. -/
theorem wrapper_complete (ctx : Context) (d : Declaration) :
    ((∃ g, wrapper ctx d = .ok g) ↔ Wrappable d) ∧
      ∀ g, wrapper ctx d = .ok g → IsComplete ctx.settings.markerNamespace d g :=
  ⟨exists_wrapper_iff, fun _ => isComplete_of_wrapper⟩

end wrappers

/-- Overloads, a result that is not known, and a private function that cannot be overridden and
    does not stand in the way either. -/
theorem wrapper_complete_overloads :
    let int : Declared.TypeRef := .resolved (.named "Int")
    let unknown : Declared.TypeRef := .unresolved "<ERROR TYPE>"
    let d : Declaration :=
      { name := "a.Api"
        kind := .interface
        properties := [{ name := "count", type := int, mutable := true }]
        functions :=
          [{ name := "run", parameters := [{ name := "x", type := int }], returns := some int },
            { name := "hide", parameters := [{ name := "x", type := unknown }],
              modifiers := .ofList [.private_] },
            { name := "run", parameters := [{ name := "xs", type := int, vararg := true }],
              returns := some unknown, annotations := [{ name := "NoLog" }],
              modifiers := .ofList [.suspend] }] }
    let ctx : Context := .of ⟨[], rfl⟩ {} .newYear2024
    Wrappable d ∧ ∃ g, wrapper ctx d = .ok g ∧ IsComplete "io.declsynth.annotations" d g := by
  intro int unknown d ctx
  have hwrappable : Wrappable d :=
    { visible := by decide
      derivable := Or.inl rfl
      delegate := by decide
      functions := by
        intro f hf hoverridable p hp
        rw [← isOverridable_iff] at hoverridable
        simp only [d, List.mem_cons, List.not_mem_nil, or_false] at hf
        rcases hf with rfl | rfl | rfl
        · exact ⟨_, congrArg Declared.Parameter.type (List.mem_singleton.mp hp)⟩
        · exact absurd hoverridable (by decide)
        · exact ⟨_, congrArg Declared.Parameter.type (List.mem_singleton.mp hp)⟩
      properties := by
        intro p hp _
        exact ⟨_, congrArg Declared.Property.type (List.mem_singleton.mp hp)⟩ }
  obtain ⟨g, hg⟩ := (wrapper_complete ctx d).1.mpr hwrappable
  exact ⟨hwrappable, g, hg, (wrapper_complete ctx d).2 g hg⟩

/-- A property does not pass on the modifiers that a function does. -/
theorem property_drops_modifiers :
    let d : Declaration :=
      { name := "a.Api"
        kind := .interface
        properties :=
          [{ name := "count", type := .resolved (.named "Int"),
             modifiers := .ofList [.suspend] }] }
    let ctx : Context := .of ⟨[], rfl⟩ {} .newYear2024
    ∃ g, wrapper ctx d = .ok g ∧
      ¬OneEach (fun p => Overridable d p.modifiers)
        (fun p q => KeepsModifiers p.modifiers q.modifiers) d.properties g.item.properties := by
  intro d ctx
  refine ⟨_, rfl, ?_⟩
  intro heach
  cases heach with
  | keep _ hkeeps _ =>
    have hsuspend := (hkeeps .suspend).mpr (Or.inr ⟨by decide, by decide⟩)
    revert hsuspend
    decide
  | skip hnot _ => exact hnot ⟨by decide, Or.inl rfl⟩

end CompanionSource.Synthesis
