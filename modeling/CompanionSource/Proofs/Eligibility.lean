import CompanionSource.Proofs.Traversal
import CompanionSource.Synthesis.Eligibility

/-! # What eligibility means

    The checks before a companion is generated, as conditions on the declaration:

    - a declaration can be **derived from** if it is an interface or an abstract class that is
      constructed without arguments;
    - the **fields** that a companion goes by are the parameters of the primary constructor, all
      of them and in their order. -/

namespace CompanionSource.Synthesis

open Traversal

/-! ### Derivation -/

/-- The declaration is an interface, or an abstract class that can be derived from and is
    constructed without arguments. -/
def IsDerivable (d : Declaration) : Prop :=
  d.kind = .interface ∨
    (d.kind = .class_ ∧ d.has .abstract = true ∧ d.has .sealed = false ∧
      (d.constructor? = none ∨ d.constructor? = some []))

theorem isOpenlyAbstract_iff {d : Declaration} :
    isOpenlyAbstract d = true ↔
      d.kind = .class_ ∧ d.has .abstract = true ∧ d.has .sealed = false := by
  unfold isOpenlyAbstract
  rw [Bool.and_eq_true, Bool.and_eq_true, Bool.not_eq_true', beq_iff_eq, and_assoc]

theorem checkVisible_eq_ok_iff {d : Declaration} :
    checkVisible d = .ok () ↔ d.visibility ≠ .private_ := by
  unfold checkVisible Declaration.isPrivate
  cases d.visibility <;> simp

theorem checkWrappable_eq_ok_iff {d : Declaration} :
    checkWrappable d = .ok () ↔ d.visibility ≠ .private_ ∧ IsDerivable d := by
  rw [← checkVisible_eq_ok_iff]
  unfold checkWrappable IsDerivable
  cases checkVisible d with
  | error e => simp
  | ok _ =>
    -- Only a class that is openly abstract is asked for its constructor.
    by_cases hinterface : d.kind = .interface
    · simp [hinterface]
    · by_cases habstract : isOpenlyAbstract d = true
      · obtain ⟨hkind, hmodifiers⟩ := isOpenlyAbstract_iff.mp habstract
        match d.constructor? with
        | none => simp [habstract, hkind, hmodifiers]
        | some [] => simp [habstract, hkind, hmodifiers]
        | some (_ :: _) => simp [habstract, hkind]
      · have hnot := habstract
        rw [isOpenlyAbstract_iff] at hnot
        simp only [hinterface, habstract, if_false, false_or, reduceCtorEq, true_and, false_iff]
        intro h
        obtain ⟨hkind, hisAbstract, hsealed, -⟩ := h
        exact hnot ⟨hkind, hisAbstract, hsealed⟩

/-! ### Constructors -/

theorem typedParameter_eq_ok_iff {owner : String} {p : Declared.ConstructorParameter}
    {t : TypedParameter} :
    typedParameter owner p = .ok t ↔ t.parameter = p ∧ p.type = .resolved t.type := by
  unfold typedParameter
  cases htype : p.type with
  | resolved type =>
    simp only [Except.ok.injEq, Declared.TypeRef.resolved.injEq]
    constructor
    · intro h
      subst h
      exact ⟨rfl, rfl⟩
    · intro h
      obtain ⟨rfl, rfl⟩ := h
      rfl
  | unresolved text => simp

theorem parameters_of_typedParameters {owner : String} {ps : List Declared.ConstructorParameter}
    {ts : List TypedParameter} (h : ps.mapM (typedParameter owner) = .ok ts) :
    ts.map (·.parameter) = ps := by
  have hparameters : List.Forall₂ (fun p q => p = q) (ts.map (·.parameter)) ps := by
    rw [List.forall₂_map_left_iff]
    exact (mapM_eq_ok_iff.mp h).flip.imp fun _ _ ht => (typedParameter_eq_ok_iff.mp ht).1
  rw [List.forall₂_eq_eq_eq] at hparameters
  exact hparameters

/-- All checks were passed, and the parameters of the constructor have types. -/
theorem exists_mapM_of_constructorFields {directive : Directive} {d : Declaration}
    {ts : List TypedParameter} (h : constructorFields directive d = .ok ts) :
    ∃ ps, d.constructor? = some ps ∧ ps.mapM (typedParameter d.name) = .ok ts := by
  unfold constructorFields at h
  -- Each check refuses or goes on to the next one.
  split at h
  · cases h
  split at h
  · cases h
  split at h
  · cases h
  split at h
  · cases h
  · cases h
  · next ps _ hps => exact ⟨ps, hps, h⟩

/-- The fields are the parameters of the constructor, all of them and in their order. -/
theorem constructor?_of_constructorFields {directive : Directive} {d : Declaration}
    {ts : List TypedParameter} (h : constructorFields directive d = .ok ts) :
    d.constructor? = some (ts.map (·.parameter)) := by
  obtain ⟨ps, hps, hts⟩ := exists_mapM_of_constructorFields h
  rw [hps, parameters_of_typedParameters hts]

/-- The fields have the types of the parameters. -/
theorem types_of_constructorFields {directive : Directive} {d : Declaration}
    {ts : List TypedParameter} (h : constructorFields directive d = .ok ts) :
    ∀ t ∈ ts, t.parameter.type = .resolved t.type := by
  obtain ⟨ps, -, hts⟩ := exists_mapM_of_constructorFields h
  have htyped : List.Forall₂ (fun t p => t.parameter.type = .resolved t.type ∧ t.parameter = p)
      ts ps := by
    refine (mapM_eq_ok_iff.mp hts).flip.imp fun t p ht => ?_
    obtain ⟨rfl, htype⟩ := typedParameter_eq_ok_iff.mp ht
    exact ⟨htype, rfl⟩
  exact ((List.forall₂_and_left ts ps).mp htyped).1

end CompanionSource.Synthesis
