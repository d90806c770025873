import CompanionSource.Snapshot.Basic
import Mathlib.Data.List.Nodup

/-! # Sound snapshots

    What the absence of issues says about the declarations of a snapshot:

    - a list of **parameters** has no issues exactly if no name is blank, no name comes twice and
      no parameter but the last takes any number of arguments;
    - a list of **declarations** has no issues exactly if no name comes twice and each declaration
      has none on its own, wherever it stands.

    So a part of a snapshot is a snapshot again, and so are its declarations in another order. -/

namespace CompanionSource.Snapshot

theorem issueIf_eq_nil_iff {found : Bool} {location : String} {complaint : Complaint} :
    issueIf found location complaint = [] ↔ found = false := by
  cases found <;> simp [issueIf]

/-! ### Parameters -/

/-- Parameters, by name and whether they take any number of arguments, that can stand in one
    list. -/
structure SoundParameters (ps : List (String × Bool)) : Prop where
  named : ∀ p ∈ ps, Text.isBlankText p.1 = false
  distinct : (ps.map Prod.fst).Nodup
  varargLast : ∀ p ∈ ps.dropLast, p.2 = false

theorem soundParameters_cons_iff {p : String × Bool} {ps : List (String × Bool)} :
    SoundParameters (p :: ps) ↔
      Text.isBlankText p.1 = false ∧ (p.2 = false ∨ ps = []) ∧ p.1 ∉ ps.map Prod.fst ∧
        SoundParameters ps := by
  have hlast : (∀ q ∈ (p :: ps).dropLast, q.2 = false) ↔
      (p.2 = false ∨ ps = []) ∧ ∀ q ∈ ps.dropLast, q.2 = false := by
    cases ps with
    | nil => simp
    | cons q qs => simp [List.dropLast_cons_cons]
  constructor
  · intro h
    obtain ⟨hnamed, hdistinct, hvararg⟩ := h
    obtain ⟨hblank, hnamed⟩ := List.forall_mem_cons.mp hnamed
    obtain ⟨hnew, hdistinct⟩ := List.nodup_cons.mp hdistinct
    obtain ⟨hfirst, hvararg⟩ := hlast.mp hvararg
    exact ⟨hblank, hfirst, hnew, hnamed, hdistinct, hvararg⟩
  · intro h
    obtain ⟨hblank, hfirst, hnew, hnamed, hdistinct, hvararg⟩ := h
    exact ⟨List.forall_mem_cons.mpr ⟨hblank, hnamed⟩, List.nodup_cons.mpr ⟨hnew, hdistinct⟩,
      hlast.mpr ⟨hfirst, hvararg⟩⟩

/-- The names seen so far must not come again either. -/
theorem parameterIssuesFrom_eq_nil_iff {location : String} {seen : List String}
    {ps : List (String × Bool)} :
    parameterIssuesFrom location seen ps = [] ↔ SoundParameters ps ∧ ∀ p ∈ ps, p.1 ∉ seen := by
  induction ps generalizing seen with
  | nil =>
    simp only [parameterIssuesFrom, true_iff]
    exact ⟨⟨List.forall_mem_nil _, List.nodup_nil, List.forall_mem_nil _⟩, List.forall_mem_nil _⟩
  | cons p ps ih =>
    obtain ⟨name, vararg⟩ := p
    rw [parameterIssuesFrom, soundParameters_cons_iff]
    cases Text.isBlankText name with
    | true => simp
    | false =>
      have hvararg : (vararg && !ps.isEmpty) = false ↔ vararg = false ∨ ps = [] := by
        cases vararg <;> simp
      -- A later name must be new to the names before the list and to the first name.
      have hseen : (∀ p ∈ ps, p.1 ∉ name :: seen) ↔
          name ∉ ps.map Prod.fst ∧ ∀ p ∈ ps, p.1 ∉ seen := by
        simp only [List.mem_cons, not_or, List.mem_map, not_exists, not_and, forall_and]
      simp only [Bool.false_eq_true, if_false, List.append_eq_nil_iff, issueIf_eq_nil_iff, ih,
        hvararg, hseen, List.contains_eq_mem, decide_eq_false_iff_not, List.forall_mem_cons]
      tauto

theorem parameterIssues_eq_nil_iff {location : String} {ps : List (String × Bool)} :
    parameterIssues location ps = [] ↔ SoundParameters ps := by
  rw [parameterIssues, parameterIssuesFrom_eq_nil_iff]
  exact and_iff_left fun _ _ => List.not_mem_nil

/-! ### Declarations -/

/-- Only the names of the declarations before matter to a declaration.  The rest is its own. -/
theorem declarationIssues_eq_nil_iff {seen : List String} {d : Declaration} :
    declarationIssues seen d = [] ↔ d.name ∉ seen ∧ declarationIssues [] d = [] := by
  simp only [declarationIssues, List.append_eq_nil_iff, issueIf_eq_nil_iff, List.contains_eq_mem,
    decide_eq_false_iff_not, List.not_mem_nil, not_false_eq_true, and_true]
  tauto

theorem issuesFrom_eq_nil_iff {seen : List String} {ds : List Declaration} :
    issuesFrom seen ds = [] ↔
      (ds.map (·.name)).Nodup ∧ ∀ d ∈ ds, d.name ∉ seen ∧ declarationIssues [] d = [] := by
  induction ds generalizing seen with
  | nil => exact iff_of_true rfl ⟨List.nodup_nil, List.forall_mem_nil _⟩
  | cons d ds ih =>
    -- A later name must be new to the names before the list and to the first name.
    have hlater : (∀ e ∈ ds, e.name ∉ d.name :: seen ∧ declarationIssues [] e = []) ↔
        d.name ∉ ds.map (·.name) ∧ ∀ e ∈ ds, e.name ∉ seen ∧ declarationIssues [] e = [] := by
      simp only [List.mem_cons, not_or, List.mem_map, not_exists, not_and, forall_and, and_assoc]
    rw [issuesFrom, List.append_eq_nil_iff, declarationIssues_eq_nil_iff, ih, hlater, List.map_cons,
      List.nodup_cons, List.forall_mem_cons]
    tauto

/-- Declarations are without issues if their names differ and each is without issues on its own. -/
theorem issues_eq_nil_iff {ds : List Declaration} :
    issues ds = [] ↔ (ds.map (·.name)).Nodup ∧ ∀ d ∈ ds, declarationIssues [] d = [] := by
  rw [issues, issuesFrom_eq_nil_iff]
  simp only [List.not_mem_nil, not_false_eq_true, true_and]

theorem innerIssues_eq_nil (s : Snapshot) {d : Declaration} (hd : d ∈ s.declarations) :
    innerIssues d = [] :=
  (List.append_eq_nil_iff.mp ((issues_eq_nil_iff.mp s.sound).2 d hd)).2

/-- The parameters of a primary constructor in a snapshot can stand in one list. -/
theorem soundParameters_of_constructor (s : Snapshot) {d : Declaration}
    (hd : d ∈ s.declarations) {ps : List Declared.ConstructorParameter}
    (hps : d.constructor? = some ps) :
    SoundParameters (ps.map fun p => (p.name, p.vararg)) := by
  have hinner := s.innerIssues_eq_nil hd
  simp only [innerIssues, hps, List.append_eq_nil_iff] at hinner
  exact parameterIssues_eq_nil_iff.mp hinner.1.1.2

/-- No two parameters of a primary constructor have one name. -/
theorem nodup_names_of_constructor (s : Snapshot) {d : Declaration} (hd : d ∈ s.declarations)
    {ps : List Declared.ConstructorParameter} (hps : d.constructor? = some ps) :
    (ps.map (·.name)).Nodup := by
  have hdistinct := (s.soundParameters_of_constructor hd hps).distinct
  rw [List.map_map] at hdistinct
  exact hdistinct

end CompanionSource.Snapshot
