import CompanionSource.Proofs.Name
import CompanionSource.Proofs.Snapshot.Soundness
import Mathlib.Data.Finset.Card

/-! # Exact issues

    What the issues of a list of declarations say, and how many there are.

    - There are **none** exactly if the qualified names differ and each declaration is sound: a
      condition on its names, its namespace and its members that does not compute.
    - They are **complete**: a declaration that repeats a qualified name gives one issue for that,
      and all other issues are those that each declaration has by itself, one declaration after
      another.  So no issue hides another one. -/

namespace CompanionSource.Snapshot

/-! ### Sound declarations -/

/-- A declaration with which nothing is wrong by itself. -/
structure SoundDeclaration (d : Declaration) : Prop where
  /-- No segment of the qualified name is blank. -/
  segments : ∀ segment ∈ Name.segments d.name, Text.isBlankText segment = false
  /-- A namespace that is given is empty, or the qualified name goes on from it with a dot and
      something more. -/
  scope : ∀ scope, d.scope? = some scope →
    scope = "" ∨ ∃ rest, rest ≠ "" ∧ d.name = scope ++ "." ++ rest
  /-- No type parameter is blank. -/
  typeParameters : ∀ v ∈ d.typeParameters, Text.isBlankText v.name = false
  /-- The parameters of the primary constructor can stand in one list. -/
  constructor : ∀ ps, d.constructor? = some ps →
    SoundParameters (ps.map fun p => (p.name, p.vararg))
  /-- No function is blank, and its parameters can stand in one list. -/
  functions : ∀ f ∈ d.functions, Text.isBlankText f.name = false ∧
    SoundParameters (f.parameters.map fun p => (p.name, p.vararg))
  /-- No property is blank. -/
  properties : ∀ p ∈ d.properties, Text.isBlankText p.name = false
  /-- No two properties have the same name. -/
  distinctProperties : (d.properties.map (·.name)).Nodup

theorem containsName_iff {scope name : String} :
    containsName scope name = true ↔
      scope = "" ∨ ∃ rest, rest ≠ "" ∧ name = scope ++ "." ++ rest := by
  unfold containsName
  rw [Bool.or_eq_true, String.isEmpty_iff]
  refine or_congr Iff.rfl ?_
  simp only [← Name.within?_eq_some_iff]
  cases Name.within? scope name with
  | none => simp
  | some rest =>
    show (!rest.isEmpty) = true ↔ _
    simp only [Option.some.injEq, exists_eq_right', Bool.not_eq_true', ne_eq,
      ← String.isEmpty_iff, Bool.not_eq_true]

/-- The issues of a declaration within itself, each part taken from what there is to check. -/
theorem innerIssues_eq (d : Declaration) :
    innerIssues d =
      d.scope?.toList.flatMap (fun scope =>
          issueIf (!containsName scope d.name) d.name (.outsideNamespace scope))
        ++ d.typeParameters.flatMap (fun v =>
          issueIf (Text.isBlankText v.name) d.name .blankTypeParameter)
        ++ d.constructor?.toList.flatMap (fun ps =>
          parameterIssues (d.name ++ ".<init>") (ps.map fun p => (p.name, p.vararg)))
        ++ d.functions.flatMap (functionIssues d.name)
        ++ propertyIssuesFrom d.name [] d.properties := by
  unfold innerIssues
  cases d.scope? <;> cases d.constructor? <;> simp

/-- The names seen so far must not come again either. -/
theorem propertyIssuesFrom_eq_nil_iff {owner : String} {seen : List String}
    {ps : List Declared.Property} :
    propertyIssuesFrom owner seen ps = [] ↔
      (∀ p ∈ ps, Text.isBlankText p.name = false) ∧ (ps.map (·.name)).Nodup ∧
        ∀ p ∈ ps, p.name ∉ seen := by
  induction ps generalizing seen with
  | nil => simp [propertyIssuesFrom]
  | cons p ps ih =>
    rw [propertyIssuesFrom, List.map_cons, List.nodup_cons]
    cases hblank : Text.isBlankText p.name with
    | true => simp [hblank]
    | false =>
      -- A later name must be new to the names before the list and to the first name.
      have hseen : (∀ q ∈ ps, q.name ∉ p.name :: seen) ↔
          p.name ∉ ps.map (·.name) ∧ ∀ q ∈ ps, q.name ∉ seen := by
        simp only [List.mem_cons, not_or, List.mem_map, not_exists, not_and, forall_and]
      simp only [Bool.false_eq_true, if_false, List.append_eq_nil_iff, issueIf_eq_nil_iff, ih,
        hseen, List.contains_eq_mem, decide_eq_false_iff_not, List.forall_mem_cons, hblank]
      tauto

theorem functionIssues_eq_nil_iff {owner : String} {f : Declared.Function} :
    functionIssues owner f = [] ↔ Text.isBlankText f.name = false ∧
      SoundParameters (f.parameters.map fun p => (p.name, p.vararg)) := by
  rw [functionIssues, List.append_eq_nil_iff, issueIf_eq_nil_iff, parameterIssues_eq_nil_iff]

/-- The check of a declaration is exact. -/
theorem declarationIssues_eq_nil_iff_sound {d : Declaration} :
    declarationIssues [] d = [] ↔ SoundDeclaration d := by
  simp only [declarationIssues, innerIssues_eq, List.append_eq_nil_iff, List.flatMap_eq_nil_iff,
    issueIf_eq_nil_iff, functionIssues_eq_nil_iff, propertyIssuesFrom_eq_nil_iff,
    parameterIssues_eq_nil_iff, List.any_eq_false, Option.mem_toList, Bool.not_eq_false',
    Bool.not_eq_true, containsName_iff, List.contains_nil, and_true, List.not_mem_nil,
    not_false_eq_true, implies_true]
  constructor
  · intro h
    obtain ⟨hname, ⟨⟨⟨hscope, htypes⟩, hconstructor⟩, hfunctions⟩, hproperties, hdistinct⟩ := h
    exact ⟨hname, hscope, htypes, hconstructor, hfunctions, hproperties, hdistinct⟩
  · intro h
    exact ⟨h.segments, ⟨⟨⟨h.scope, h.typeParameters⟩, h.constructor⟩, h.functions⟩, h.properties,
      h.distinctProperties⟩

/-! ### Repeated declarations -/

/-- The issue is about a qualified name that was declared before. -/
def Issue.isRepetition (i : Issue) : Bool := i.complaint.kind == .duplicateDeclaration

theorem eq_of_mem_issueIf {i : Issue} {found : Bool} {location : String} {complaint : Complaint}
    (h : i ∈ issueIf found location complaint) : i = ⟨location, complaint⟩ := by
  cases found with
  | true => exact List.mem_singleton.mp h
  | false => cases h

/-- A check is about one sort of issue. -/
theorem isRepetition_of_mem_issueIf {i : Issue} {found : Bool} {location : String}
    {complaint : Complaint} (hkind : complaint.kind ≠ .duplicateDeclaration)
    (h : i ∈ issueIf found location complaint) : i.isRepetition = false := by
  rw [eq_of_mem_issueIf h]
  exact beq_false_of_ne hkind

theorem isRepetition_of_mem_parameterIssuesFrom {i : Issue} {location : String}
    {seen : List String} {ps : List (String × Bool)}
    (h : i ∈ parameterIssuesFrom location seen ps) : i.isRepetition = false := by
  induction ps generalizing seen with
  | nil => cases h
  | cons p ps ih =>
    rw [parameterIssuesFrom] at h
    split at h
    · rcases List.mem_cons.mp h with rfl | hrest
      · rfl
      · exact ih hrest
    · rw [List.mem_append, List.mem_append] at h
      rcases h with (htwice | hvararg) | hrest
      · exact isRepetition_of_mem_issueIf (by simp [Complaint.kind]) htwice
      · exact isRepetition_of_mem_issueIf (by simp [Complaint.kind]) hvararg
      · exact ih hrest

theorem isRepetition_of_mem_propertyIssuesFrom {i : Issue} {owner : String} {seen : List String}
    {ps : List Declared.Property} (h : i ∈ propertyIssuesFrom owner seen ps) :
    i.isRepetition = false := by
  induction ps generalizing seen with
  | nil => cases h
  | cons p ps ih =>
    rw [propertyIssuesFrom] at h
    split at h
    · rcases List.mem_cons.mp h with rfl | hrest
      · rfl
      · exact ih hrest
    · rcases List.mem_append.mp h with htwice | hrest
      · exact isRepetition_of_mem_issueIf (by simp [Complaint.kind]) htwice
      · exact ih hrest

/-- Within a declaration nothing is said about other declarations. -/
theorem isRepetition_of_mem_innerIssues {i : Issue} {d : Declaration} (h : i ∈ innerIssues d) :
    i.isRepetition = false := by
  simp only [innerIssues_eq, List.mem_append, List.mem_flatMap] at h
  rcases h with (((⟨_, -, hscope⟩ | ⟨_, -, htype⟩) | ⟨_, -, hconstructor⟩) | ⟨f, -, hfunction⟩) |
    hproperty
  · exact isRepetition_of_mem_issueIf (by simp [Complaint.kind]) hscope
  · exact isRepetition_of_mem_issueIf (by simp [Complaint.kind]) htype
  · exact isRepetition_of_mem_parameterIssuesFrom hconstructor
  · rcases List.mem_append.mp hfunction with hblank | hparameters
    · exact isRepetition_of_mem_issueIf (by simp [Complaint.kind]) hblank
    · exact isRepetition_of_mem_parameterIssuesFrom hparameters
  · exact isRepetition_of_mem_propertyIssuesFrom hproperty

/-! ### Declarations one by one -/

section one
variable {seen : List String} {d : Declaration}

theorem issues_singleton (d : Declaration) : issues [d] = declarationIssues [] d := by
  rw [issues, issuesFrom, issuesFrom, List.append_nil]

/-- The names before a declaration tell only whether its name repeats one of them. -/
theorem countP_declarationIssues :
    (declarationIssues seen d).countP Issue.isRepetition = if d.name ∈ seen then 1 else 0 := by
  have hnone {is : List Issue} (h : ∀ i ∈ is, i.isRepetition = false) :
      is.countP Issue.isRepetition = 0 := by
    rw [List.countP_eq_zero]
    intro i hi
    rw [h i hi]
    exact Bool.false_ne_true
  rw [declarationIssues, List.countP_append, List.countP_append,
    hnone fun _ hi => isRepetition_of_mem_issueIf (by simp [Complaint.kind]) hi,
    hnone fun _ hi => isRepetition_of_mem_innerIssues hi]
  by_cases hseen : d.name ∈ seen
  · simp [issueIf, hseen, Issue.isRepetition, Complaint.kind]
  · simp [issueIf, hseen]

/-- What else is wrong with a declaration is the same wherever it stands. -/
theorem filter_declarationIssues :
    (declarationIssues seen d).filter (fun i => !i.isRepetition) = declarationIssues [] d := by
  have hkept {is : List Issue} (h : ∀ i ∈ is, i.isRepetition = false) :
      is.filter (fun i => !i.isRepetition) = is := by
    rw [List.filter_eq_self]
    intro i hi
    rw [h i hi]
    rfl
  have hdropped : (issueIf (seen.contains d.name) d.name .declaredTwice).filter
      (fun i => !i.isRepetition) = [] := by
    rw [List.filter_eq_nil_iff]
    intro i hi
    rw [eq_of_mem_issueIf hi]
    exact Bool.false_ne_true
  rw [declarationIssues, List.filter_append, List.filter_append, hdropped,
    hkept fun _ hi => isRepetition_of_mem_issueIf (by simp [Complaint.kind]) hi,
    hkept fun _ hi => isRepetition_of_mem_innerIssues hi]
  simp [declarationIssues, issueIf]

end one

/-! ### Lists of declarations -/

/-- One declaration for each new name, and one issue for each of the others. -/
theorem countP_issuesFrom (seen : List String) (ds : List Declaration) :
    (issuesFrom seen ds).countP Issue.isRepetition +
      ((ds.map (·.name)).toFinset \ seen.toFinset).card = ds.length := by
  induction ds generalizing seen with
  | nil => simp [issuesFrom]
  | cons d ds ih =>
    have hrest := ih (d.name :: seen)
    rw [List.toFinset_cons] at hrest
    rw [issuesFrom, List.countP_append, countP_declarationIssues, List.map_cons, List.toFinset_cons,
      List.length_cons, ← hrest]
    by_cases hseen : d.name ∈ seen
    · -- A name that was seen is not counted again.
      have hmem : d.name ∈ seen.toFinset := List.mem_toFinset.mpr hseen
      rw [if_pos hseen, Finset.insert_sdiff_of_mem _ hmem, Finset.insert_eq_of_mem hmem]
      omega
    · -- A new name is counted here, and not among the later ones.
      have hmem : d.name ∉ seen.toFinset := fun h => hseen (List.mem_toFinset.mp h)
      have hsplit : insert d.name (ds.map (·.name)).toFinset \ seen.toFinset =
          insert d.name ((ds.map (·.name)).toFinset \ insert d.name seen.toFinset) := by
        ext name
        simp only [Finset.mem_sdiff, Finset.mem_insert]
        grind
      have hnew : d.name ∉ (ds.map (·.name)).toFinset \ insert d.name seen.toFinset := by
        simp only [Finset.mem_sdiff, Finset.mem_insert_self, not_true_eq_false, and_false,
          not_false_eq_true]
      rw [if_neg hseen, hsplit, Finset.card_insert_of_notMem hnew]
      omega

theorem filter_issuesFrom (seen : List String) (ds : List Declaration) :
    (issuesFrom seen ds).filter (fun i => !i.isRepetition) = ds.flatMap fun d => issues [d] := by
  induction ds generalizing seen with
  | nil => rfl
  | cons d ds ih =>
    rw [issuesFrom, List.filter_append, filter_declarationIssues, ih, List.flatMap_cons,
      issues_singleton]

/-- **Exact and complete.**  There are no issues exactly if the qualified names differ and each
    declaration is sound.  And none is kept back: there is one for each declaration that repeats a
    qualified name, and the others are those that each declaration has when it is alone. -/
theorem issues_exact (ds : List Declaration) :
    (issues ds = [] ↔ (ds.map (·.name)).Nodup ∧ ∀ d ∈ ds, SoundDeclaration d) ∧
      (issues ds).countP Issue.isRepetition = ds.length - (ds.map (·.name)).toFinset.card ∧
      (issues ds).filter (fun i => !i.isRepetition) = ds.flatMap fun d => issues [d] := by
  refine ⟨?_, ?_, filter_issuesFrom [] ds⟩
  · simp only [issues_eq_nil_iff, declarationIssues_eq_nil_iff_sound]
  · have hcount := countP_issuesFrom [] ds
    rw [List.toFinset_nil, Finset.sdiff_empty] at hcount
    exact Nat.eq_sub_of_add_eq hcount

end CompanionSource.Snapshot
