import CompanionSource.Proofs.Name
import CompanionSource.Proofs.Snapshot.Soundness

/-! # Names in a snapshot

    A declaration of a snapshot can be told from the others in two ways:

    - by its **qualified name**, since no two declarations have the same one;
    - by its **namespace and type path**, since the qualified name is put together from these
      two.  This takes the check that a namespace which is given lies at the front of the
      qualified name.

    Generated source has only the namespace and the type path in it, so the second way is what
    says which declaration a generated function or class belongs to.

    The index of a snapshot relies on the first way: of two entries with one name it would find
    the later one only, but there are no two. -/

namespace CompanionSource

/-! ### Declarations -/

namespace Snapshot

/-- No two declarations of a snapshot have the same name. -/
theorem distinct_names (s : Snapshot) : (s.declarations.map (·.name)).Nodup :=
  (issues_eq_nil_iff.mp s.sound).1

variable {s : Snapshot} {d e : Declaration} {name : String}

theorem eq_of_name (hd : d ∈ s.declarations) (he : e ∈ s.declarations) (h : d.name = e.name) :
    d = e :=
  List.inj_on_of_nodup_map s.distinct_names hd he h

/-- The name of a declaration goes on from its namespace. -/
theorem within?_scope (hd : d ∈ s.declarations) :
    d.scope = "" ∨ ∃ rest, Name.within? d.scope d.name = some rest := by
  have hinner := s.innerIssues_eq_nil hd
  simp only [innerIssues, List.append_eq_nil_iff] at hinner
  have hscope := hinner.1.1.1.1
  unfold Declaration.scope
  cases hgiven : d.scope? with
  | none => exact Name.qualifier_eq_empty_or_within? d.name
  | some scope =>
    rw [hgiven] at hscope
    simp only [issueIf_eq_nil_iff, Bool.not_eq_false', containsName, Bool.or_eq_true] at hscope
    rcases hscope with hempty | hwithin
    · exact Or.inl (String.isEmpty_iff.mp hempty)
    · right
      show ∃ rest, Name.within? scope d.name = some rest
      split at hwithin
      · next rest hrest => exact ⟨rest, hrest⟩
      · cases hwithin

/-- The qualified name is the namespace and the type path. -/
theorem qualify_typePath (hd : d ∈ s.declarations) : Name.qualify d.scope d.typePath = d.name :=
  Name.qualify_relativeTo (within?_scope hd)

theorem eq_of_typePath (hd : d ∈ s.declarations) (he : e ∈ s.declarations)
    (hscope : d.scope = e.scope) (hpath : d.typePath = e.typePath) : d = e := by
  refine eq_of_name hd he ?_
  rw [← qualify_typePath hd, ← qualify_typePath he, hscope, hpath]

/-- The index has each declaration under its name. -/
theorem mem_index_iff {i : Nat} :
    (name, i) ∈ s.index ↔ ∃ d, s.declarations[i]? = some d ∧ d.name = name := by
  simp [index, List.mem_zipIdx_iff_getElem?]

theorem exists_of_lookup_index {i : Nat} (h : s.index.lookup name = some i) :
    ∃ d, s.declarations[i]? = some d ∧ d.name = name := by
  obtain ⟨front, back, hindex, -⟩ := List.lookup_eq_some_iff.mp h
  rw [← mem_index_iff, hindex]
  exact List.mem_append_right front List.mem_cons_self

theorem declaration?_eq_some_iff :
    s.declaration? name = some d ↔ d ∈ s.declarations ∧ d.name = name := by
  rw [declaration?, Option.bind_eq_some_iff]
  constructor
  · intro h
    obtain ⟨i, hi, hd⟩ := h
    obtain ⟨e, he, hname⟩ := exists_of_lookup_index hi
    obtain rfl : e = d := Option.some.inj (he.symm.trans hd)
    exact ⟨List.mem_of_getElem? he, hname⟩
  · intro h
    obtain ⟨hd, hname⟩ := h
    obtain ⟨i, hi⟩ := List.mem_iff_getElem?.mp hd
    -- The name is in the index, though not yet known to be there with this position only.
    have hsome : (s.index.lookup name).isSome :=
      List.lookup_isSome_iff.mpr ⟨_, mem_index_iff.mpr ⟨d, hi, hname⟩, beq_self_eq_true name⟩
    obtain ⟨j, hj⟩ := Option.isSome_iff_exists.mp hsome
    obtain ⟨e, he, hname'⟩ := exists_of_lookup_index hj
    obtain rfl := eq_of_name (List.mem_of_getElem? he) hd (hname'.trans hname.symm)
    exact ⟨j, hj, he⟩

/-- The index answers as a search through the declarations does. -/
theorem declaration?_eq_find? (s : Snapshot) (name : String) :
    s.declaration? name = s.declarations.find? fun d => d.name == name := by
  cases hfound : s.declarations.find? fun d => d.name == name with
  | none =>
    refine Option.eq_none_iff_forall_ne_some.mpr fun d hd => ?_
    obtain ⟨hmem, hname⟩ := declaration?_eq_some_iff.mp hd
    exact List.find?_eq_none.mp hfound d hmem (beq_iff_eq.mpr hname)
  | some d =>
    exact declaration?_eq_some_iff.mpr
      ⟨List.mem_of_find?_eq_some hfound, by simpa using List.find?_some hfound⟩

/-- What a type refers to is a declaration of the snapshot. -/
theorem mem_of_resolve? {type : TypeExpr} {scope : String}
    (h : s.resolve? type scope = some d) : d ∈ s.declarations := by
  unfold resolve? at h
  split at h
  · exact (declaration?_eq_some_iff.mp h).1
  · rw [Option.or_eq_some_iff] at h
    rcases h with hlocal | ⟨-, hglobal⟩
    · exact (declaration?_eq_some_iff.mp hlocal).1
    · exact (declaration?_eq_some_iff.mp hglobal).1

theorem mem_markedWith_iff {marker : String} :
    d ∈ s.markedWith marker ↔ d ∈ s.declarations ∧ d.isMarked marker = true := by
  rw [markedWith, List.mem_filter]

end Snapshot

end CompanionSource
