import CompanionSource.Proofs.Snapshot.Selection

/-! # What names stand for

    A snapshot answers to two sorts of names:

    - a **qualified name** is that of one declaration at most;
    - a **written name** is read in a namespace.  It stands for the member of the namespace with
      this name, and only if there is none for the declaration with this qualified name.

    So in its own namespace the type path of a declaration stands for the declaration itself,
    whatever else has this name. -/

namespace CompanionSource.Snapshot

variable {s : Snapshot} {d : Declaration} {scope : String} {type : TypeExpr}

/-- The name, written in the namespace `scope`, stands for the declaration. -/
def StandsFor (s : Snapshot) (scope name : String) (d : Declaration) : Prop :=
  d ∈ s.declarations ∧
    (d.name = Name.qualify scope name ∨
      d.name = name ∧ ∀ e ∈ s.declarations, e.name ≠ Name.qualify scope name)

theorem declaration?_eq_none_iff {name : String} :
    s.declaration? name = none ↔ ∀ e ∈ s.declarations, e.name ≠ name := by
  simp [declaration?_eq_find?]

/-- A type means what its name stands for. -/
theorem resolve?_eq_some_iff :
    s.resolve? type scope = some d ↔ s.StandsFor scope type.name d := by
  have hqualified : s.declaration? type.name = some d ↔ d ∈ s.declarations ∧ d.name = type.name :=
    declaration?_eq_some_iff
  unfold resolve? StandsFor Name.qualify
  split
  · -- At the root the two names are one.
    rw [hqualified]
    refine and_congr_right fun hd => ⟨Or.inl, ?_⟩
    rintro (hname | ⟨hname, -⟩)
    · exact hname
    · exact hname
  · rw [Option.or_eq_some_iff, hqualified, declaration?_eq_some_iff, declaration?_eq_none_iff]
    tauto

/-- In its own namespace, a declaration is what its type path stands for. -/
theorem standsFor_typePath (hd : d ∈ s.declarations) : s.StandsFor d.scope d.typePath d :=
  ⟨hd, Or.inl (qualify_typePath hd).symm⟩

end CompanionSource.Snapshot
