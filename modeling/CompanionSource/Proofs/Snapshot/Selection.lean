import CompanionSource.Proofs.Snapshot.Names

/-! # Snapshots that share declarations

    Two snapshots are made from a given one: one with a declaration **left out**, and one with the
    declarations in **another order**.  Both are snapshots again, as no check looks at anything
    but the names and each declaration on its own.

    What a snapshot answers does not depend on the order of its declarations, because names are
    distinct.  Without a declaration, it answers the same to every question to which that
    declaration was not the answer. -/

namespace CompanionSource

/-! ### The others -/

namespace Declaration

variable {d e : Declaration}

/-- The declarations of a list with other names. -/
def others (d : Declaration) (ds : List Declaration) : List Declaration :=
  ds.filter fun e => e.name != d.name

theorem others_cons_of_eq (h : e.name = d.name) (ds : List Declaration) :
    d.others (e :: ds) = d.others ds := by
  simp [others, h]

theorem others_cons_of_ne (h : e.name ≠ d.name) (ds : List Declaration) :
    d.others (e :: ds) = e :: d.others ds := by
  simp [others, h]

end Declaration

namespace Snapshot

variable {s s' : Snapshot} {d e : Declaration} {name scope : String} {type : TypeExpr}

/-! ### Answers -/

/-- An answer depends on the declarations of this name alone. -/
theorem declaration?_congr
    (h : ∀ d, d.name = name → (d ∈ s'.declarations ↔ d ∈ s.declarations)) :
    s'.declaration? name = s.declaration? name := by
  refine Option.ext fun d => ?_
  rw [declaration?_eq_some_iff, declaration?_eq_some_iff]
  exact and_congr_left (h d)

/-! ### Another order -/

/-- The declarations of a snapshot in another order. -/
def reordered (s : Snapshot) {ds : List Declaration} (h : ds.Perm s.declarations) : Snapshot where
  declarations := ds
  sound := by
    obtain ⟨hdistinct, halone⟩ := issues_eq_nil_iff.mp s.sound
    rw [issues_eq_nil_iff]
    exact ⟨(h.map _).nodup_iff.mpr hdistinct, fun d hd => halone d (h.mem_iff.mp hd)⟩

section reordered
variable {ds : List Declaration} (h : ds.Perm s.declarations)
include h

theorem resolve?_reordered : (s.reordered h).resolve? type scope = s.resolve? type scope := by
  have hsame : ∀ name, (s.reordered h).declaration? name = s.declaration? name := by
    intro name
    exact declaration?_congr fun d _ => h.mem_iff
  rw [resolve?, resolve?, hsame, hsame]

theorem markedWith_reordered (marker : String) :
    ((s.reordered h).markedWith marker).Perm (s.markedWith marker) :=
  h.filter _

end reordered

/-! ### Leaving out a declaration -/

/-- The snapshot without a declaration. -/
def without (s : Snapshot) (d : Declaration) : Snapshot where
  declarations := d.others s.declarations
  sound := by
    obtain ⟨hdistinct, halone⟩ := issues_eq_nil_iff.mp s.sound
    rw [issues_eq_nil_iff]
    refine ⟨hdistinct.sublist (List.filter_sublist.map _), fun e he => ?_⟩
    exact halone e (List.mem_of_mem_filter he)

theorem mem_without_iff (hd : d ∈ s.declarations) :
    e ∈ (s.without d).declarations ↔ e ∈ s.declarations ∧ e ≠ d := by
  show e ∈ d.others s.declarations ↔ _
  rw [Declaration.others, List.mem_filter, bne_iff_ne]
  refine and_congr_right fun he => not_congr ?_
  constructor
  · intro hname
    exact eq_of_name he hd hname
  · intro heq
    rw [heq]

theorem declaration?_without (hd : d ∈ s.declarations) (h : s.declaration? name ≠ some d) :
    (s.without d).declaration? name = s.declaration? name := by
  refine declaration?_congr fun e hname => ?_
  rw [mem_without_iff hd]
  refine and_iff_left_of_imp fun he => ?_
  intro heq
  subst heq
  exact h (declaration?_eq_some_iff.mpr ⟨he, hname⟩)

/-- A type that did not mean the declaration means the same without it. -/
theorem resolve?_without (hd : d ∈ s.declarations) (h : s.resolve? type scope ≠ some d) :
    (s.without d).resolve? type scope = s.resolve? type scope := by
  unfold resolve? at h ⊢
  split
  · next hempty =>
    rw [if_pos hempty] at h
    exact declaration?_without hd h
  · next hscope =>
    rw [if_neg hscope] at h
    -- Only if nothing lies in the namespace, the qualified name is asked for at all.
    cases hlocal : s.declaration? (scope ++ "." ++ type.name) with
    | some found =>
      rw [hlocal, Option.some_or] at h
      rw [declaration?_without hd (hlocal ▸ h), hlocal, Option.some_or, Option.some_or]
    | none =>
      rw [hlocal, Option.none_or] at h
      have hnone : s.declaration? (scope ++ "." ++ type.name) ≠ some d := by
        rw [hlocal]
        exact (Option.some_ne_none d).symm
      rw [declaration?_without hd hnone, hlocal, Option.none_or, Option.none_or,
        declaration?_without hd h]

theorem markedWith_without (s : Snapshot) (d : Declaration) (marker : String) :
    (s.without d).markedWith marker = d.others (s.markedWith marker) := by
  show (d.others s.declarations).filter _ = d.others (s.declarations.filter _)
  rw [Declaration.others, Declaration.others, List.filter_filter, List.filter_filter]
  simp only [Bool.and_comm]

end Snapshot

end CompanionSource
