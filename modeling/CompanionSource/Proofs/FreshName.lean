import CompanionSource.Synthesis.FreshName
import Mathlib.Data.Finset.Card
import Mathlib.Order.Bounds.Basic

/-! # Fresh names are fresh

    Of the names that a base gives with more and more underscores, no two are equal.  So one of
    the first names, one more than there are taken names, is not taken, and the search for a
    fresh name ends with the first such name.

    The same name is found **round by round**, without any bound on the rounds: a round that meets
    a taken name puts an underscore at its end, and the first that meets a name that is not taken
    is the last one. -/

namespace CompanionSource.Synthesis

variable {base last : String} {taken : List String} {rounds : Nat}

/-- The base and the name tell the number of underscores. -/
theorem underscored_injective (base : String) : Function.Injective (underscored base) := by
  intro j k h
  have hlength := congrArg String.length h
  simp only [underscored, String.length_append, String.length_ofList, List.length_replicate]
    at hlength
  omega

/-- A number of underscores that makes the base differ from every taken name. -/
theorem exists_underscored_not_mem (base : String) (taken : List String) :
    ∃ k ≤ taken.length, underscored base k ∉ taken := by
  by_contra hall
  have hmem : ∀ k ≤ taken.length, underscored base k ∈ taken := by
    intro k hk
    by_contra hfree
    exact hall ⟨k, hk, hfree⟩
  -- More distinct names than there are places for them.
  have hnodup : ((List.range (taken.length + 1)).map (underscored base)).Nodup :=
    List.nodup_range.map (underscored_injective base)
  have hsubset : (List.range (taken.length + 1)).map (underscored base) ⊆ taken := by
    intro name hname
    obtain ⟨k, hk, rfl⟩ := List.mem_map.mp hname
    exact hmem k (Nat.le_of_lt_succ (List.mem_range.mp hk))
  have hle := hnodup.length_le_of_subset hsubset
  rw [List.length_map, List.length_range] at hle
  omega

/-- The fresh name is the base with the fewest underscores that is not taken. -/
theorem exists_freshName_eq (base : String) (taken : List String) :
    ∃ k, freshName base taken = underscored base k ∧ underscored base k ∉ taken ∧
      ∀ j < k, underscored base j ∈ taken := by
  obtain ⟨n, hn, hfree⟩ := exists_underscored_not_mem base taken
  -- The search goes one name further than there are taken ones, so it finds something.
  have hsome : ((List.range (taken.length + 1)).find?
      fun k => !taken.contains (underscored base k)).isSome := by
    rw [List.find?_isSome]
    exact ⟨n, List.mem_range.mpr (Nat.lt_succ_of_le hn), by simpa using hfree⟩
  obtain ⟨k, hk⟩ := Option.isSome_iff_exists.mp hsome
  obtain ⟨hkfree, -, hleast⟩ := List.find?_range_eq_some.mp hk
  refine ⟨k, ?_, by simpa using hkfree, ?_⟩
  · rw [freshName, hk]
    rfl
  · intro j hj
    simpa using hleast j hj

theorem freshName_not_mem (base : String) (taken : List String) :
    freshName base taken ∉ taken := by
  obtain ⟨k, heq, hfree, -⟩ := exists_freshName_eq base taken
  rw [heq]
  exact hfree

/-! ### Rounds -/

theorem underscored_zero (base : String) : underscored base 0 = base := by
  simp [underscored]

/-- The first of some underscores can be taken to the base. -/
theorem underscored_push (base : String) (k : Nat) :
    underscored (base.push '_') k = underscored base (k + 1) := by
  rw [← String.toList_inj]
  simp [underscored, List.replicate_succ]

/-- The search from a name has so many rounds that meet a taken name, and then one that meets a
    name that is not taken. -/
inductive Searches (taken : List String) : String → Nat → String → Prop
  /-- The name is not taken. -/
  | found {name : String} (hfree : name ∉ taken) : Searches taken name 0 name
  /-- The name is taken, and the search goes on with one more underscore. -/
  | more {name last : String} {rounds : Nat} (htaken : name ∈ taken)
      (hrest : Searches taken (name.push '_') rounds last) : Searches taken name (rounds + 1) last

/-- What the rounds of a search have met: each one underscore more than the one before, all of
    them taken but the last. -/
theorem searches_iff :
    Searches taken base rounds last ↔
      last = underscored base rounds ∧ last ∉ taken ∧ ∀ j < rounds, underscored base j ∈ taken := by
  constructor
  · intro h
    induction h with
    | found hfree => exact ⟨(underscored_zero _).symm, hfree, fun j hj => absurd hj (by omega)⟩
    | more htaken _ ih =>
      obtain ⟨hlast, hfree, hrounds⟩ := ih
      refine ⟨hlast.trans (underscored_push _ _), hfree, fun j hj => ?_⟩
      cases j with
      | zero => rwa [underscored_zero]
      | succ j =>
        rw [← underscored_push]
        exact hrounds j (by omega)
  · rintro ⟨rfl, hfree, hrounds⟩
    induction rounds generalizing base with
    | zero =>
      rw [underscored_zero] at hfree ⊢
      exact .found hfree
    | succ rounds ih =>
      have htaken := hrounds 0 (by omega)
      rw [underscored_zero] at htaken
      rw [← underscored_push] at hfree ⊢
      refine .more htaken (ih hfree fun j hj => ?_)
      rw [underscored_push]
      exact hrounds (j + 1) (by omega)

/-- The search ends, and what it finds is the fresh name. -/
theorem exists_searches_freshName (base : String) (taken : List String) :
    ∃ rounds, Searches taken base rounds (freshName base taken) := by
  obtain ⟨k, heq, hfree, hrounds⟩ := exists_freshName_eq base taken
  exact ⟨k, searches_iff.mpr ⟨heq, heq ▸ hfree, hrounds⟩⟩

namespace Searches

/-- The search finds the name with the fewest underscores of all that are not taken. -/
theorem isLeast (h : Searches taken base rounds last) :
    IsLeast {k | underscored base k ∉ taken} rounds := by
  obtain ⟨rfl, hfree, hrounds⟩ := searches_iff.mp h
  refine ⟨hfree, fun k hk => ?_⟩
  by_contra hless
  exact hk (hrounds k (by omega))

/-- There is one way only for a search to end. -/
theorem unique {rounds' : Nat} {last' : String} (h : Searches taken base rounds last)
    (h' : Searches taken base rounds' last') : rounds = rounds' ∧ last = last' := by
  obtain rfl := h.isLeast.unique h'.isLeast
  exact ⟨rfl, (searches_iff.mp h).1.trans (searches_iff.mp h').1.symm⟩

/-- No search has more rounds that meet a taken name than there are distinct ones. -/
theorem rounds_le_card (h : Searches taken base rounds last) : rounds ≤ taken.toFinset.card := by
  obtain ⟨-, -, hrounds⟩ := searches_iff.mp h
  -- Each of these rounds has met another name.
  have hmet : (Finset.range rounds).image (underscored base) ⊆ taken.toFinset := by
    intro name hname
    obtain ⟨j, hj, rfl⟩ := Finset.mem_image.mp hname
    exact List.mem_toFinset.mpr (hrounds j (Finset.mem_range.mp hj))
  have hcard := Finset.card_le_card hmet
  rwa [Finset.card_image_of_injective _ (underscored_injective base), Finset.card_range] at hcard

end Searches

end CompanionSource.Synthesis
