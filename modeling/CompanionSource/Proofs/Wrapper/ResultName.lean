import CompanionSource.Proofs.FreshName
import CompanionSource.Proofs.Wrapper.Capture

/-! # The name of a result

    An override of a function that returns a value keeps the value in a local until it has been
    logged.  The name of the local is the first that the **search for a fresh name** finds, which
    starts from `result` and has the names of the parameters as the taken ones.

    So however many parameters there are, the search ends, after no more rounds than they have
    distinct names, and no parameter is hidden by the local. -/

namespace CompanionSource.Synthesis

open Source (localNames)

variable {w : Wrapper} {f : Declared.Function} {g : Source.Function}

/-- An override has one local at most: the result, if it returns one. -/
theorem Wrapper.localNames_of_overrideFunction (h : w.overrideFunction f = .ok g) :
    localNames g.body =
      if g.returns.isSome then [freshName resultLocal (g.parameters.map (·.name))] else [] := by
  have hnames := names_of_overrideFunction h
  obtain ⟨parameters, -, rfl⟩ := overrideFunction_eq_ok_iff.mp h
  rw [hnames]
  show localNames (w.functionBody f) = if (returnedType? f).isSome then [functionResult f] else []
  rw [localNames_functionBody, returnsValue_eq_isSome]

/-- **Fresh names.**  The search for a fresh name always ends, in one way only.  It finds the base
    with the fewest underscores that is not taken, and tries no more taken names than there are
    distinct ones.  The only local of an override is found by such a search, and is called
    differently from every parameter. -/
theorem freshName_least :
    (∀ (base : String) (taken : List String), ∃ k ≤ taken.toFinset.card,
      (∀ rounds last, Searches taken base rounds last ↔ rounds = k ∧ last = freshName base taken) ∧
        freshName base taken = underscored base k ∧ IsLeast {j | underscored base j ∉ taken} k) ∧
    ∀ (w : Wrapper) (f : Declared.Function) (g : Source.Function), w.overrideFunction f = .ok g →
      (localNames g.body =
        if g.returns.isSome then [freshName resultLocal (g.parameters.map (·.name))] else []) ∧
      ∀ name ∈ localNames g.body, ∀ p ∈ g.parameters, name ≠ p.name := by
  constructor
  · intro base taken
    obtain ⟨k, hsearch⟩ := exists_searches_freshName base taken
    refine ⟨k, hsearch.rounds_le_card, ?_, (searches_iff.mp hsearch).1, hsearch.isLeast⟩
    intro rounds last
    constructor
    · intro hother
      exact hother.unique hsearch
    · rintro ⟨rfl, rfl⟩
      exact hsearch
  · intro w f g hg
    have hlocals := Wrapper.localNames_of_overrideFunction hg
    refine ⟨hlocals, fun name hname p hp heq => ?_⟩
    -- A local there is only if a result is returned, and then it is the fresh name.
    have hfresh : name = freshName resultLocal (g.parameters.map (·.name)) := by
      rw [hlocals] at hname
      split at hname
      · exact List.mem_singleton.mp hname
      · cases hname
    refine freshName_not_mem resultLocal (g.parameters.map (·.name)) ?_
    rw [← hfresh, heq]
    exact List.mem_map_of_mem hp

/-- Parameters that take the first names away, one of them for no use. -/
theorem freshName_least_result :
    let w : Wrapper :=
      { owner := "a.Api", tag := "Tag", log := memberChain "println", markers := "m" }
    let int : Declared.TypeRef := .resolved (.named "Int")
    let f : Declared.Function :=
      { name := "sum"
        parameters := ["result", "result_", "result___"].map fun name => { name, type := int }
        returns := some int }
    ∃ g, w.overrideFunction f = .ok g ∧ localNames g.body = ["result__"] ∧
      ∀ name ∈ localNames g.body, ∀ p ∈ g.parameters, name ≠ p.name := by
  intro w int f
  have hg : w.overrideFunction f = .ok _ := rfl
  obtain ⟨hlocals, hfresh⟩ := freshName_least.2 w f _ hg
  refine ⟨_, hg, ?_, hfresh⟩
  rw [hlocals]
  decide

end CompanionSource.Synthesis
