import CompanionSource.Proofs.Round.Ledger

/-! # Batching

    A batch is filled by one call after another.  Each call has a namespace and a function.

    - A call adds one function, so at each moment the batch has as many functions as there were
      calls.
    - The units of the batch are those of the namespaces in the calls, in the order in which they
      came first, and a unit has the functions of its namespace in the order of the calls.

    How the calls of different namespaces are interleaved leaves no other trace: all that counts is
    which namespace came first, and what came under each of them. -/

namespace CompanionSource

/-! ### First occurrences -/

/-- The distinct keys are in the order in which they come first. -/
theorem Grouping.pairwise_idxOf_eraseDups {κ : Type} [DecidableEq κ] (ks : List κ) :
    ks.eraseDups.Pairwise fun k k' => ks.idxOf k < ks.idxOf k' := by
  induction ks using List.reverseRecOn with
  | nil => exact List.Pairwise.nil
  | append_singleton ks k ih =>
    have hkept : ∀ j ∈ ks, (ks ++ [k]).idxOf j = ks.idxOf j := by
      intro j hj
      exact List.idxOf_append_of_mem hj
    have hold : ks.eraseDups.Pairwise fun j j' => (ks ++ [k]).idxOf j < (ks ++ [k]).idxOf j' := by
      refine ih.imp_of_mem fun {j j'} hj hj' hlt => ?_
      rw [hkept j (List.mem_eraseDups.mp hj), hkept j' (List.mem_eraseDups.mp hj')]
      exact hlt
    rw [eraseDups_concat]
    by_cases hk : k ∈ ks
    · rw [if_pos hk]
      exact hold
    · -- A new key is behind all that came before.
      rw [if_neg hk, List.pairwise_append]
      refine ⟨hold, List.pairwise_singleton _ _, ?_⟩
      intro j hj j' hj'
      obtain rfl : j' = k := List.mem_singleton.mp hj'
      have hbefore : j ∈ ks := List.mem_eraseDups.mp hj
      rw [hkept j hbefore, List.idxOf_append_of_notMem hk]
      have hlt : ks.idxOf j < ks.length := List.idxOf_lt_length_of_mem hbefore
      omega

namespace Batch

open Grouping (grouped withKey)
open Source (TopLevel)

/-! ### The number of functions -/

theorem length_addTo (scope : String) (f : Source.Function)
    (gs : List (String × List Source.Function)) :
    ((addTo scope f gs).flatMap (·.2)).length = (gs.flatMap (·.2)).length + 1 := by
  induction gs with
  | nil => rfl
  | cons g gs ih =>
    unfold addTo
    by_cases h : g.1 = scope
    · simp only [h, if_true, List.flatMap_cons, List.length_append, List.length_singleton]
      omega
    · simp only [h, if_false, List.flatMap_cons, List.length_append, ih]
      omega

/-- A call adds one function. -/
theorem size_add (b : Batch) (scope : String) (f : Source.Function) :
    (b.add scope f).size = b.size + 1 := by
  rw [size, groups_add, length_addTo, size]

theorem size_ofCalls (file : String) (calls : List (String × Source.Function)) :
    (ofCalls file calls).size = calls.length := by
  induction calls using List.reverseRecOn with
  | nil => rfl
  | append_singleton calls call ih =>
    rw [ofCalls_concat, size_add, ih, List.length_append, List.length_singleton]

/-! ### The units -/

theorem map_scope_units (b : Batch) (provenance : Provenance) :
    ((b.units provenance).map fun u => u.key.scope) = b.groups.map Prod.fst := by
  simp only [units_eq_pmap, List.map_pmap, List.pmap_eq_map]

/-- The units in which the functions of calls belong, each with its namespace, the name of the
    file and the provenance. -/
structure AreUnitsOf (file : String) (provenance : Provenance)
    (calls : List (String × Source.Function)) (units : List SourceUnit) : Prop where
  /-- One unit for each namespace. -/
  scopes : (units.map fun u => u.key.scope) = (calls.map Prod.fst).eraseDups
  distinct : (units.map fun u => u.key.scope).Nodup
  /-- The namespaces are in the order in which they came first. -/
  ordered : units.Pairwise fun u v =>
    (calls.map Prod.fst).idxOf u.key.scope < (calls.map Prod.fst).idxOf v.key.scope
  files : ∀ u ∈ units, u.key.file = file
  provenances : ∀ u ∈ units, u.provenance = provenance
  /-- The functions of the namespace, in the order of the calls. -/
  members : ∀ u ∈ units, u.members = (withKey u.key.scope calls).map TopLevel.ofFunction

theorem areUnitsOf_units (file : String) (provenance : Provenance)
    (calls : List (String × Source.Function)) :
    AreUnitsOf file provenance calls ((ofCalls file calls).units provenance) := by
  have hscopes : ((ofCalls file calls).units provenance).map (fun u => u.key.scope) =
      (calls.map Prod.fst).eraseDups := by
    rw [map_scope_units, groups_ofCalls, Grouping.map_fst_grouped]
  refine ⟨hscopes, ?_, ?_, ?_, ?_, ?_⟩
  · rw [hscopes]
    exact Grouping.nodup_eraseDups _
  · have hpairwise := Grouping.pairwise_idxOf_eraseDups (calls.map Prod.fst)
    rw [← hscopes, List.pairwise_map] at hpairwise
    exact hpairwise
  · intro u hu
    obtain ⟨g, -, hkey, -, -⟩ := exists_group_of_mem_units hu
    rw [hkey]
    exact file_ofCalls file calls
  · intro u hu
    obtain ⟨g, -, -, -, hprovenance⟩ := exists_group_of_mem_units hu
    exact hprovenance
  · intro u hu
    obtain ⟨g, hg, hkey, hmembers, -⟩ := exists_group_of_mem_units hu
    rw [groups_ofCalls] at hg
    obtain ⟨scope, -, rfl⟩ := List.mem_map.mp hg
    rw [hmembers, hkey]

/-- The units are determined by the order in which the namespaces came first, and by what came
    under each of them. -/
theorem units_eq_of_same {file : String} {calls calls' : List (String × Source.Function)}
    (hscopes : (calls.map Prod.fst).eraseDups = (calls'.map Prod.fst).eraseDups)
    (hfunctions : ∀ scope, withKey scope calls = withKey scope calls') (provenance : Provenance) :
    (ofCalls file calls).units provenance = (ofCalls file calls').units provenance := by
  have hgroups : grouped calls = grouped calls' := by
    rw [grouped, grouped, hscopes]
    refine List.map_congr_left fun scope _ => ?_
    rw [hfunctions scope]
  rw [units, units, groups_ofCalls, groups_ofCalls, file_ofCalls, file_ofCalls, hgroups]

/-- Calls are put into units without loss: the units are those of the namespaces, with all their
    functions in order, at each moment as many functions are in the batch as there were calls, and
    calls that agree on which namespace came first and on what came under each of them give the
    same units. -/
theorem units_ofCalls (file : String) (provenance : Provenance)
    (calls : List (String × Source.Function)) :
    AreUnitsOf file provenance calls ((ofCalls file calls).units provenance) ∧
      (∀ before, before <+: calls → (ofCalls file before).size = before.length) ∧
      ∀ calls' : List (String × Source.Function),
        (calls'.map Prod.fst).eraseDups = (calls.map Prod.fst).eraseDups →
        (∀ scope, withKey scope calls' = withKey scope calls) →
        (ofCalls file calls').units provenance = (ofCalls file calls).units provenance := by
  refine ⟨areUnitsOf_units file provenance calls, ?_, ?_⟩
  · intro before _
    exact size_ofCalls file before
  · intro calls' hscopes hfunctions
    exact units_eq_of_same hscopes hfunctions provenance

/-- The calls for two namespaces interleaved, or one namespace after the other. -/
theorem units_ofCalls_interleaved :
    let provenance : Provenance := ⟨"gen", .newYear2024, "c", "Generated"⟩
    let first : Source.Function := { name := "first" }
    let second : Source.Function := { name := "second" }
    let third : Source.Function := { name := "third" }
    let interleaved := ofCalls "CopyExtension" [("b", first), ("a", second), ("b", third)]
    let apart := ofCalls "CopyExtension" [("b", first), ("b", third), ("a", second)]
    (interleaved.units provenance).map (·.key.scope) = ["b", "a"] ∧
      (ofCalls "CopyExtension" [("b", first), ("a", second)]).size = 2 ∧
      apart.units provenance = interleaved.units provenance := by
  intro provenance first second third interleaved apart
  obtain ⟨hunits, hsizes, hsame⟩ := units_ofCalls "CopyExtension" provenance
    [("b", first), ("a", second), ("b", third)]
  refine ⟨hunits.scopes.trans (by decide), hsizes _ ⟨[("b", third)], rfl⟩, hsame _ (by decide) ?_⟩
  intro scope
  by_cases hb : "b" = scope
  · subst hb
    rfl
  · by_cases ha : "a" = scope <;> simp [withKey, hb, ha]

end Batch

end CompanionSource
