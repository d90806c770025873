import CompanionSource.Round.Batch
import Mathlib.Data.List.Induction
import Mathlib.Data.List.Nodup

/-! # Grouping

    Entries with keys, put together by their keys.  A **grouping** of a list of entries has

    - one group for each key, in the order in which the keys come first;
    - in each group the entries with that key, in their order.

    A batch is built by putting one function after another into its group.  Its groups are the
    grouping of all the functions that were put in. -/

namespace CompanionSource

/-! ### Distinct keys -/

namespace Grouping

theorem eraseDups_concat {κ : Type} [DecidableEq κ] (ks : List κ) (k : κ) :
    (ks ++ [k]).eraseDups = if k ∈ ks then ks.eraseDups else ks.eraseDups ++ [k] := by
  rw [List.eraseDups_append]
  by_cases h : k ∈ ks <;> simp [List.removeAll, h, List.eraseDups_cons]

theorem nodup_eraseDups {κ : Type} [DecidableEq κ] (ks : List κ) : ks.eraseDups.Nodup := by
  induction ks using List.reverseRecOn with
  | nil => exact List.nodup_nil
  | append_singleton ks k ih =>
    rw [eraseDups_concat]
    split
    · exact ih
    · next hnew =>
      rw [← List.mem_eraseDups] at hnew
      rw [← List.concat_eq_append]
      exact ih.concat hnew

theorem eraseDups_of_nodup {κ : Type} [DecidableEq κ] {ks : List κ} (h : ks.Nodup) :
    ks.eraseDups = ks := by
  induction ks using List.reverseRecOn with
  | nil => rfl
  | append_singleton ks k ih =>
    obtain ⟨hks, -, hdisjoint⟩ := List.nodup_append.mp h
    have hnew : k ∉ ks := fun hk => hdisjoint k hk k (List.mem_singleton_self k) rfl
    rw [eraseDups_concat, if_neg hnew, ih hks]

/-- If only one element of a list without repetitions contributes anything, the whole is what
    this element contributes. -/
theorem flatMap_eq_of_unique {α β : Type} {xs : List α} {x : α} {f : α → List β}
    (hnodup : xs.Nodup) (hx : x ∈ xs) (h : ∀ y ∈ xs, y ≠ x → f y = []) : xs.flatMap f = f x := by
  obtain ⟨before, after, rfl⟩ := List.append_of_mem hx
  obtain ⟨hbefore, hafter⟩ := List.nodup_middle.mp hnodup |> List.nodup_cons.mp
  have hnone : ∀ ys : List α, (∀ y ∈ ys, y ∈ before ++ x :: after ∧ y ≠ x) → ys.flatMap f = [] := by
    intro ys hys
    rw [List.flatMap_eq_nil_iff]
    exact fun y hy => h y (hys y hy).1 (hys y hy).2
  rw [List.mem_append, not_or] at hbefore
  rw [List.flatMap_append, List.flatMap_cons, hnone before, hnone after, List.append_nil,
    List.nil_append]
  · exact fun y hy => ⟨by simp [hy], fun heq => hbefore.2 (heq ▸ hy)⟩
  · exact fun y hy => ⟨by simp [hy], fun heq => hbefore.1 (heq ▸ hy)⟩

/-- If what the elements contribute can be told apart, what one of them contributes is found in
    the whole. -/
theorem filter_flatMap_eq_of_unique {α β : Type} {xs : List α} {x : α} {f : α → List β}
    {P : β → Bool} (hnodup : xs.Nodup) (hx : x ∈ xs)
    (h : ∀ y ∈ xs, ∀ b ∈ f y, (P b = true ↔ y = x)) : (xs.flatMap f).filter P = f x := by
  rw [List.filter_flatMap, flatMap_eq_of_unique hnodup hx]
  · rw [List.filter_eq_self]
    exact fun b hb => (h x hx b hb).mpr rfl
  · intro y hy hne
    rw [List.filter_eq_nil_iff]
    exact fun b hb hP => hne ((h y hy b hb).mp hP)

/-! ### Groups -/

variable {κ α : Type} [DecidableEq κ]

/-- The entries with a key, in order. -/
def withKey (k : κ) (xs : List (κ × α)) : List α := (xs.filter fun x => x.1 = k).map Prod.snd

/-- The entries grouped by their keys. -/
def grouped (xs : List (κ × α)) : List (κ × List α) :=
  (xs.map Prod.fst).eraseDups.map fun k => (k, withKey k xs)

/-- The entries of all groups, one group after another. -/
def entries (gs : List (κ × List α)) : List (κ × α) := gs.flatMap fun g => g.2.map fun a => (g.1, a)

theorem withKey_concat (k j : κ) (a : α) (xs : List (κ × α)) :
    withKey k (xs ++ [(j, a)]) = withKey k xs ++ if j = k then [a] else [] := by
  by_cases h : j = k <;> simp [withKey, h]

theorem withKey_eq_nil {k : κ} {xs : List (κ × α)} (h : k ∉ xs.map Prod.fst) :
    withKey k xs = [] := by
  rw [withKey, List.map_eq_nil_iff, List.filter_eq_nil_iff]
  intro x hx hkey
  exact h (List.mem_map.mpr ⟨x, hx, of_decide_eq_true hkey⟩)

theorem map_fst_grouped (xs : List (κ × α)) :
    (grouped xs).map Prod.fst = (xs.map Prod.fst).eraseDups := by
  rw [grouped, List.map_map]
  exact List.map_id _

/-- Each key has one group. -/
theorem nodup_grouped (xs : List (κ × α)) : ((grouped xs).map Prod.fst).Nodup := by
  rw [map_fst_grouped]
  exact nodup_eraseDups _

/-- Entries with different keys stay alone. -/
theorem grouped_of_nodup {xs : List (κ × α)} (h : (xs.map Prod.fst).Nodup) :
    grouped xs = xs.map fun x => (x.1, [x.2]) := by
  rw [grouped, eraseDups_of_nodup h, List.map_map]
  refine List.map_congr_left fun x hx => ?_
  have hunique : xs.filter (fun y => y.1 = x.1) = [x] := by
    rw [← List.flatMap_singleton' xs, List.filter_flatMap, flatMap_eq_of_unique h.of_map hx]
    · simp
    · intro y hy hne
      have hkey : y.1 ≠ x.1 := fun heq => hne (List.inj_on_of_nodup_map h hy hx heq)
      simp [hkey]
  simp [withKey, hunique]

theorem entries_grouped (xs : List (κ × α)) :
    entries (grouped xs) =
      (xs.map Prod.fst).eraseDups.flatMap fun k => xs.filter fun x => x.1 = k := by
  rw [entries, grouped, List.flatMap_map]
  congr 1
  funext k
  rw [withKey, List.map_map]
  conv_rhs => rw [← List.map_id (xs.filter _)]
  refine List.map_congr_left fun x hx => ?_
  have hkey : x.1 = k := by simpa using (List.mem_filter.mp hx).2
  simp [← hkey]

/-- Nothing is lost or added. -/
theorem mem_entries_grouped {xs : List (κ × α)} {x : κ × α} :
    x ∈ entries (grouped xs) ↔ x ∈ xs := by
  rw [entries_grouped, List.mem_flatMap]
  constructor
  · intro h
    obtain ⟨k, -, hx⟩ := h
    exact (List.mem_filter.mp hx).1
  · intro hx
    exact ⟨x.1, List.mem_eraseDups.mpr (List.mem_map_of_mem hx), by simpa using hx⟩

/-- A selection of entries that all have one key is found in their group, in its order. -/
theorem filter_entries_grouped {xs : List (κ × α)} {P : κ × α → Bool} {k : κ}
    (h : ∀ x ∈ xs, P x = true → x.1 = k) : (entries (grouped xs)).filter P = xs.filter P := by
  have hgroup : ∀ j, (xs.filter fun x => x.1 = j).filter P = if j = k then xs.filter P else [] := by
    intro j
    rw [List.filter_filter]
    split
    · next heq =>
      refine List.filter_congr fun x hx => ?_
      cases hP : P x with
      | false => rfl
      | true => simp [heq, h x hx hP]
    · next hne =>
      rw [List.filter_eq_nil_iff]
      intro x hx hboth
      simp only [Bool.and_eq_true, decide_eq_true_eq] at hboth
      exact hne (hboth.2 ▸ h x hx hboth.1)
  rw [entries_grouped, List.filter_flatMap]
  simp only [hgroup]
  by_cases hk : k ∈ (xs.map Prod.fst).eraseDups
  · rw [flatMap_eq_of_unique (nodup_eraseDups _) hk fun j _ hne => if_neg hne, if_pos rfl]
  · -- No entry has the key, so nothing is selected at all.
    have hnone : xs.filter P = [] := by
      rw [List.filter_eq_nil_iff]
      intro x hx hP
      exact hk (List.mem_eraseDups.mpr (h x hx hP ▸ List.mem_map_of_mem hx))
    rw [hnone]
    simp

/-- The keys and the entries can be renamed before or after the grouping. -/
theorem grouped_map {κ' α' : Type} [DecidableEq κ'] {f : κ → κ'} (hf : Function.Injective f)
    (g : α → α') (xs : List (κ × α)) :
    grouped (xs.map fun x => (f x.1, g x.2)) = (grouped xs).map fun x => (f x.1, x.2.map g) := by
  have hkeys : ∀ ks : List κ, (ks.map f).eraseDups = ks.eraseDups.map f := by
    intro ks
    induction ks using List.reverseRecOn with
    | nil => rfl
    | append_singleton ks k ih =>
      rw [List.map_append, List.map_singleton, eraseDups_concat, eraseDups_concat, ih]
      simp only [List.mem_map_of_injective hf]
      split
      · rfl
      · rw [List.map_append, List.map_singleton]
  have hwithKey : ∀ k, withKey (f k) (xs.map fun x => (f x.1, g x.2)) = (withKey k xs).map g := by
    intro k
    rw [withKey, withKey, List.filter_map, List.map_map, List.map_map]
    simp only [Function.comp_def, hf.eq_iff]
  have hfst : (xs.map fun x => (f x.1, g x.2)).map Prod.fst = (xs.map Prod.fst).map f := by
    simp only [List.map_map, Function.comp_def]
  rw [grouped, grouped, hfst, hkeys, List.map_map, List.map_map]
  exact List.map_congr_left fun k _ => congrArg (Prod.mk (f k)) (hwithKey k)

/-! ### Order -/

/-- Groups of the same keys, and under each key the same entries, in any order. -/
structure SameGroups (gs gs' : List (κ × List α)) : Prop where
  keys : (gs.map Prod.fst).Perm (gs'.map Prod.fst)
  members : ∀ g ∈ gs, ∀ g' ∈ gs', g.1 = g'.1 → g.2.Perm g'.2

theorem perm_eraseDups {ks ks' : List κ} (h : ks.Perm ks') : ks.eraseDups.Perm ks'.eraseDups := by
  rw [List.perm_ext_iff_of_nodup (nodup_eraseDups ks) (nodup_eraseDups ks')]
  intro k
  rw [List.mem_eraseDups, List.mem_eraseDups]
  exact h.mem_iff

/-- The order of the entries decides on nothing but the order of the groups and in the groups. -/
theorem sameGroups_of_perm {xs ys : List (κ × α)} (h : xs.Perm ys) :
    SameGroups (grouped xs) (grouped ys) := by
  refine ⟨?_, ?_⟩
  · rw [map_fst_grouped, map_fst_grouped]
    exact perm_eraseDups (h.map _)
  · intro g hg g' hg' hkey
    obtain ⟨k, -, rfl⟩ := List.mem_map.mp hg
    obtain ⟨k', -, rfl⟩ := List.mem_map.mp hg'
    obtain rfl : k = k' := hkey
    exact (h.filter _).map _

end Grouping

/-! ### Batches -/

namespace Batch

open Grouping (grouped withKey withKey_concat withKey_eq_nil)

/-- A function goes to the end of the group of its namespace, or into a new group behind all
    others. -/
theorem addTo_eq {scope : String} {f : Source.Function} {gs : List (String × List Source.Function)}
    (h : (gs.map Prod.fst).Nodup) :
    addTo scope f gs =
      if scope ∈ gs.map Prod.fst then
        gs.map fun g => (g.1, g.2 ++ if scope = g.1 then [f] else [])
      else gs ++ [(scope, [f])] := by
  induction gs with
  | nil => rfl
  | cons g gs ih =>
    obtain ⟨hg, hgs⟩ := List.nodup_cons.mp h
    rw [addTo, ih hgs]
    by_cases hscope : g.1 = scope
    · -- The namespace is that of the first group, so the later groups stay as they are.
      have hlater : gs.map (fun g => (g.1, g.2 ++ if scope = g.1 then [f] else [])) = gs := by
        conv_rhs => rw [← List.map_id gs]
        refine List.map_congr_left fun g' hg' => ?_
        have hne : scope ≠ g'.1 := by
          intro heq
          exact hg (hscope ▸ heq ▸ List.mem_map_of_mem hg')
        simp [hne]
      simp [hscope, hlater]
    · simp only [hscope, if_false, List.map_cons, List.mem_cons, Ne.symm hscope, false_or,
        List.append_nil]
      split <;> rfl

/-- One step of the grouping: another function behind those that are grouped already. -/
theorem addTo_grouped (scope : String) (f : Source.Function)
    (xs : List (String × Source.Function)) :
    addTo scope f (grouped xs) = grouped (xs ++ [(scope, f)]) := by
  have hkeys : (xs ++ [(scope, f)]).map Prod.fst = xs.map Prod.fst ++ [scope] := by simp
  have hmem : scope ∈ (grouped xs).map Prod.fst ↔ scope ∈ xs.map Prod.fst := by
    rw [Grouping.map_fst_grouped, List.mem_eraseDups]
  rw [addTo_eq (Grouping.nodup_grouped xs)]
  conv_rhs => rw [grouped, hkeys, Grouping.eraseDups_concat]
  simp only [hmem, withKey_concat]
  split
  · rw [grouped, List.map_map]
    rfl
  · next hnew =>
    rw [List.map_append, List.map_singleton, withKey_eq_nil hnew, if_pos rfl, List.nil_append,
      grouped]
    congr 1
    refine List.map_congr_left fun k hk => ?_
    have hne : scope ≠ k := fun heq => hnew (heq ▸ List.mem_eraseDups.mp hk)
    rw [if_neg hne, List.append_nil]

/-- The batch after calls, each with a namespace and a function. -/
def ofCalls (file : String) (calls : List (String × Source.Function)) : Batch :=
  calls.foldl (fun b call => b.add call.1 call.2) (fresh file)

theorem ofCalls_concat (file : String) (calls : List (String × Source.Function)) (scope : String)
    (f : Source.Function) :
    ofCalls file (calls ++ [(scope, f)]) = (ofCalls file calls).add scope f := by
  rw [ofCalls, List.foldl_concat, ← ofCalls]

/-- The groups of a batch are the grouping of the functions put into it. -/
theorem groups_ofCalls (file : String) (calls : List (String × Source.Function)) :
    (ofCalls file calls).groups = grouped calls := by
  induction calls using List.reverseRecOn with
  | nil => rfl
  | append_singleton calls call ih => rw [ofCalls_concat, groups_add, ih, addTo_grouped]

theorem file_ofCalls (file : String) (calls : List (String × Source.Function)) :
    (ofCalls file calls).file = file := by
  induction calls using List.reverseRecOn with
  | nil => rfl
  | append_singleton calls call ih => exact (congrArg Batch.file (ofCalls_concat ..)).trans ih

end Batch

end CompanionSource
