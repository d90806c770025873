import CompanionSource.SourceUnit

/-! # Batches

    The extension functions of a round, grouped by namespace.  The groups are in the order in
    which their namespaces came first, and the functions of a group in the order in which they
    came.

    The group of a namespace is not searched for: a map tells its **position**.  A function gets
    into the right group because the map has exactly the positions of the groups.  This is so in an
    empty table, and it stays so when a group is opened and when a function is pushed. -/

namespace CompanionSource

open Source (Function TopLevel)

/-! ### Groups and their positions -/

/-- Functions in groups by namespace, and the positions of the groups. -/
structure GroupTable where
  /-- The groups. -/
  groups : List (String × List Function) := []
  /-- The position of the group of each namespace that has one. -/
  positions : List (String × Nat) := []

namespace GroupTable

/-- The table once a namespace has a group, and the position of this group.  A new group comes last
    and is empty. -/
def opened (t : GroupTable) (scope : String) : GroupTable × Nat :=
  match t.positions.lookup scope with
  | some i => (t, i)
  | none =>
    ({ groups := t.groups ++ [(scope, [])]
       positions := (scope, t.groups.length) :: t.positions }, t.groups.length)

/-- The table with one more function in the group at a position. -/
def push (t : GroupTable) (i : Nat) (f : Function) : GroupTable :=
  { t with groups := t.groups.modify i fun g => (g.1, g.2 ++ [f]) }

/-- The table with one more function in the group of its namespace. -/
def add (t : GroupTable) (scope : String) (f : Function) : GroupTable :=
  let (opened, i) := t.opened scope
  opened.push i f

/-- The positions in the map are those of the groups. -/
def Indexed (t : GroupTable) : Prop :=
  ∀ scope i, t.positions.lookup scope = some i ↔ (t.groups.map Prod.fst)[i]? = some scope

section indexed
variable {t : GroupTable} {scope : String}

/-- An empty table has neither groups nor positions. -/
theorem Indexed.empty : Indexed {} := by
  intro scope i
  show (none : Option Nat) = some i ↔ (none : Option String) = some scope
  simp only [reduceCtorEq]

/-- A namespace without a position has no group. -/
theorem Indexed.not_mem (h : t.Indexed) (hnone : t.positions.lookup scope = none) :
    scope ∉ t.groups.map Prod.fst := by
  intro hmem
  obtain ⟨i, hi⟩ := List.mem_iff_getElem?.mp hmem
  rw [← h, hnone] at hi
  cases hi

/-- A new group comes behind those that keep their positions. -/
theorem Indexed.opened (h : t.Indexed) (scope : String) : (t.opened scope).1.Indexed := by
  unfold GroupTable.opened
  cases hscope : t.positions.lookup scope with
  | some i => exact h
  | none =>
    intro other i
    have hplace : (t.groups.map Prod.fst ++ [scope])[i]? = some other ↔
        (t.groups.map Prod.fst)[i]? = some other ∨ i = t.groups.length ∧ scope = other := by
      rw [List.getElem?_append, List.length_map]
      by_cases hi : i < t.groups.length
      · simp [hi, Nat.ne_of_lt hi]
      · rw [if_neg hi, List.getElem?_singleton, List.getElem?_eq_none (by simp; omega)]
        split
        · simp
          omega
        · simp
          omega
    rw [List.map_append, List.map_singleton, hplace, ← h, List.lookup_cons]
    by_cases hother : other = scope
    · simp [hother, hscope, eq_comm]
    · have hdistinct : (other == scope) = false := beq_eq_false_iff_ne.mpr hother
      simp [hdistinct, Ne.symm hother]

@[simp] theorem scopes_push (t : GroupTable) (i : Nat) (f : Function) :
    (t.push i f).groups.map Prod.fst = t.groups.map Prod.fst := by
  refine List.ext_getElem? fun j => ?_
  rw [push, List.getElem?_map, List.getElem?_map, List.getElem?_modify]
  by_cases hj : i = j
  · simp [hj, Function.comp_def]
  · simp [hj]

theorem Indexed.push (h : t.Indexed) (i : Nat) (f : Function) : (t.push i f).Indexed := by
  intro scope j
  rw [scopes_push]
  exact h scope j

theorem Indexed.add (h : t.Indexed) (scope : String) (f : Function) : (t.add scope f).Indexed :=
  (h.opened scope).push _ f

end indexed

end GroupTable

/-! ### By name -/

namespace Batch

/-- The groups with one more function in the group with the name of its namespace. -/
def addTo (scope : String) (f : Function) : List (String × List Function) →
    List (String × List Function)
  | [] => [(scope, [f])]
  | g :: gs => if g.1 = scope then (scope, g.2 ++ [f]) :: gs else g :: addTo scope f gs

theorem filled_addTo {scope : String} {f : Function} {gs : List (String × List Function)}
    (h : ∀ g ∈ gs, g.2 ≠ []) : ∀ g ∈ addTo scope f gs, g.2 ≠ [] := by
  induction gs with
  | nil => simp [addTo]
  | cons g gs ih =>
    obtain ⟨hg, hgs⟩ := List.forall_mem_cons.1 h
    unfold addTo
    split
    · exact List.forall_mem_cons.2 ⟨by simp, hgs⟩
    · exact List.forall_mem_cons.2 ⟨hg, ih hgs⟩

/-- An empty group at the end makes no difference to a namespace without a group. -/
theorem addTo_concat_nil {scope : String} {f : Function} {gs : List (String × List Function)}
    (h : scope ∉ gs.map Prod.fst) : addTo scope f (gs ++ [(scope, [])]) = addTo scope f gs := by
  induction gs with
  | nil => simp [addTo]
  | cons g gs ih =>
    rw [List.map_cons, List.mem_cons, not_or] at h
    rw [List.cons_append, addTo, addTo, if_neg (Ne.symm h.1), if_neg (Ne.symm h.1), ih h.2]

/-- A function pushed at the only position of its namespace is added by name. -/
theorem modify_eq_addTo {scope : String} {f : Function} {gs : List (String × List Function)}
    {i : Nat} (hplace : (gs.map Prod.fst)[i]? = some scope)
    (honly : ∀ j, (gs.map Prod.fst)[j]? = some scope → j = i) :
    (gs.modify i fun g => (g.1, g.2 ++ [f])) = addTo scope f gs := by
  induction gs generalizing i with
  | nil => simp at hplace
  | cons g gs ih =>
    cases i with
    | zero =>
      have hscope : g.1 = scope := by simpa using hplace
      simp [addTo, hscope]
    | succ i =>
      have hscope : g.1 ≠ scope := fun heq => absurd (honly 0 (by simpa using heq)) (by omega)
      have hlater : ∀ j, (gs.map Prod.fst)[j]? = some scope → j = i := by
        intro j hj
        have hsucc := honly (j + 1) (by simpa using hj)
        omega
      rw [addTo, if_neg hscope, List.modify_succ_cons, ih (by simpa using hplace) hlater]

end Batch

/-- **Positions find groups.**  With the positions of its groups, a table puts a function where a
    search for the name of its namespace would. -/
theorem GroupTable.Indexed.groups_add {t : GroupTable} (h : t.Indexed) (scope : String)
    (f : Function) : (t.add scope f).groups = Batch.addTo scope f t.groups := by
  obtain ⟨hplace, hsame⟩ : (t.opened scope).1.positions.lookup scope = some (t.opened scope).2 ∧
      Batch.addTo scope f (t.opened scope).1.groups = Batch.addTo scope f t.groups := by
    unfold GroupTable.opened
    cases hscope : t.positions.lookup scope with
    | some i => exact ⟨hscope, rfl⟩
    | none => exact ⟨List.lookup_cons_self, Batch.addTo_concat_nil (h.not_mem hscope)⟩
  have hopened := h.opened scope
  show (t.opened scope).1.groups.modify (t.opened scope).2 (fun g => (g.1, g.2 ++ [f])) = _
  rw [← hsame]
  refine Batch.modify_eq_addTo ((hopened _ _).mp hplace) fun j hj => ?_
  -- A namespace has one position in the map.
  rw [← hopened, hplace] at hj
  exact (Option.some.inj hj).symm

/-! ### Batches -/

/-- Extension functions by namespace. -/
structure Batch extends GroupTable where
  /-- The name of the file that each namespace gets. -/
  file : String
  /-- The positions are those of the groups. -/
  indexed : toGroupTable.Indexed := by exact .empty
  /-- No group is empty. -/
  filled : ∀ g ∈ groups, g.2 ≠ [] := by simp

namespace Batch

/-- The batch before any call. -/
def fresh (file : String) : Batch := { file }

/-- The batch with one more function. -/
def add (b : Batch) (scope : String) (f : Function) : Batch where
  toGroupTable := b.toGroupTable.add scope f
  file := b.file
  indexed := b.indexed.add scope f
  filled := by
    rw [b.indexed.groups_add]
    exact filled_addTo b.filled

theorem groups_add (b : Batch) (scope : String) (f : Function) :
    (b.add scope f).groups = addTo scope f b.groups :=
  b.indexed.groups_add scope f

/-- Nothing is in the batch. -/
def isEmpty (b : Batch) : Bool := b.groups.isEmpty

/-- How many functions are in the batch. -/
def size (b : Batch) : Nat := (b.groups.flatMap (·.2)).length

/-- The unit of each namespace. -/
def units (b : Batch) (provenance : Provenance) : List SourceUnit :=
  b.groups.filterMap fun g =>
    SourceUnit.of? ⟨g.1, b.file⟩ (g.2.map TopLevel.ofFunction) provenance

/-- There is something in each group, so no group goes without its unit. -/
theorem units_eq_pmap (b : Batch) (provenance : Provenance) :
    b.units provenance = b.groups.pmap (fun g h =>
      { key := ⟨g.1, b.file⟩
        members := g.2.map TopLevel.ofFunction
        provenance
        nonempty := by simpa using h }) b.filled := by
  have hall (gs : List (String × List Function)) (h : ∀ g ∈ gs, g.2 ≠ []) :
      (gs.filterMap fun g =>
        SourceUnit.of? ⟨g.1, b.file⟩ (g.2.map TopLevel.ofFunction) provenance) =
      gs.pmap (fun g h =>
        { key := ⟨g.1, b.file⟩
          members := g.2.map TopLevel.ofFunction
          provenance
          nonempty := by simpa using h }) h := by
    induction gs with
    | nil => rfl
    | cons g gs ih =>
      obtain ⟨hg, hgs⟩ := List.forall_mem_cons.1 h
      have hmembers : g.2.map TopLevel.ofFunction ≠ [] := by simpa using hg
      rw [List.filterMap_cons, SourceUnit.of?_of_ne_nil hmembers, ih hgs, List.pmap]
  exact hall b.groups b.filled

end Batch

end CompanionSource
