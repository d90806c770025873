import Mathlib.Data.List.Forall2

/-! # Traversals that may fail

    A list is treated element by element until the first failure.  The traversal succeeds exactly
    if it does on every element, and then the results stand in the order of the elements. -/

namespace CompanionSource.Traversal

variable {ε α β : Type}

/-- Two steps succeed exactly if the first does and then the second. -/
theorem bind_eq_ok_iff {x : Except ε α} {f : α → Except ε β} {b : β} :
    (x >>= f) = .ok b ↔ ∃ a, x = .ok a ∧ f a = .ok b := by
  cases x with
  | error e =>
    constructor
    · intro h
      cases h
    · intro hexists
      obtain ⟨_, h, _⟩ := hexists
      cases h
  | ok a =>
    constructor
    · intro h
      exact ⟨a, rfl, h⟩
    · intro hexists
      obtain ⟨_, h, hf⟩ := hexists
      cases h
      exact hf

theorem map_eq_ok_iff {x : Except ε α} {f : α → β} {b : β} :
    x.map f = .ok b ↔ ∃ a, x = .ok a ∧ f a = b := by
  cases x <;> simp [Except.map]

theorem mapM_eq_ok_iff {f : α → Except ε β} {xs : List α} {ys : List β} :
    xs.mapM f = .ok ys ↔ List.Forall₂ (fun x y => f x = .ok y) xs ys := by
  induction xs generalizing ys with
  | nil =>
    rw [List.mapM_nil, List.forall₂_nil_left_iff]
    constructor
    · intro h
      cases h
      rfl
    · intro heq
      subst heq
      rfl
  | cons x xs ih =>
    -- The first element succeeds, then the rest, and the results are put together.
    rw [List.mapM_cons, bind_eq_ok_iff, List.forall₂_cons_left_iff]
    constructor
    · intro hexists
      obtain ⟨y, hy, h⟩ := hexists
      obtain ⟨zs, hzs, hcons⟩ := bind_eq_ok_iff.mp h
      cases hcons
      exact ⟨y, zs, hy, ih.mp hzs, rfl⟩
    · intro h
      obtain ⟨y, zs, hy, hzs, rfl⟩ := h
      exact ⟨y, hy, bind_eq_ok_iff.mpr ⟨zs, ih.mpr hzs, rfl⟩⟩

theorem exists_mapM_eq_ok_iff {f : α → Except ε β} {xs : List α} :
    (∃ ys, xs.mapM f = .ok ys) ↔ ∀ x ∈ xs, ∃ y, f x = .ok y := by
  induction xs with
  | nil => exact ⟨fun _ => List.forall_mem_nil _, fun _ => ⟨[], rfl⟩⟩
  | cons x xs ih =>
    rw [List.forall_mem_cons, ← ih]
    constructor
    · intro hexists
      obtain ⟨_, h⟩ := hexists
      obtain ⟨y, ys, hy, hys, rfl⟩ := List.forall₂_cons_left_iff.mp (mapM_eq_ok_iff.mp h)
      exact ⟨⟨y, hy⟩, ys, mapM_eq_ok_iff.mpr hys⟩
    · intro h
      obtain ⟨⟨y, hy⟩, ys, hys⟩ := h
      exact ⟨y :: ys, mapM_eq_ok_iff.mpr (.cons hy (mapM_eq_ok_iff.mp hys))⟩

/-- Of two steps of which the second does as well on any result of the first, each has to
    succeed. -/
theorem exists_bind_eq_ok_iff {x : Except ε α} {f : α → Except ε β} {p : Prop}
    (h : ∀ a, (∃ b, f a = .ok b) ↔ p) :
    (∃ b, (x >>= f) = .ok b) ↔ (∃ a, x = .ok a) ∧ p := by
  simp only [bind_eq_ok_iff]
  constructor
  · intro hexists
    obtain ⟨b, a, hx, hb⟩ := hexists
    exact ⟨⟨a, hx⟩, (h a).mp ⟨b, hb⟩⟩
  · intro hboth
    obtain ⟨⟨a, hx⟩, hp⟩ := hboth
    obtain ⟨b, hb⟩ := (h a).mpr hp
    exact ⟨b, a, hx, hb⟩

/-- The last step only puts the results together. -/
theorem exists_pure_eq_ok_iff {a : α} : (∃ b, (pure a : Except ε α) = .ok b) ↔ True :=
  iff_true_intro ⟨a, rfl⟩

theorem exists_map_eq_ok_iff {x : Except ε α} {f : α → β} :
    (∃ b, x.map f = .ok b) ↔ ∃ a, x = .ok a := by
  cases x <;> simp [Except.map]

theorem exists_mapError_eq_ok_iff {x : Except ε α} {f : ε → β} :
    (∃ a, x.mapError f = .ok a) ↔ ∃ a, x = .ok a := by
  cases x <;> simp [Except.mapError]

theorem mapError_eq_ok_iff {x : Except ε α} {f : ε → β} {a : α} :
    x.mapError f = .ok a ↔ x = .ok a := by
  cases x <;> simp [Except.mapError]

theorem mapError_eq_error_iff {x : Except ε α} {f : ε → β} {e : β} :
    x.mapError f = .error e ↔ ∃ cause, x = .error cause ∧ f cause = e := by
  cases x <;> simp [Except.mapError]

theorem optionMapM_eq_ok_iff {f : α → Except ε β} {x : Option α} {y : Option β} :
    x.mapM f = .ok y ↔ Option.Rel (fun a b => f a = .ok b) x y := by
  cases x with
  | none =>
    constructor
    · intro h
      cases h
      exact .none
    · intro h
      cases h
      rfl
  | some a =>
    show (f a).map some = .ok y ↔ _
    rw [map_eq_ok_iff]
    constructor
    · intro hexists
      obtain ⟨b, hb, rfl⟩ := hexists
      exact .some hb
    · intro h
      cases h with
      | some hb => exact ⟨_, hb, rfl⟩

/-- What may be missing is treated if it is there. -/
theorem exists_optionMapM_eq_ok_iff {f : α → Except ε β} {x : Option α} :
    (∃ y, x.mapM f = .ok y) ↔ ∀ a ∈ x.toList, ∃ b, f a = .ok b := by
  cases x with
  | none => exact ⟨fun _ => List.forall_mem_nil _, fun _ => ⟨none, rfl⟩⟩
  | some a =>
    rw [Option.toList_some, List.forall_mem_singleton]
    exact exists_map_eq_ok_iff (f := some)

/-- Each result is that of some element. -/
theorem exists_mem_of_forall₂ {R : α → β → Prop} {xs : List α} {ys : List β}
    (h : List.Forall₂ R xs ys) {y : β} (hy : y ∈ ys) : ∃ x ∈ xs, R x y := by
  induction h with
  | nil => cases hy
  | cons hR _ ih =>
    rw [List.exists_mem_cons_iff]
    rcases List.mem_cons.mp hy with rfl | hy
    · exact Or.inl hR
    · exact Or.inr (ih hy)

/-- What holds of some element holds of some result, if it holds of each element and its result
    alike. -/
theorem exists_mem_iff_of_forall₂ {R : α → β → Prop} {P : α → Prop} {Q : β → Prop}
    (hPQ : ∀ x y, R x y → (P x ↔ Q y)) {xs : List α} {ys : List β} (h : List.Forall₂ R xs ys) :
    (∃ x ∈ xs, P x) ↔ ∃ y ∈ ys, Q y := by
  induction h with
  | nil => simp only [List.not_mem_nil, false_and, exists_false]
  | cons hR _ ih => rw [List.exists_mem_cons_iff, List.exists_mem_cons_iff, hPQ _ _ hR, ih]

/-- Elements that can each be read where they were written can be read in a row. -/
theorem mapM_map_eq_some {write : α → β} {read : β → Option α} {xs : List α}
    (h : ∀ x ∈ xs, read (write x) = some x) : (xs.map write).mapM read = some xs := by
  induction xs with
  | nil => rfl
  | cons x xs ih =>
    obtain ⟨hx, hxs⟩ := List.forall_mem_cons.mp h
    rw [List.map_cons, List.mapM_cons, hx, ih hxs]
    rfl

/-! ### Failures -/

/-- Why a step fails, if it does. -/
def failure? : Except ε α → Option ε
  | .error e => some e
  | .ok _ => none

theorem failure?_eq_some_iff {x : Except ε α} {e : ε} : failure? x = some e ↔ x = .error e := by
  cases x <;> simp [failure?]

theorem failure?_eq_none_iff {x : Except ε α} : failure? x = none ↔ ∃ a, x = .ok a := by
  cases x <;> simp [failure?]

theorem failure?_map {x : Except ε α} {f : α → β} : failure? (x.map f) = failure? x := by
  cases x <;> rfl

theorem failure?_pure {a : α} : failure? (pure a : Except ε α) = none := rfl

/-- Of two steps of which the second fails alike on any result of the first, the failure is that of
    the first one that fails. -/
theorem failure?_bind {x : Except ε α} {f : α → Except ε β} {later : Option ε}
    (h : ∀ a, failure? (f a) = later) : failure? (x >>= f) = (failure? x).or later := by
  cases x with
  | error e => rfl
  | ok a => exact h a

/-- A traversal fails like the first element that does. -/
theorem failure?_mapM {f : α → Except ε β} {xs : List α} :
    failure? (xs.mapM f) = xs.findSome? fun x => failure? (f x) := by
  induction xs with
  | nil => rfl
  | cons x xs ih =>
    have hrest : ∀ y, failure? (xs.mapM f >>= fun ys => pure (y :: ys)) =
        xs.findSome? fun x => failure? (f x) := by
      intro y
      rw [failure?_bind fun _ => failure?_pure, Option.or_none, ih]
    rw [List.mapM_cons, failure?_bind hrest, List.findSome?_cons]
    cases failure? (f x) <;> rfl

theorem failure?_optionMapM {f : α → Except ε β} {x : Option α} :
    failure? (x.mapM f) = x.toList.findSome? fun a => failure? (f a) := by
  cases x with
  | none => rfl
  | some a =>
    show failure? ((f a).map some) = _
    rw [failure?_map, Option.toList_some, List.findSome?_singleton]

theorem findSome?_flatMap {f : α → List β} {g : β → Option ε} {xs : List α} :
    (xs.flatMap f).findSome? g = xs.findSome? fun x => (f x).findSome? g := by
  induction xs with
  | nil => rfl
  | cons x xs ih =>
    rw [List.flatMap_cons, List.findSome?_append, ih, List.findSome?_cons]
    cases (f x).findSome? g <;> rfl

end CompanionSource.Traversal
