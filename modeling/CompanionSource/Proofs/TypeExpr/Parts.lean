import CompanionSource.Proofs.Name

/-! # Parts of types

    The parts of a type are the type itself, the types in its arguments, and the parts of these.

    - A property of all **names** in a type is one of the names of its parts.
    - When the names are **replaced** by others, and no two of them by the same one, then no two
      types become the same. -/

namespace CompanionSource.TypeExpr

/-- A type can be taken apart into its name and the types in its arguments. -/
@[elab_as_elim]
theorem parts_induction {motive : TypeExpr → Prop}
    (mk : ∀ name arguments nullable, (∀ v t, .of v t ∈ arguments → motive t) →
      motive ⟨name, arguments, nullable⟩) (t : TypeExpr) : motive t := by
  refine @TypeExpr.rec motive (fun arguments => ∀ v t, .of v t ∈ arguments → motive t)
    (fun a => ∀ v t, a = .of v t → motive t) ?_ ?_ ?_ ?_ ?_ t
  · intro name arguments nullable ih
    exact mk name arguments nullable ih
  · intro v t ht
    cases ht
  · intro a as ha has v t ht
    rcases List.mem_cons.mp ht with heq | ht
    · exact ha v t heq.symm
    · exact has v t ht
  · intro v t heq
    cases heq
  · intro v t ht v' t' heq
    cases heq
    exact ht

/-! ### Parts -/

/-- The type has the other one as a part. -/
inductive HasPart : TypeExpr → TypeExpr → Prop
  /-- A type is a part of itself. -/
  | whole (t : TypeExpr) : HasPart t t
  /-- The parts of its arguments are parts of a type. -/
  | argument {t inner part : TypeExpr} {v : Option Variance} (hinner : .of v inner ∈ t.arguments)
      (hpart : HasPart inner part) : HasPart t part

theorem HasPart.everyName {p : String → Prop} {t part : TypeExpr} (hpart : t.HasPart part)
    (h : t.EveryName p) : part.EveryName p := by
  induction hpart with
  | whole => exact h
  | argument hinner _ ih =>
    cases h with
    | mk _ harguments => exact ih (harguments _ _ hinner)

theorem HasPart.trans {t part part' : TypeExpr} (h : t.HasPart part) (h' : part.HasPart part') :
    t.HasPart part' := by
  induction h with
  | whole => exact h'
  | argument hinner _ ih => exact .argument hinner (ih h')

/-- What holds of every name in a type holds of the names of its parts, and the other way
    round. -/
theorem everyName_iff {p : String → Prop} {t : TypeExpr} :
    t.EveryName p ↔ ∀ part, t.HasPart part → p part.name := by
  constructor
  · intro h part hpart
    cases hpart.everyName h with
    | mk hname => exact hname
  · intro h
    induction t using parts_induction with
    | mk name arguments nullable ih =>
      refine .mk (h _ (.whole _)) ?_
      intro v t ht
      exact ih v t ht fun part hpart => h part (.argument ht hpart)

/-! ### Replaced names -/

mutual

/-- The type with every name in it replaced. -/
def mapNames (f : String → String) : TypeExpr → TypeExpr
  | ⟨name, arguments, nullable⟩ => ⟨f name, mapNamesOfArguments f arguments, nullable⟩

/-- Type arguments with every name in them replaced. -/
def mapNamesOfArguments (f : String → String) :
    List (TypeArgument TypeExpr) → List (TypeArgument TypeExpr)
  | [] => []
  | a :: as => mapNamesOfArgument f a :: mapNamesOfArguments f as

/-- A type argument with every name in it replaced. -/
def mapNamesOfArgument (f : String → String) : TypeArgument TypeExpr → TypeArgument TypeExpr
  | .star => .star
  | .of v t => .of v (mapNames f t)

end

theorem mapNamesOfArguments_eq_map (f : String → String) (as : List (TypeArgument TypeExpr)) :
    mapNamesOfArguments f as = as.map (mapNamesOfArgument f) := by
  induction as with
  | nil => rfl
  | cons a as ih => rw [mapNamesOfArguments, ih, List.map_cons]

theorem EveryName.mapNames {f : String → String} {p q : String → Prop} {t : TypeExpr}
    (h : t.EveryName p) (hf : ∀ name, p name → q (f name)) : (t.mapNames f).EveryName q := by
  induction h with
  | @mk name arguments nullable hname _ ih =>
    rw [TypeExpr.mapNames, mapNamesOfArguments_eq_map]
    refine .mk (hf name hname) ?_
    intro v t ht
    obtain ⟨a, ha, heq⟩ := List.mem_map.mp ht
    cases a with
    | star => cases heq
    | of v t =>
      cases heq
      exact ih v t ha

/-- Names that are replaced by themselves leave a type as it is. -/
theorem EveryName.mapNames_eq {f : String → String} {t : TypeExpr}
    (h : t.EveryName fun name => f name = name) : t.mapNames f = t := by
  induction h with
  | @mk name arguments nullable hname _ ih =>
    have hargument : ∀ a ∈ arguments, mapNamesOfArgument f a = a := by
      intro a ha
      cases a with
      | star => rfl
      | of v t => rw [mapNamesOfArgument, ih v t ha]
    rw [TypeExpr.mapNames, mapNamesOfArguments_eq_map, List.map_congr_left hargument, List.map_id',
      hname]

/-- Lists are the same if their elements are told apart by what they are mapped to. -/
theorem eq_of_map_eq {α β : Type} {f : α → β} {xs ys : List α}
    (hf : ∀ x ∈ xs, ∀ y ∈ ys, f x = f y → x = y) (h : xs.map f = ys.map f) : xs = ys := by
  induction xs generalizing ys with
  | nil => exact (List.map_eq_nil_iff.mp h.symm).symm
  | cons x xs ih =>
    obtain ⟨y, ys, rfl⟩ := List.exists_cons_of_ne_nil (l := ys) (by rintro rfl; cases h)
    obtain ⟨hfirst, hothers⟩ := List.cons.inj h
    rw [hf x List.mem_cons_self y List.mem_cons_self hfirst,
      ih (fun x hx y hy => hf x (List.mem_cons_of_mem _ hx) y (List.mem_cons_of_mem _ hy)) hothers]

/-- Types are told apart when their names are replaced, if the names in them are told apart by
    what they are replaced by. -/
theorem eq_of_mapNames_eq {f : String → String} {p : String → Prop}
    (hf : ∀ name name', p name → p name' → f name = f name' → name = name') {t t' : TypeExpr}
    (h : t.EveryName p) (h' : t'.EveryName p) (heq : t.mapNames f = t'.mapNames f) : t = t' := by
  induction h generalizing t' with
  | @mk name arguments nullable hname _ ih =>
    cases h' with
    | @mk name' arguments' nullable' hname' harguments' =>
      simp only [mapNames, mapNamesOfArguments_eq_map, TypeExpr.mk.injEq] at heq
      obtain ⟨hnames, hmapped, rfl⟩ := heq
      have hargument : ∀ a ∈ arguments, ∀ a' ∈ arguments',
          mapNamesOfArgument f a = mapNamesOfArgument f a' → a = a' := by
        intro a ha a' ha' hsame
        cases a with
        | star =>
          cases a' with
          | star => rfl
          | of v' t' => cases hsame
        | of v t =>
          cases a' with
          | star => cases hsame
          | of v' t' =>
            obtain ⟨hvariance, htypes⟩ := TypeArgument.of.inj hsame
            rw [hvariance, ih v t ha (harguments' v' t' ha') htypes]
      rw [hf name name' hname hname' hnames, eq_of_map_eq hargument hmapped]

end CompanionSource.TypeExpr
