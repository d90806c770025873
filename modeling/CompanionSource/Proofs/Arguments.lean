import CompanionSource.Proofs.Execution
import CompanionSource.Synthesis.Context
import Mathlib.Data.List.Forall2

/-! # Parameters at run time

    Generated bodies do two things with the parameters of the function they belong to: they
    hand them on as arguments of a call, and they list them in a text.  Both are followed here
    for any list of parameters.  A parameter is given by its name and whether it takes any number
    of arguments. -/

namespace CompanionSource.Execution

open Source (Argument Expr Piece Template)
open Synthesis (listing passed shown)

variable {α : Type}

/-! ### Values of parameters -/

/-- The value goes with a parameter: one that takes any number of arguments holds an array. -/
def Fits (vararg : Bool) (v : Value α) : Prop := vararg = true → ∃ xs, v = .array xs

/-- The values go with the parameters, in their order. -/
def AllFit (ps : List (String × Bool)) (vs : List (Value α)) : Prop :=
  List.Forall₂ (fun p v => Fits p.2 v) ps vs

/-- The parameters have these values in the scope. -/
def Scope.Holds (s : Scope α) (ps : List (String × Bool)) (vs : List (Value α)) : Prop :=
  List.Forall₂ (fun p v => s.lookup p.1 = some v ∧ Fits p.2 v) ps vs

/-- What a text shows of a parameter: an array that holds any number of arguments is shown as
    the list of all of them. -/
def displayed (vararg : Bool) (v : Value α) : Value α :=
  match vararg, v with
  | true, .array xs => .list xs
  | _, v => v

/-- The arguments of a call that hands parameters on, in their order.  The array of any number
    of arguments is spread. -/
def handedOn (ps : List (String × Bool)) (vs : List (Value α)) : List (Argument (Value α)) :=
  List.zipWith (fun p v => { spread := p.2, value := v }) ps vs

/-- The text that lists parameters with their values. -/
def listed (world : World α) (ps : List (String × Bool)) (vs : List (Value α)) : String :=
  ", ".intercalate
    (List.zipWith (fun p v => p.1 ++ "=" ++ world.shown (displayed p.2 v)) ps vs)

/-! ### Bound parameters -/

/-- In a list without repeated keys every entry is found. -/
theorem lookup_of_mem {l : List (String × Value α)} {n : String} {v : Value α}
    (hkeys : (l.map Prod.fst).Nodup) (hmem : (n, v) ∈ l) : l.lookup n = some v := by
  induction l with
  | nil => cases hmem
  | cons entry l ih =>
    obtain ⟨k, u⟩ := entry
    obtain ⟨hk, hl⟩ := List.nodup_cons.mp hkeys
    rcases List.mem_cons.mp hmem with heq | htail
    · cases heq
      exact List.lookup_cons_self
    · -- The key of a later entry is not the first key, so the search goes on.
      have hne : (n == k) = false := by
        rw [beq_eq_false_iff_ne]
        intro heq
        subst heq
        exact hk (List.mem_map.mpr ⟨_, htail, rfl⟩)
      rw [List.lookup_cons, hne]
      exact ih hl htail

/-- Parameters with distinct names have the values they were bound to, unless a local value
    hides one of them. -/
theorem holds_of_zip {s : Scope α} {ps : List (String × Bool)} {vs : List (Value α)}
    (hnames : (ps.map Prod.fst).Nodup) (hfit : AllFit ps vs)
    (hbound : s.parameters = (ps.map Prod.fst).zip vs)
    (hlocal : ∀ p ∈ ps, s.locals.lookup p.1 = none) : s.Holds ps vs := by
  have hlength : (ps.map Prod.fst).length ≤ vs.length := by
    rw [List.length_map]
    exact Nat.le_of_eq hfit.length_eq
  have hkeys : (s.parameters.map Prod.fst).Nodup := by
    rw [hbound, List.map_fst_zip hlength]
    exact hnames
  refine List.forall₂_iff_zip.mpr ⟨hfit.length_eq, ?_⟩
  intro p v hmem
  refine ⟨?_, (List.forall₂_iff_zip.mp hfit).2 hmem⟩
  have hentry : (p.1, v) ∈ s.parameters := by
    rw [hbound, List.zip_map_left]
    exact List.mem_map_of_mem (f := Prod.map Prod.fst id) hmem
  rw [Scope.lookup, hlocal p (List.of_mem_zip hmem).1, lookup_of_mem hkeys hentry]
  rfl

/-! ### Parameters handed on and listed -/

section parameters
variable (world : World α) {s : Scope α} {ps : List (String × Bool)} {vs : List (Value α)}

theorem passing_passed {n : String} {v : Value α} (vararg : Bool) (h : s.lookup n = some v) :
    passing world s (passed n vararg) = pure { spread := vararg, value := v } :=
  passing_of_eval world s none vararg (eval_name world s h)

theorem passings_passed (h : List.Forall₂ (fun p v => s.lookup p.1 = some v) ps vs) :
    passings world s (ps.map fun p => passed p.1 p.2) = pure (handedOn ps vs) := by
  induction h with
  | nil => rfl
  | cons hp _ ih =>
    rw [List.map_cons, passings, passing_passed world _ hp, ih]
    rfl

theorem eval_shown {n : String} {vararg : Bool} {v : Value α} (h : s.lookup n = some v)
    (hfit : Fits vararg v) : eval world s (shown n vararg) = pure (displayed vararg v) := by
  cases vararg with
  | false => exact eval_name world s h
  | true =>
    obtain ⟨xs, rfl⟩ := hfit rfl
    exact eval_toList world s (refer_name world s h)

theorem textOf_field {n : String} {vararg : Bool} {v : Value α} (h : s.lookup n = some v)
    (hfit : Fits vararg v) :
    textOf world s [.literal (n ++ "="), .value (shown n vararg)] =
      pure (n ++ "=" ++ world.shown (displayed vararg v)) :=
  textOf_append_of_pure world s (textOf_literal world s _)
    (textOf_value world s (eval_shown world h hfit))

theorem textOf_listing (h : s.Holds ps vs) :
    textOf world s (listing (ps.map fun p => (p.1, shown p.1 p.2))) =
      pure (listed world ps vs) := by
  induction h with
  | nil => exact textOf_nil world s
  | @cons p v ps vs hp htail ih =>
    have hfield := textOf_field world hp.1 hp.2
    cases htail with
    | nil => simpa [listing, listed] using hfield
    | cons _ _ =>
      -- Behind the first field come the separator and the rest of the list.
      have hrest := textOf_append_of_pure world s (textOf_literal world s ", ") ih
      have hall := textOf_append_of_pure world s hfield hrest
      simpa [listing, listed, List.append_assoc, String.append_assoc] using hall

end parameters

end CompanionSource.Execution
