import CompanionSource.Proofs.Eligibility
import CompanionSource.Proofs.Execution
import CompanionSource.Synthesis.NiceString

/-! # What a nice string is made of

    A declaration has a `toNiceString` function if its constructor can be gone by and has a
    parameter that is a readable field.

    - The function returns one **text**: the name of the declaration and, in brackets, the
      readable fields in their order, each with the value that stands for it.
    - There is one **warning** for each parameter that the text leaves out.
    - Nothing of this depends on the context except the values and the provenance.  So a
      declaration either has a function in every round in which it is marked, or in none. -/

namespace CompanionSource.Synthesis

open Source (Expr)

/-- Behind the first field come the separator and the rest of the list. -/
theorem listing_cons_cons (field next : String × Expr) (fields : List (String × Expr)) :
    listing (field :: next :: fields) =
      [.literal (field.1 ++ "="), .value field.2] ++
        ([.literal ", "] ++ listing (next :: fields)) := by
  simp [listing]

end CompanionSource.Synthesis

namespace CompanionSource.Execution

open Source (Expr)
open Synthesis (listing)

variable {α : Type}

/-- The fields are shown one after another, and their values are evaluated in this order. -/
theorem textOf_listing_eval (world : World α) (s : Scope α) (fields : List (String × Expr)) :
    textOf world s (listing fields) =
      (do
        let vs ← fields.mapM fun field => eval world s field.2
        pure (", ".intercalate
          (List.zipWith (fun field v => field.1 ++ "=" ++ world.shown v) fields vs))) := by
  induction fields with
  | nil => exact textOf_nil world s
  | cons field fields ih =>
    have hfield : textOf world s [.literal (field.1 ++ "="), .value field.2] =
        (do let v ← eval world s field.2; pure (field.1 ++ "=" ++ world.shown v)) := by
      rw [← List.singleton_append, textOf_append, textOf_literal, pure_bind, textOf_cons,
        rendering_value, textOf_nil]
      simp only [bind_assoc, pure_bind, String.append_empty]
    cases fields with
    | nil =>
      simp only [listing, List.map_cons, List.map_nil, List.intercalate_singleton, hfield,
        List.mapM_cons, List.mapM_nil, bind_assoc, pure_bind, List.zipWith_cons_cons,
        List.zipWith_nil_right, String.intercalate_singleton]
    | cons next fields =>
      rw [Synthesis.listing_cons_cons, textOf_append, hfield, textOf_append, textOf_literal, ih]
      simp only [List.mapM_cons, bind_assoc, pure_bind, List.zipWith_cons_cons,
        String.intercalate_cons_cons, String.append_assoc]

end CompanionSource.Execution

namespace CompanionSource.Synthesis

open Execution (World Scope Value eval textOf)

/-! ### When there is a text -/

theorem textFields_eq_ok_iff {d : Declaration} {fields : FieldPartition} :
    textFields d = .ok fields ↔
      ∃ ts, constructorFields .toNiceString d = .ok ts ∧
        (∃ t ∈ ts, t.parameter.isExposed = true) ∧
        fields = ⟨ts.filter fun t => t.parameter.isExposed,
          ts.filter fun t => !t.parameter.isExposed⟩ := by
  unfold textFields
  cases constructorFields .toNiceString d with
  | error refusal => simp
  | ok ts =>
    have hreadable : (∃ t ∈ ts, t.parameter.isExposed = true) ↔
        ts.filter (fun t => t.parameter.isExposed) ≠ [] := by
      simp
    simp only [Except.ok.injEq, exists_eq_left', hreadable]
    split
    · next hnone =>
      simp only [reduceCtorEq, hnone, ne_eq, not_true_eq_false, false_and]
    · next hsome =>
      rw [Except.ok.injEq, eq_comm]
      exact (and_iff_right hsome).symm

/-- The function, given the typed parameters of the constructor. -/
def niceStringFunction (ctx : Context) (d : Declaration) (ts : List TypedParameter) :
    Source.Function :=
  { name := niceStringName
    annotations := [ctx.provenance.mark]
    typeVariables := d.typeParameters
    receiver := some d.declaredType
    returns := some (.named "String")
    body := [.ret (some (.template
      (niceTemplate ctx d (ts.filter fun t => t.parameter.isExposed))))] }

theorem niceString_eq_ok_iff {ctx : Context} {d : Declaration} {g : Generated Source.Function} :
    niceString ctx d = .ok g ↔
      ∃ ts, constructorFields .toNiceString d = .ok ts ∧
        (∃ t ∈ ts, t.parameter.isExposed = true) ∧
        g = { item := niceStringFunction ctx d ts
              warnings := (ts.filter fun t => !t.parameter.isExposed).map (hiddenWarning d) } := by
  unfold niceString
  cases hfields : textFields d with
  | error refusal =>
    have hnone : ¬∃ ts, constructorFields .toNiceString d = .ok ts ∧
        ∃ t ∈ ts, t.parameter.isExposed = true := by
      intro h
      obtain ⟨ts, hts, hexposed⟩ := h
      rw [textFields_eq_ok_iff.mpr ⟨ts, hts, hexposed, rfl⟩] at hfields
      cases hfields
    simp only [reduceCtorEq, false_iff]
    intro h
    obtain ⟨ts, hts, hexposed, -⟩ := h
    exact hnone ⟨ts, hts, hexposed⟩
  | ok fields =>
    obtain ⟨ts, hts, hexposed, rfl⟩ := textFields_eq_ok_iff.mp hfields
    simp only [hts, Except.ok.injEq, exists_eq_left', hexposed, true_and]
    exact eq_comm

/-- A marked declaration has a text exactly if a function is generated for it. -/
theorem hasText_iff (ctx : Context) (scope : String) (d : Declaration) :
    hasText scope d = true ↔
      d.isMarked (Directive.toNiceString.marker scope) = true ∧ ∃ g, niceString ctx d = .ok g := by
  have hgenerated : (textFields d).isOk = true ↔ ∃ g, niceString ctx d = .ok g := by
    unfold niceString
    cases textFields d <;> simp [Except.isOk, Except.toBool]
  rw [hasText, Bool.and_eq_true, hgenerated]

/-! ### What the text is -/

theorem textOf_niceTemplate {α : Type} (world : World α) (s : Scope α) (ctx : Context)
    (d : Declaration) (ts : List TypedParameter) :
    textOf world s (niceTemplate ctx d ts) =
      (do
        let vs ← (ts.map (fieldValue ctx d.scope)).mapM (eval world s)
        pure (d.simpleName ++ "(" ++ ", ".intercalate
          (List.zipWith (fun t v => t.parameter.name ++ "=" ++ world.shown v) ts vs) ++ ")")) := by
  rw [niceTemplate, Execution.textOf_ofPieces, List.append_assoc, Execution.textOf_append,
    Execution.textOf_append, Execution.textOf_literal, Execution.textOf_literal,
    Execution.textOf_listing_eval]
  simp only [List.mapM_map, bind_assoc, pure_bind, List.zipWith_map_left, String.append_assoc,
    Function.comp_def]

end CompanionSource.Synthesis
