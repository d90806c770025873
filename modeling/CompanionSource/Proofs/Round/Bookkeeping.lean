import CompanionSource.Proofs.Round.Record

/-! # A round keeps its books

    A round has lists and counts of what it did.  They are kept by whatever is done with it, in any
    order and any number of times, also after a unit was refused:

    - the **keys** that were handed over are those in the record of the emitter, and no key is
      handed over twice;
    - the **units** are those that the emitter took;
    - the **counts** are those of the diagnostics that were reported.

    The key of a unit goes into the books before the emitter is asked, and stays there when the
    emitter refuses.  So a refused unit cannot be handed over again, and nothing else in the books
    has changed. -/

namespace CompanionSource

open Synthesis (Context Generated)

/-! ### Operations -/

/-- Something that is done with a round. -/
inductive Operation : Type 1 where
  /-- A refusal is reported. -/
  | report (symbol : String) (refusal : Refusal)
  /-- A warning is reported. -/
  | warn (symbol message : String)
  /-- The warnings about something generated are reported. -/
  | accept {α : Type} (symbol : String) (generated : Generated α)
  /-- A unit is submitted. -/
  | submit (unit : SourceUnit)
  /-- All is done that a directive asks for, or as much of it as comes before a refused unit. -/
  | drive (directive : Directive)

/-- The round after an operation, and whether a unit was refused. -/
def Operation.perform {σ : Type} (e : Emitter σ) (ctx : Context) (r : Round σ) :
    Operation → Except EmitError Unit × Round σ
  | .report symbol refusal => (.ok (), r.report symbol refusal)
  | .warn symbol message => (.ok (), r.warn symbol message)
  | .accept symbol generated => (.ok (), r.accept symbol generated)
  | .submit unit => r.submit e unit
  | .drive directive => Round.perform e (Plan.forDirective ctx directive) r

namespace Round

variable {σ : Type}

/-- The round after operations, which go on whether units are refused or not. -/
def afterAll (e : Emitter σ) (ctx : Context) (operations : List Operation) (r : Round σ) :
    Round σ :=
  operations.foldl (fun r operation => (operation.perform e ctx r).2) r

section unrecorded
variable {e : Emitter σ} {ctx : Context}

theorem accept_unrecorded {α : Type} (r : Round (σ × List Submission)) (symbol : String)
    (generated : Generated α) :
    r.unrecorded.accept symbol generated = (r.accept symbol generated).unrecorded := by
  unfold accept
  induction generated.warnings generalizing r with
  | nil => rfl
  | cons message messages ih => exact ih (r.warn symbol message)

theorem operation_unrecorded (r : Round (σ × List Submission)) (operation : Operation) :
    operation.perform e ctx r.unrecorded =
      ((operation.perform e.recording ctx r).1,
        (operation.perform e.recording ctx r).2.unrecorded) := by
  cases operation with
  | report symbol refusal => exact congrArg (Prod.mk _) (unrecorded_report r symbol refusal).symm
  | warn symbol message => rfl
  | accept symbol generated => exact congrArg (Prod.mk _) (accept_unrecorded r symbol generated)
  | submit unit => exact submit_unrecorded r unit
  | drive directive => exact perform_unrecorded (Plan.forDirective ctx directive) r

theorem afterAll_unrecorded (operations : List Operation) (r : Round (σ × List Submission)) :
    r.unrecorded.afterAll e ctx operations =
      (r.afterAll e.recording ctx operations).unrecorded := by
  induction operations generalizing r with
  | nil => rfl
  | cons operation operations ih =>
    rw [afterAll, List.foldl_cons, operation_unrecorded]
    exact ih (operation.perform e.recording ctx r).2

end unrecorded

/-! ### The books -/

/-- The lists and counts of the round agree with what was handed over and reported. -/
structure Kept (r : Round (σ × List Submission)) : Prop where
  /-- The keys in the books are those that were handed over, the last one first. -/
  handed : r.handed = (r.record.map (·.key)).reverse
  /-- No key was handed over twice. -/
  once : (r.record.map (·.key)).Nodup
  /-- The units are those that were taken. -/
  taken : r.units = (r.record.filter (·.isTaken)).map (·.key)
  errors : r.errors = Diagnostic.count .error r.diagnostics
  warnings : r.warnings = Diagnostic.count .warning r.diagnostics

theorem kept_start (state : σ) : Kept ({ emitter := (state, []) } : Round (σ × List Submission)) :=
  ⟨rfl, List.nodup_nil, rfl, rfl, rfl⟩

section steps
variable {e : Emitter σ} {ctx : Context} {r : Round (σ × List Submission)}

/-! #### Single steps -/

/-- A diagnostic goes into the log and is counted. -/
theorem Kept.add (h : Kept r) {entry : Diagnostic} {next : Round (σ × List Submission)}
    (hnext : Adds entry r next) : Kept next := by
  have hrecord : next.record = r.record := congrArg Prod.snd hnext.emitter
  refine ⟨?_, ?_, ?_, ?_, ?_⟩
  · rw [hnext.handed, hrecord]
    exact h.handed
  · rw [hrecord]
    exact h.once
  · rw [hnext.units, hrecord]
    exact h.taken
  · rw [hnext.errors, hnext.diagnostics, h.errors, Diagnostic.count_concat]
  · rw [hnext.warnings, hnext.diagnostics, h.warnings, Diagnostic.count_concat]

theorem Kept.mem_handed_iff (h : Kept r) {key : UnitKey} :
    key ∈ r.handed ↔ key ∈ r.record.map (·.key) := by
  rw [h.handed, List.mem_reverse]

/-- The keys that were handed over, with one more that is new. -/
theorem Kept.once_concat (h : Kept r) {submission : Submission}
    (hnew : submission.key ∉ r.handed) :
    ((r.record ++ [submission]).map (·.key)).Nodup := by
  rw [h.mem_handed_iff] at hnew
  rw [List.map_append, List.map_singleton, ← List.concat_eq_append]
  exact h.once.concat hnew

/-- The key of a unit goes into the books with either verdict, and into the units only if it is
    taken. -/
theorem Kept.hand (h : Kept r) {submission : Submission} {next : Round (σ × List Submission)}
    (hnext : Hands submission r next) (hnew : submission.key ∉ r.handed) : Kept next := by
  refine ⟨?_, ?_, ?_, ?_, ?_⟩
  · rw [hnext.handed, hnext.record, h.handed, List.map_append, List.reverse_append]
    rfl
  · rw [hnext.record]
    exact h.once_concat hnew
  · rw [hnext.units, hnext.record, h.taken, List.filter_append, List.map_append,
      List.filter_singleton]
    cases submission.isTaken <;> rfl
  · rw [hnext.errors, hnext.diagnostics, h.errors]
  · rw [hnext.warnings, hnext.diagnostics, h.warnings]

theorem Kept.submit (h : Kept r) (unit : SourceUnit) : Kept (r.submit e.recording unit).2 := by
  rcases submit_recording_cases e r unit with ⟨-, hsame⟩ | ⟨hnew, verdict, next, hnext, hhands⟩
  · rw [hsame]
    exact h
  · rw [hnext]
    exact h.hand hhands hnew

/-- A submission that fails leaves the units, the counts and the diagnostics as they were.  Either
    the key is not new, and the emitter is not asked; or the emitter was asked, and refused. -/
theorem Kept.submit_error (h : Kept r) {unit : SourceUnit} {error : EmitError}
    {r' : Round (σ × List Submission)} (hsubmit : r.submit e.recording unit = (.error error, r')) :
    (r'.units = r.units ∧ r'.errors = r.errors ∧ r'.warnings = r.warnings ∧
        r'.diagnostics = r.diagnostics) ∧
      ((unit.key ∈ r.record.map (·.key) ∧ error = .duplicate unit.key ∧ r'.record = r.record) ∨
        (unit.key ∉ r.record.map (·.key) ∧ r'.record = r.record ++ [.refused unit error])) := by
  rw [← h.mem_handed_iff]
  rcases submit_recording_cases e r unit with ⟨hold, hsame⟩ | ⟨hnew, verdict, next, hnext, hhands⟩
  · rw [hsame] at hsubmit
    cases hsubmit
    exact ⟨⟨rfl, rfl, rfl, rfl⟩, Or.inl ⟨hold, rfl, rfl⟩⟩
  · rw [hnext] at hsubmit
    cases hsubmit
    have hunits : r'.units = r.units := hhands.units.trans (List.append_nil r.units)
    exact ⟨⟨hunits, hhands.errors, hhands.warnings, hhands.diagnostics⟩,
      Or.inr ⟨hnew, hhands.record⟩⟩

/-! #### Operations -/

theorem Kept.accept {α : Type} (h : Kept r) (symbol : String) (generated : Generated α) :
    Kept (r.accept symbol generated) := by
  unfold Round.accept
  induction generated.warnings generalizing r with
  | nil => exact h
  | cons message messages ih => exact ih (h.add (adds_warn r symbol message))

theorem Kept.perform (h : Kept r) (plan : List Action) : Kept (perform e.recording plan r).2 := by
  induction plan generalizing r with
  | nil => exact h
  | cons action plan ih =>
    cases action with
    | report symbol refusal => exact ih (h.add (adds_report r symbol refusal))
    | warn symbol message => exact ih (h.add (adds_warn r symbol message))
    | submit unit =>
      have hnext := h.submit (e := e) unit
      rw [Round.perform]
      rcases hsubmit : r.submit e.recording unit with ⟨error | _, next⟩
      · -- A failure ends the performance in the round it leaves.
        rw [hsubmit] at hnext
        exact hnext
      · rw [hsubmit] at hnext
        exact ih hnext

/-- Each operation keeps the books. -/
theorem Kept.operation (h : Kept r) (operation : Operation) :
    Kept (operation.perform e.recording ctx r).2 := by
  cases operation with
  | report symbol refusal => exact h.add (adds_report r symbol refusal)
  | warn symbol message => exact h.add (adds_warn r symbol message)
  | accept symbol generated => exact h.accept symbol generated
  | submit unit => exact h.submit unit
  | drive directive => exact h.perform (Plan.forDirective ctx directive)

theorem Kept.afterAll (h : Kept r) (operations : List Operation) :
    Kept (r.afterAll e.recording ctx operations) := by
  induction operations generalizing r with
  | nil => exact h
  | cons operation operations ih => exact ih (h.operation operation)

end steps

/-- **Bookkeeping.**  Whatever is done with a round, in any order and with an emitter of any
    behaviour: no key was handed over twice, the report has the units that were taken and the
    counts of what was reported, and a submission that fails changes nothing of this. -/
theorem afterAll_keeps_books (e : Emitter σ) (state : σ) (ctx : Context)
    (operations : List Operation) :
    ∃ r : Round (σ × List Submission),
      afterAll e.recording ctx operations { emitter := (state, []) } = r ∧
      afterAll e ctx operations { emitter := state } = r.unrecorded ∧
      (r.record.map (·.key)).Nodup ∧
      (r.outcome ctx).units = (r.record.filter (·.isTaken)).map (·.key) ∧
      (r.outcome ctx).units.Nodup ∧
      (r.outcome ctx).errors = Diagnostic.count .error r.diagnostics ∧
      (r.outcome ctx).warnings = Diagnostic.count .warning r.diagnostics ∧
      ∀ unit error r', r.submit e.recording unit = (.error error, r') →
        (r'.units = r.units ∧ r'.errors = r.errors ∧ r'.warnings = r.warnings ∧
            r'.diagnostics = r.diagnostics) ∧
          ((unit.key ∈ r.record.map (·.key) ∧ error = .duplicate unit.key ∧
              r'.record = r.record) ∨
            (unit.key ∉ r.record.map (·.key) ∧ r'.record = r.record ++ [.refused unit error])) := by
  have hkept : Kept (afterAll e.recording ctx operations { emitter := (state, []) }) :=
    (kept_start state).afterAll operations
  refine ⟨_, rfl, afterAll_unrecorded operations { emitter := (state, []) }, hkept.once,
    hkept.taken, ?_, hkept.errors, hkept.warnings, fun _ _ _ hsubmit => hkept.submit_error hsubmit⟩
  show (afterAll e.recording ctx operations { emitter := (state, []) }).units.Nodup
  rw [hkept.taken]
  exact hkept.once.sublist (List.filter_sublist.map _)

end Round

end CompanionSource
