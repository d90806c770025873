import CompanionSource.Proofs.Round.Performance
import Mathlib.Data.List.Induction

/-! # What an emitter is handed

    What an emitter makes of a unit is its own affair, and it need not remember what it was handed.
    To speak of that, an emitter of any behaviour is given a **record**: the units that it is
    handed, in order, each with the verdict on it.

    - The emitter never sees its record.  A round with the record is the round without it, in its
      outcome and in all that it reports.
    - A round asks the emitter about a unit only if the **key is new** to it.  A key that was handed
      over before is refused by the round itself. -/

namespace CompanionSource

/-- A unit that an emitter was handed, and what it said. -/
structure Submission where
  unit : SourceUnit
  verdict : Except EmitError Unit

namespace Submission

/-- The key of the unit. -/
def key (s : Submission) : UnitKey := s.unit.key

/-- The emitter took the unit. -/
def isTaken (s : Submission) : Bool := s.verdict.isOk

/-- A unit that the emitter took. -/
def taken (unit : SourceUnit) : Submission := ⟨unit, .ok ()⟩

/-- A unit that the emitter refused. -/
def refused (unit : SourceUnit) (error : EmitError) : Submission := ⟨unit, .error error⟩

end Submission

/-! ### Emitters -/

namespace Emitter

variable {σ : Type}

/-- The emitter with a record of all that it is handed. -/
def recording (e : Emitter σ) : Emitter (σ × List Submission) where
  submit unit s :=
    let (verdict, state) := e.submit unit s.1
    (verdict, state, s.2 ++ [⟨unit, verdict⟩])

/-- The emitter that takes everything. -/
def accepting : Emitter Unit where
  submit _ _ := (.ok (), ())

theorem submit_recording {e : Emitter σ} {unit : SourceUnit} {s : σ × List Submission}
    {verdict : Except EmitError Unit} {state : σ} (h : e.submit unit s.1 = (verdict, state)) :
    e.recording.submit unit s = (verdict, state, s.2 ++ [⟨unit, verdict⟩]) := by
  simp only [recording, h]

/-- The emitter is not affected by the record. -/
theorem fst_after_recording (e : Emitter σ) (units : List SourceUnit) (s : σ × List Submission) :
    (e.recording.after units s).1 = e.after units s.1 := by
  induction units generalizing s with
  | nil => rfl
  | cons unit units ih => exact ih (e.recording.submit unit s).2

theorem RefusesOnlyRepeats.recording {e : Emitter σ} {state : σ} (h : e.RefusesOnlyRepeats state) :
    e.recording.RefusesOnlyRepeats (state, []) := by
  intro units unit hnew
  show (e.submit unit (e.recording.after units (state, [])).1).1 = .ok ()
  rw [fst_after_recording]
  exact h units unit hnew

/-- Units with distinct keys have all been taken. -/
theorem RefusesOnlyRepeats.record {e : Emitter σ} {state : σ} (h : e.RefusesOnlyRepeats state)
    {units : List SourceUnit} (hkeys : (units.map (·.key)).Nodup) :
    (e.recording.after units (state, [])).2 = units.map .taken := by
  induction units using List.reverseRecOn with
  | nil => rfl
  | append_singleton units unit ih =>
    rw [List.map_append, List.map_singleton] at hkeys
    obtain ⟨hbefore, -, hapart⟩ := List.nodup_append.mp hkeys
    have hnew : unit.key ∉ units.map (·.key) := by
      intro hmem
      exact hapart _ hmem _ (List.mem_singleton_self _) rfl
    have htaken := h units unit hnew
    rw [← fst_after_recording e units (state, [])] at htaken
    rw [after_concat, List.map_append, ← ih hbefore]
    show (e.recording.after units (state, [])).2 ++ [⟨unit, (e.submit unit _).1⟩] = _
    rw [htaken]
    rfl

end Emitter

namespace Round

/-! ### Rounds with a record -/

section recording
variable {σ : Type} {e : Emitter σ}

/-- What the emitter of the round was handed. -/
def record (r : Round (σ × List Submission)) : List Submission := r.emitter.2

/-- The round without the record. -/
def unrecorded (r : Round (σ × List Submission)) : Round σ := { r with emitter := r.emitter.1 }

/-- The round without the state of the emitter, so that only the record is left of it. -/
def visible (r : Round (σ × List Submission)) : Round (List Submission) :=
  { r with emitter := r.emitter.2 }

theorem unrecorded_report (r : Round (σ × List Submission)) (symbol : String) (refusal : Refusal) :
    (r.report symbol refusal).unrecorded = r.unrecorded.report symbol refusal := by
  unfold report
  split
  · rfl
  · rfl

theorem visible_report (r : Round (σ × List Submission)) (symbol : String) (refusal : Refusal) :
    (r.report symbol refusal).visible = r.visible.report symbol refusal := by
  unfold report
  split
  · rfl
  · rfl

/-- The emitter was handed one more unit.  The round has its key, and counts it among the units if
    it was taken.  Nothing else has changed. -/
structure Hands (submission : Submission) (r next : Round (σ × List Submission)) : Prop where
  handed : next.handed = submission.key :: r.handed
  units : next.units = r.units ++ if submission.isTaken then [submission.key] else []
  errors : next.errors = r.errors
  warnings : next.warnings = r.warnings
  diagnostics : next.diagnostics = r.diagnostics
  record : next.record = r.record ++ [submission]

/-- All that a submission can come to: either the emitter is not asked and nothing happens, or it is
    asked and gives the verdict. -/
theorem submit_recording_cases (e : Emitter σ) (r : Round (σ × List Submission))
    (unit : SourceUnit) :
    (unit.key ∈ r.handed ∧ r.submit e.recording unit = (.error (.duplicate unit.key), r)) ∨
      (unit.key ∉ r.handed ∧ ∃ verdict next, r.submit e.recording unit = (verdict, next) ∧
        Hands ⟨unit, verdict⟩ r next) := by
  by_cases hold : unit.key ∈ r.handed
  · exact Or.inl ⟨hold, submit_of_handed hold⟩
  · rcases hverdict : e.submit unit r.emitter.1 with ⟨error | _, state⟩
    · refine Or.inr ⟨hold, _, _, submit_of_refused hold (Emitter.submit_recording hverdict), ?_⟩
      exact ⟨rfl, (List.append_nil r.units).symm, rfl, rfl, rfl, rfl⟩
    · refine Or.inr ⟨hold, _, _, submit_of_taken hold (Emitter.submit_recording hverdict), ?_⟩
      exact ⟨rfl, rfl, rfl, rfl, rfl, rfl⟩

theorem submit_unrecorded (r : Round (σ × List Submission)) (unit : SourceUnit) :
    r.unrecorded.submit e unit =
      ((r.submit e.recording unit).1, (r.submit e.recording unit).2.unrecorded) := by
  by_cases hhanded : unit.key ∈ r.handed
  · have hhanded' : unit.key ∈ r.unrecorded.handed := hhanded
    rw [submit_of_handed hhanded', submit_of_handed (e := e.recording) hhanded]
  · have hnew : unit.key ∉ r.unrecorded.handed := hhanded
    rcases hverdict : e.submit unit r.emitter.1 with ⟨error | _, state⟩
    · rw [submit_of_refused hnew hverdict,
        submit_of_refused hhanded (Emitter.submit_recording hverdict)]
      rfl
    · rw [submit_of_taken hnew hverdict,
        submit_of_taken hhanded (Emitter.submit_recording hverdict)]
      rfl

/-- Whatever is done with the record is done without it. -/
theorem perform_unrecorded (plan : List Action) (r : Round (σ × List Submission)) :
    perform e plan r.unrecorded =
      ((perform e.recording plan r).1, (perform e.recording plan r).2.unrecorded) := by
  induction plan generalizing r with
  | nil => rfl
  | cons action plan ih =>
    cases action with
    | report symbol refusal =>
      rw [perform, ← unrecorded_report]
      exact ih (r.report symbol refusal)
    | warn symbol message => exact ih (r.warn symbol message)
    | submit unit =>
      rw [perform, perform, submit_unrecorded]
      -- Both go on after a unit that was taken, and both stop at one that was not.
      rcases r.submit e.recording unit with ⟨error | _, next⟩
      · rfl
      · exact ih next

theorem run_unrecorded {snapshot : Snapshot} {settings : Settings} {start : Moment} {state : σ}
    {outcome : Except Failure Report} {r : Round (σ × List Submission)}
    (h : run e.recording snapshot settings start (state, []) = (outcome, r)) :
    run e snapshot settings start state = (outcome, r.unrecorded) := by
  unfold run at h ⊢
  cases hchecked : settings.checked with
  | error fault =>
    simp only [hchecked] at h ⊢
    cases h
    rfl
  | ok checked =>
    have hperform := perform_unrecorded (e := e) (Plan.round (.of snapshot settings start))
      { emitter := (state, []) }
    simp only [unrecorded] at hperform
    simp only [hchecked, hperform] at h ⊢
    rcases hrecorded : perform e.recording (Plan.round (.of snapshot settings start))
      { emitter := (state, []) } with ⟨error | _, next⟩
    · simp only [hrecorded] at h ⊢
      cases h
      rfl
    · simp only [hrecorded] at h ⊢
      cases h
      rfl

/-- A plan with distinct keys is carried out to its end, and all its units are taken. -/
theorem exists_perform_recording {state : σ} (he : e.RefusesOnlyRepeats state) {plan : List Action}
    (hkeys : ((Plan.submitted plan).map (·.key)).Nodup) :
    ∃ r, perform e.recording plan { emitter := (state, []) } = (.ok (), r) ∧
      HasDone e.recording (state, []) (Plan.submitted plan) (Plan.reported plan) r ∧
      r.record = (Plan.submitted plan).map .taken := by
  have htakes := he.recording.takesAll hkeys
  obtain ⟨r, hperform, hdone⟩ := (hasDone_start e.recording (state, [])).perform htakes hkeys
  refine ⟨r, hperform, hdone, ?_⟩
  have hemitter : r.emitter = e.recording.after (Plan.submitted plan) (state, []) := hdone.emitter
  rw [record, hemitter]
  exact he.record hkeys

end recording

end Round

end CompanionSource
