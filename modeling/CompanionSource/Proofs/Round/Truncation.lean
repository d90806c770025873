import CompanionSource.Proofs.Round.Collision
import CompanionSource.Proofs.Round.Record

/-! # A refusal only cuts a round short

    A unit that the emitter refuses ends the round.  What came before is not touched by that.  To
    say so, two rounds over the same declarations are compared:

    - the **full** round, with an emitter that takes everything;
    - a round with an emitter of **any behaviour**, whose verdicts may depend on all that it was
      handed before.

    As long as nothing is refused, the two rounds cannot be told apart.  At the first refusal the
    second one stops, and it has reported what the full round has reported by then.  The relation
    is kept by each action, so it is carried through the plan by induction. -/

namespace CompanionSource

namespace Round

variable {σ : Type}

/-! ### Stopping -/

/-- The round stopped when a unit was refused.  Apart from this unit it is where the full round
    was before it submitted it. -/
structure StopsAt (unit : SourceUnit) (error : EmitError) (full : Round (Unit × List Submission))
    (r : Round (σ × List Submission)) : Prop where
  record : r.record = full.record ++ [.refused unit error]
  units : r.units = full.units
  errors : r.errors = full.errors
  warnings : r.warnings = full.warnings
  diagnostics : r.diagnostics = full.diagnostics

/-- What a plan comes to with an emitter of any behaviour, beside the full round. -/
inductive Follows (e : Emitter σ) (plan : List Action) (r : Round (σ × List Submission))
    (full : Round (Unit × List Submission)) : Prop
  /-- No unit is refused by the emitter, and the two rounds stay the same. -/
  | agrees {verdict : Except EmitError Unit} {r' : Round (σ × List Submission)}
      {full' : Round (Unit × List Submission)} :
      perform e.recording plan r = (verdict, r') →
      perform Emitter.accepting.recording plan full = (verdict, full') →
      r'.visible = full'.visible → Follows e plan r full
  /-- A unit is refused, which the full round has come to as well. -/
  | stops {front back : List Action} {unit : SourceUnit} {error : EmitError}
      {r' : Round (σ × List Submission)} {mid : Round (Unit × List Submission)} :
      plan = front ++ .submit unit :: back →
      perform Emitter.accepting.recording front full = (.ok (), mid) →
      perform e.recording plan r = (.error error, r') →
      mid.StopsAt unit error r' → Follows e plan r full

section steps
variable {e : Emitter σ} {r r₁ : Round (σ × List Submission)}
  {full full₁ : Round (Unit × List Submission)}

/-- An action that both rounds get past comes before what they do about the rest of the plan. -/
theorem Follows.cons {action : Action} {plan : List Action} (h : Follows e plan r₁ full₁)
    (hr : perform e.recording (action :: plan) r = perform e.recording plan r₁)
    (hfull : ∀ plan, perform Emitter.accepting.recording (action :: plan) full =
      perform Emitter.accepting.recording plan full₁) :
    Follows e (action :: plan) r full := by
  cases h with
  | agrees hperform hfull' hvisible =>
    exact .agrees (hr.trans hperform) ((hfull plan).trans hfull') hvisible
  | @stops front back unit error r' mid hplan hmid hperform hstops =>
    have hplan' : action :: plan = (action :: front) ++ .submit unit :: back := by
      rw [hplan, List.cons_append]
    exact .stops hplan' ((hfull front).trans hmid) (hr.trans hperform) hstops

/-- The two rounds are the same in all that can be seen. -/
theorem visible_eq_visible_iff :
    r.visible = full.visible ↔ r.handed = full.handed ∧ r.units = full.units ∧
      r.errors = full.errors ∧ r.warnings = full.warnings ∧ r.diagnostics = full.diagnostics ∧
      r.record = full.record := by
  rw [visible, visible, Round.mk.injEq]
  rfl

/-- One submission: the two rounds get the same verdict and stay the same, or the emitter has
    refused what the other one takes. -/
theorem submit_follows (h : r.visible = full.visible) (unit : SourceUnit) :
    (∃ verdict r' full', r.submit e.recording unit = (verdict, r') ∧
      full.submit Emitter.accepting.recording unit = (verdict, full') ∧
      r'.visible = full'.visible) ∨
    ∃ error r', r.submit e.recording unit = (.error error, r') ∧ full.StopsAt unit error r' := by
  obtain ⟨hhanded, hunits, herrors, hwarnings, hdiagnostics, hrecord⟩ :=
    visible_eq_visible_iff.mp h
  by_cases hold : unit.key ∈ r.handed
  · have hold' : unit.key ∈ full.handed := hhanded ▸ hold
    exact Or.inl ⟨_, r, full, submit_of_handed hold, submit_of_handed hold', h⟩
  · have hnew' : unit.key ∉ full.handed := hhanded ▸ hold
    have hfull := submit_of_taken (e := Emitter.accepting.recording) hnew' rfl
    rcases hverdict : e.submit unit r.emitter.1 with ⟨error | _, state⟩
    · refine Or.inr ⟨error, _, submit_of_refused hold (Emitter.submit_recording hverdict), ?_⟩
      exact ⟨congrArg (· ++ _) hrecord, hunits, herrors, hwarnings, hdiagnostics⟩
    · refine Or.inl ⟨_, _, _, submit_of_taken hold (Emitter.submit_recording hverdict), hfull, ?_⟩
      rw [visible_eq_visible_iff]
      exact ⟨congrArg (_ :: ·) hhanded, congrArg (· ++ _) hunits, herrors, hwarnings,
        hdiagnostics, congrArg (· ++ _) hrecord⟩

theorem follows (h : r.visible = full.visible) (plan : List Action) : Follows e plan r full := by
  induction plan generalizing r full with
  | nil => exact .agrees rfl rfl h
  | cons action plan ih =>
    cases action with
    | report symbol refusal =>
      have hnext : (r.report symbol refusal).visible = (full.report symbol refusal).visible := by
        rw [visible_report, visible_report, h]
      exact (ih hnext).cons rfl fun _ => rfl
    | warn symbol message =>
      have hnext : (r.warn symbol message).visible = (full.warn symbol message).visible :=
        congrArg (·.warn symbol message) h
      exact (ih hnext).cons rfl fun _ => rfl
    | submit unit =>
      rcases submit_follows (e := e) h unit with
        ⟨error | _, r', full', hr, hfull, hnext⟩ | ⟨error, r', hr, hstops⟩
      · -- Both were handed a unit with this key before, and both end.
        have hends : perform e.recording (.submit unit :: plan) r = (.error error, r') := by
          rw [perform, hr]
        have hends' : perform Emitter.accepting.recording (.submit unit :: plan) full =
            (.error error, full') := by
          rw [perform, hfull]
        exact .agrees hends hends' hnext
      · refine (ih hnext).cons ?_ fun plan => ?_
        · rw [perform, hr]
        · rw [perform, hfull]
      · have hplan : .submit unit :: plan = [] ++ .submit unit :: plan := rfl
        have hends : perform e.recording (.submit unit :: plan) r = (.error error, r') := by
          rw [perform, hr]
        exact .stops hplan rfl hends hstops

end steps

/-! ### Full rounds -/

/-- The full round over a plan with distinct keys. -/
theorem exists_full {plan : List Action} (hkeys : ((Plan.submitted plan).map (·.key)).Nodup) :
    ∃ full, perform Emitter.accepting.recording plan { emitter := ((), []) } = (.ok (), full) ∧
      full.record = (Plan.submitted plan).map .taken ∧ full.diagnostics = Plan.reported plan := by
  have haccepts : Emitter.accepting.RefusesOnlyRepeats () :=
    Emitter.refusesOnlyRepeats_of_accepts (fun _ _ => rfl) ()
  obtain ⟨full, hfull, hdone, hrecord⟩ := exists_perform_recording haccepts hkeys
  exact ⟨full, hfull, hrecord, hdone.diagnostics⟩

/-- The full round, when it is about to submit the unit. -/
def ComesTo (ctx : Synthesis.Context) (unit : SourceUnit) (full : Round (Unit × List Submission)) :
    Prop :=
  ∃ front back, Plan.round ctx = front ++ .submit unit :: back ∧
    perform Emitter.accepting.recording front { emitter := ((), []) } = (.ok (), full)

/-- **Truncation.**  With an emitter of any behaviour a round is the full round, or else the full
round up to the first unit that the emitter refuses.  Then it ends with the error of the emitter,
it has submitted this unit last, and it has reported what the full round has reported before. -/
theorem run_truncates (e : Emitter σ) (state : σ) {settings : Settings} (snapshot : Snapshot)
    (start : Moment) (hsettings : settings.faults = []) :
    ∃ report full units outcome r,
      run Emitter.accepting.recording snapshot settings start ((), []) = (.ok report, full) ∧
      full.record = units.map .taken ∧
      run e.recording snapshot settings start (state, []) = (outcome, r) ∧
      run e snapshot settings start state = (outcome, r.unrecorded) ∧
      ((outcome = .ok report ∧ r.visible = full.visible) ∨
        ∃ before unit after error mid,
          units = before ++ unit :: after ∧
          outcome = .error (.emission error) ∧
          r.record = before.map .taken ++ [.refused unit error] ∧
          ComesTo (.of snapshot settings start) unit mid ∧
          mid.record = before.map .taken ∧
          mid.StopsAt unit error r ∧
          r.diagnostics <+: full.diagnostics) := by
  have hkeys := Plan.nodup_keys_round (.of snapshot settings start)
  obtain ⟨full, hfull, hrecord, hdiagnostics⟩ := exists_full hkeys
  have hstart : ({ emitter := (state, []) } : Round (σ × List Submission)).visible =
      ({ emitter := ((), []) } : Round (Unit × List Submission)).visible := rfl
  cases follows (e := e) hstart (Plan.round (.of snapshot settings start)) with
  | @agrees verdict r full' hr hfull' hvisible =>
    -- The full round has one course only, so this is the one that takes everything.
    obtain ⟨rfl, rfl⟩ := Prod.mk.inj (hfull.symm.trans hfull')
    have hrun := run_of_perform_ok hsettings hr
    refine ⟨_, full, _, _, r, run_of_perform_ok hsettings hfull, hrecord, hrun, run_unrecorded hrun,
      ?_⟩
    obtain ⟨-, hunits, herrors, hwarnings, -, -⟩ := visible_eq_visible_iff.mp hvisible
    refine Or.inl ⟨?_, hvisible⟩
    simp only [outcome, hunits, herrors, hwarnings]
  | @stops front back unit error r mid hplan hmid hr hstops =>
    have hrun := run_of_perform_error hsettings hr
    refine ⟨_, full, _, _, r, run_of_perform_ok hsettings hfull, hrecord, hrun, run_unrecorded hrun,
      ?_⟩
    have hsubmitted : Plan.submitted (Plan.round (.of snapshot settings start)) =
        Plan.submitted front ++ unit :: Plan.submitted back := by
      rw [hplan, Plan.submitted_append, Plan.submitted_cons]
      rfl
    have hfront : ((Plan.submitted front).map (·.key)).Nodup := by
      rw [hsubmitted, List.map_append] at hkeys
      exact (List.nodup_append.mp hkeys).1
    obtain ⟨mid', hmid', hbefore, hreported⟩ := exists_full hfront
    obtain ⟨-, rfl⟩ := Prod.mk.inj (hmid.symm.trans hmid')
    refine Or.inr ⟨_, unit, _, error, mid, hsubmitted, rfl, ?_, ⟨front, back, hplan, hmid⟩, hbefore,
      hstops, ?_⟩
    · rw [hstops.record, hbefore]
    · rw [hstops.diagnostics, hreported, hdiagnostics, hplan, Plan.reported_append]
      exact List.prefix_append _ _

/-- Two wrappers, and an emitter that takes one unit only. -/
theorem run_truncates_second_unit :
    let loggable : Declared.Annotation := { name := "Loggable" }
    let declarations : List Declaration :=
      [{ name := "a.Api", kind := .interface, annotations := [loggable] },
        { name := "a.Base", kind := .class_, annotations := [loggable] },
        { name := "b.Api", kind := .interface, annotations := [loggable] }]
    let settings : Settings := {}
    let once : Emitter Bool :=
      { submit := fun unit full =>
          if full then (.error (.unwritable unit.key.label), true) else (.ok (), true) }
    settings.faults = [] ∧ ∃ hsound, ∃ report full units outcome r,
      run Emitter.accepting.recording ⟨declarations, hsound⟩ settings .newYear2024 ((), []) =
        (.ok report, full) ∧
      full.record = units.map .taken ∧
      run once.recording ⟨declarations, hsound⟩ settings .newYear2024 (false, []) = (outcome, r) ∧
      run once ⟨declarations, hsound⟩ settings .newYear2024 false = (outcome, r.unrecorded) ∧
      ((outcome = .ok report ∧ r.visible = full.visible) ∨
        ∃ before unit after error mid,
          units = before ++ unit :: after ∧
          outcome = .error (.emission error) ∧
          r.record = before.map .taken ++ [.refused unit error] ∧
          ComesTo (.of ⟨declarations, hsound⟩ settings .newYear2024) unit mid ∧
          mid.record = before.map .taken ∧
          mid.StopsAt unit error r ∧
          r.diagnostics <+: full.diagnostics) := by
  intro loggable declarations settings once
  have hsettings : settings.faults = [] := by decide
  have hsound : Snapshot.issues declarations = [] := by decide
  exact ⟨hsettings, hsound,
    run_truncates once false ⟨declarations, hsound⟩ .newYear2024 hsettings⟩

end Round

end CompanionSource
