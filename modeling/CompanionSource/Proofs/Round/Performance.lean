import CompanionSource.Round.Basic
import Mathlib.Data.List.Nodup

/-! # Carrying out a plan

    What a round comes to when no unit is refused:

    - A plan **submits** units and **reports** diagnostics, both in the order of its actions.
    - A round **has handed over** units and has a log, if its emitter is in the state after these
      units and its lists and counts are those of the units and the log.
    - Each action keeps this, with one unit or one diagnostic more.  So a round that carries out a
      whole plan has handed over all units of the plan and has reported all its diagnostics.

    An emitter need not take everything for that.  It is enough that it takes each unit of the plan
    after the units before it.  It does if it takes any unit with a key that is new to it, as long
    as the keys of the plan are distinct. -/

namespace CompanionSource

/-! ### What a plan comes to -/

theorem Diagnostic.count_concat (severity : Severity) (log : List Diagnostic) (entry : Diagnostic) :
    count severity (log ++ [entry]) =
      count severity log + if entry.severity = severity then 1 else 0 := by
  simp [count, List.countP_append, List.countP_singleton]

/-- The diagnostic about the refusal of a declaration. -/
def Diagnostic.ofRefusal (symbol : String) (refusal : Refusal) : Diagnostic :=
  { severity := if refusal.isWarning then .warning else .error
    symbol
    message := refusal.message }

namespace Action

/-- The unit that an action submits, if it submits one. -/
def units : Action → List SourceUnit
  | .report _ _ => []
  | .warn _ _ => []
  | .submit unit => [unit]

/-- The diagnostic that an action reports, if it reports one. -/
def diagnostics : Action → List Diagnostic
  | .report symbol refusal => [.ofRefusal symbol refusal]
  | .warn symbol message => [⟨.warning, symbol, message⟩]
  | .submit _ => []

end Action

namespace Plan

/-- The units that a plan submits, in order. -/
def submitted (plan : List Action) : List SourceUnit := plan.flatMap Action.units

/-- The diagnostics that a plan reports, in order. -/
def reported (plan : List Action) : List Diagnostic := plan.flatMap Action.diagnostics

@[simp] theorem submitted_nil : submitted [] = [] := rfl

@[simp] theorem submitted_cons (a : Action) (plan : List Action) :
    submitted (a :: plan) = a.units ++ submitted plan := List.flatMap_cons

@[simp] theorem submitted_append (plan rest : List Action) :
    submitted (plan ++ rest) = submitted plan ++ submitted rest := List.flatMap_append

@[simp] theorem reported_nil : reported [] = [] := rfl

@[simp] theorem reported_cons (a : Action) (plan : List Action) :
    reported (a :: plan) = a.diagnostics ++ reported plan := List.flatMap_cons

@[simp] theorem reported_append (plan rest : List Action) :
    reported (plan ++ rest) = reported plan ++ reported rest := List.flatMap_append

@[simp] theorem submitted_submit (units : List SourceUnit) :
    submitted (units.map .submit) = units := by
  simp [submitted, List.flatMap_map, Action.units]

@[simp] theorem reported_submit (units : List SourceUnit) : reported (units.map .submit) = [] := by
  simp [reported, Action.diagnostics]

@[simp] theorem submitted_warnings (symbol : String) (messages : List String) :
    submitted (warnings symbol messages) = [] := by
  simp [submitted, warnings, Action.units]

@[simp] theorem reported_warnings (symbol : String) (messages : List String) :
    reported (warnings symbol messages) = messages.map (⟨.warning, symbol, ·⟩) := by
  simp [reported, warnings, List.flatMap_map, Action.diagnostics, ← List.map_eq_flatMap]

end Plan

/-! ### Emitters -/

namespace Emitter

variable {σ : Type}

/-- The state of an emitter after it was handed units, whether it took them or not. -/
def after (e : Emitter σ) (units : List SourceUnit) (state : σ) : σ :=
  units.foldl (fun state unit => (e.submit unit state).2) state

/-- From this state on, the emitter refuses a unit only if it was handed one with the same key
    before. -/
def RefusesOnlyRepeats (e : Emitter σ) (state : σ) : Prop :=
  ∀ units unit, unit.key ∉ units.map (·.key) → (e.submit unit (e.after units state)).1 = .ok ()

/-- An emitter that takes everything refuses nothing. -/
theorem refusesOnlyRepeats_of_accepts {e : Emitter σ}
    (h : ∀ unit state, (e.submit unit state).1 = .ok ()) (state : σ) :
    e.RefusesOnlyRepeats state :=
  fun _ unit _ => h unit _

/-- The emitter takes these units if it is handed them one after another from this state on. -/
def TakesAll (e : Emitter σ) (state : σ) (units : List SourceUnit) : Prop :=
  ∀ before unit later, units = before ++ unit :: later →
    (e.submit unit (e.after before state)).1 = .ok ()

/-- Units with distinct keys are no repeats. -/
theorem RefusesOnlyRepeats.takesAll {e : Emitter σ} {state : σ} (h : e.RefusesOnlyRepeats state)
    {units : List SourceUnit} (hkeys : (units.map (·.key)).Nodup) : e.TakesAll state units := by
  rintro before unit later rfl
  refine h before unit fun hmem => ?_
  rw [List.map_append] at hkeys
  exact (List.nodup_append.mp hkeys).2.2 _ hmem _ List.mem_cons_self rfl

theorem after_concat (e : Emitter σ) (units : List SourceUnit) (unit : SourceUnit) (state : σ) :
    e.after (units ++ [unit]) state = (e.submit unit (e.after units state)).2 := by
  rw [after, List.foldl_append]
  rfl

end Emitter

namespace Memory

/-- All keys that are kept in memory were there before or were handed over. -/
theorem key_mem_of_mem_after {m : Memory} {units : List SourceUnit} {unit : SourceUnit}
    (h : unit ∈ (emitter.after units m).units) :
    unit.key ∈ m.units.map (·.key) ∨ unit.key ∈ units.map (·.key) := by
  induction units generalizing m with
  | nil => exact Or.inl (List.mem_map_of_mem h)
  | cons first units ih =>
    rw [List.map_cons, List.mem_cons]
    rcases ih h with hkept | hhanded
    · -- What is kept after the first unit is what was kept before, or that unit.
      simp only [emitter] at hkept
      split at hkept
      · exact Or.inl hkept
      · rw [List.map_append, List.mem_append, List.map_singleton, List.mem_singleton] at hkept
        exact hkept.imp_right Or.inl
    · exact Or.inr (Or.inr hhanded)

/-- A memory with nothing in it takes each key once. -/
theorem refusesOnlyRepeats : emitter.RefusesOnlyRepeats {} := by
  intro units unit hnew
  have hfree : (emitter.after units {}).unit? unit.key = none := by
    rw [unit?, List.find?_eq_none]
    intro kept hkept hkey
    rw [beq_iff_eq] at hkey
    rcases key_mem_of_mem_after hkept with hbefore | hhanded
    · cases hbefore
    · exact hnew (hkey ▸ hhanded)
  show (if _ then _ else _ : Except EmitError Unit × Memory).1 = _
  rw [hfree]
  rfl

end Memory

/-! ### Rounds -/

namespace Round

variable {σ : Type} {e : Emitter σ} {state : σ} {units : List SourceUnit} {log : List Diagnostic}
  {r : Round σ}

/-! #### Single submissions -/

/-- The emitter is not asked about a key that it was handed before. -/
theorem submit_of_handed {unit : SourceUnit} (h : unit.key ∈ r.handed) :
    r.submit e unit = (.error (.duplicate unit.key), r) := by
  have hcontains : r.handed.contains unit.key = true := List.contains_iff_mem.mpr h
  rw [submit, if_pos hcontains]

theorem submit_of_taken {unit : SourceUnit} {next : σ} (hnew : unit.key ∉ r.handed)
    (h : e.submit unit r.emitter = (.ok (), next)) :
    r.submit e unit =
      (.ok (), { r with
        handed := unit.key :: r.handed
        units := r.units ++ [unit.key]
        emitter := next }) := by
  rw [submit, if_neg (mt List.contains_iff_mem.mp hnew)]
  simp only [h]

theorem submit_of_refused {unit : SourceUnit} {error : EmitError} {next : σ}
    (hnew : unit.key ∉ r.handed) (h : e.submit unit r.emitter = (.error error, next)) :
    r.submit e unit =
      (.error error, { r with handed := unit.key :: r.handed, emitter := next }) := by
  rw [submit, if_neg (mt List.contains_iff_mem.mp hnew)]
  simp only [h]

/-! #### Single reports -/

/-- The round goes on with one more diagnostic in the log, and counts it. -/
structure Adds (entry : Diagnostic) (r next : Round σ) : Prop where
  handed : next.handed = r.handed
  units : next.units = r.units
  errors : next.errors = r.errors + if entry.severity = .error then 1 else 0
  warnings : next.warnings = r.warnings + if entry.severity = .warning then 1 else 0
  diagnostics : next.diagnostics = r.diagnostics ++ [entry]
  emitter : next.emitter = r.emitter

theorem adds_warn (r : Round σ) (symbol message : String) :
    Adds ⟨.warning, symbol, message⟩ r (r.warn symbol message) :=
  ⟨rfl, rfl, rfl, rfl, rfl, rfl⟩

/-- A refusal is counted by how serious it is. -/
theorem adds_report (r : Round σ) (symbol : String) (refusal : Refusal) :
    Adds (.ofRefusal symbol refusal) r (r.report symbol refusal) := by
  unfold report Diagnostic.ofRefusal
  split
  · exact ⟨rfl, rfl, rfl, rfl, rfl, rfl⟩
  · exact ⟨rfl, rfl, rfl, rfl, rfl, rfl⟩

/-! #### What is done -/

/-- The round has handed over these units, all of which were taken, and has reported this log. -/
structure HasDone (e : Emitter σ) (state : σ) (units : List SourceUnit) (log : List Diagnostic)
    (r : Round σ) : Prop where
  handed : ∀ k, k ∈ r.handed ↔ k ∈ units.map (·.key)
  taken : r.units = units.map (·.key)
  errors : r.errors = Diagnostic.count .error log
  warnings : r.warnings = Diagnostic.count .warning log
  diagnostics : r.diagnostics = log
  emitter : r.emitter = e.after units state

theorem hasDone_start (e : Emitter σ) (state : σ) : HasDone e state [] [] { emitter := state } :=
  ⟨fun _ => Iff.rfl, rfl, rfl, rfl, rfl, rfl⟩

/-- What was done settles the outcome, whatever the emitter is. -/
theorem HasDone.outcome_eq {τ : Type} {e' : Emitter τ} {state' : τ} {r' : Round τ}
    (h : HasDone e state units log r) (h' : HasDone e' state' units log r')
    (ctx : Synthesis.Context) : r.outcome ctx = r'.outcome ctx := by
  rw [outcome, outcome, h.taken, h'.taken, h.errors, h'.errors, h.warnings, h'.warnings]

theorem HasDone.add (h : HasDone e state units log r) {entry : Diagnostic} {next : Round σ}
    (hnext : Adds entry r next) : HasDone e state units (log ++ [entry]) next :=
  { handed := by
      rw [hnext.handed]
      exact h.handed
    taken := hnext.units.trans h.taken
    errors := by rw [hnext.errors, h.errors, Diagnostic.count_concat]
    warnings := by rw [hnext.warnings, h.warnings, Diagnostic.count_concat]
    diagnostics := by rw [hnext.diagnostics, h.diagnostics]
    emitter := hnext.emitter.trans h.emitter }

/-- A unit with a new key that the emitter takes is handed over. -/
theorem HasDone.submit (h : HasDone e state units log r) {unit : SourceUnit}
    (htaken : (e.submit unit (e.after units state)).1 = .ok ())
    (hnew : unit.key ∉ units.map (·.key)) :
    ∃ r', r.submit e unit = (.ok (), r') ∧ HasDone e state (units ++ [unit]) log r' := by
  rw [← h.emitter] at htaken
  have hfree : unit.key ∉ r.handed := by
    rw [h.handed]
    exact hnew
  obtain ⟨next, hnext⟩ : ∃ next, e.submit unit r.emitter = (.ok (), next) :=
    ⟨_, Prod.ext htaken rfl⟩
  refine ⟨_, submit_of_taken hfree hnext, ?_, ?_, h.errors, h.warnings, h.diagnostics, ?_⟩
  · intro k
    show k ∈ unit.key :: r.handed ↔ _
    rw [List.mem_cons, h.handed, List.map_append, List.mem_append, List.map_singleton,
      List.mem_singleton, or_comm]
  · show r.units ++ [unit.key] = _
    rw [h.taken, List.map_append, List.map_singleton]
  · rw [Emitter.after_concat, ← h.emitter, hnext]

/-! #### Whole plans -/

/-- A plan with new and distinct keys is carried out to its end, if the emitter takes its units. -/
theorem HasDone.perform (h : HasDone e state units log r) {plan : List Action}
    (he : e.TakesAll state (units ++ Plan.submitted plan))
    (hkeys : ((units ++ Plan.submitted plan).map (·.key)).Nodup) :
    ∃ r', perform e plan r = (.ok (), r') ∧
      HasDone e state (units ++ Plan.submitted plan) (log ++ Plan.reported plan) r' := by
  induction plan generalizing units log r with
  | nil => exact ⟨r, rfl, by simpa using h⟩
  | cons action plan ih =>
    -- The action comes first, and the others are done from the round after it.
    rw [Plan.submitted_cons, ← List.append_assoc] at he hkeys
    rw [Plan.submitted_cons, Plan.reported_cons, ← List.append_assoc, ← List.append_assoc]
    cases action with
    | report symbol refusal =>
      rw [Action.units, List.append_nil] at *
      exact ih (h.add (adds_report r symbol refusal)) he hkeys
    | warn symbol message =>
      rw [Action.units, List.append_nil] at *
      exact ih (h.add (adds_warn r symbol message)) he hkeys
    | submit unit =>
      have hnew : unit.key ∉ units.map (·.key) := by
        rw [List.map_append, List.map_append, List.append_assoc] at hkeys
        intro hmem
        exact (List.nodup_append.mp hkeys).2.2 _ hmem _ List.mem_cons_self rfl
      have htaken := he units unit (Plan.submitted plan) (by simp [Action.units])
      obtain ⟨next, hnext, hdone⟩ := h.submit htaken hnew
      rw [Action.diagnostics, List.append_nil]
      rw [Round.perform, hnext]
      exact ih hdone he hkeys

section run
variable {snapshot : Snapshot} {settings : Settings} {start : Moment}

theorem checked_of_faults (h : settings.faults = []) : settings.checked = .ok settings := by
  rw [Settings.checked, h]

theorem run_of_perform_ok (hsettings : settings.faults = [])
    (h : perform e (Plan.round (.of snapshot settings start)) { emitter := state } = (.ok (), r)) :
    run e snapshot settings start state = (.ok (r.outcome (.of snapshot settings start)), r) := by
  rw [run, checked_of_faults hsettings]
  simp only [h]

theorem run_of_perform_error {error : EmitError} (hsettings : settings.faults = [])
    (h : perform e (Plan.round (.of snapshot settings start)) { emitter := state } =
      (.error error, r)) :
    run e snapshot settings start state = (.error (.emission error), r) := by
  rw [run, checked_of_faults hsettings]
  simp only [h]

/-- With valid settings and distinct keys a round succeeds if the emitter takes its units, and does
    all of its plan. -/
theorem exists_run_of_takesAll (hsettings : settings.faults = [])
    (he : e.TakesAll state (Plan.submitted (Plan.round (.of snapshot settings start))))
    (hkeys : ((Plan.submitted (Plan.round (.of snapshot settings start))).map (·.key)).Nodup) :
    ∃ r, run e snapshot settings start state =
        (.ok (r.outcome (.of snapshot settings start)), r) ∧
      HasDone e state (Plan.submitted (Plan.round (.of snapshot settings start)))
        (Plan.reported (Plan.round (.of snapshot settings start))) r := by
  obtain ⟨r, hperform, hdone⟩ := (hasDone_start e state).perform he hkeys
  exact ⟨r, run_of_perform_ok hsettings hperform, hdone⟩

/-- An emitter that refuses only repeats takes all units of a round. -/
theorem exists_run_eq_ok (hsettings : settings.faults = []) (he : e.RefusesOnlyRepeats state)
    (hkeys : ((Plan.submitted (Plan.round (.of snapshot settings start))).map (·.key)).Nodup) :
    ∃ r, run e snapshot settings start state =
        (.ok (r.outcome (.of snapshot settings start)), r) ∧
      HasDone e state (Plan.submitted (Plan.round (.of snapshot settings start)))
        (Plan.reported (Plan.round (.of snapshot settings start))) r :=
  exists_run_of_takesAll hsettings (he.takesAll hkeys) hkeys

end run

end Round

end CompanionSource
