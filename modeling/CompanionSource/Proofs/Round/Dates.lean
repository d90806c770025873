import CompanionSource.Proofs.Round.Collision
import CompanionSource.Proofs.Round.Record
import CompanionSource.Proofs.Source.Dates

/-! # Rounds at two times

    A round reads the time for one purpose only, which is to write it down.  At another time it
    does the same, to the units with another date:

    - The **plan** at another time is the plan, with another date in every unit that it submits.
    - An emitter **overlooks** dates if what it says to a unit does not depend on them.  Two rounds
      at different times with such an emitter stay in step: action by action they report the same,
      submit the same unit with two dates, and get the same answer.

    Together with the place of the date in a text this says how far a round can be reproduced. -/

namespace CompanionSource

open Synthesis (Context)

/-! ### Generators at another time -/

namespace Synthesis

/-- The context at another time, fixed or not. -/
def Context.dated (stamp : Option Moment) (t : Moment) (ctx : Context) : Context :=
  { ctx with
    settings := { ctx.settings with timestamp := stamp }
    provenance := ctx.provenance.dated t }

/-- The function with another provenance on it. -/
def attributed (p : Provenance) (f : Source.Function) : Source.Function :=
  { f with annotations := [p.mark] }

variable (ctx : Context) (stamp : Option Moment) (t : Moment) (d : Declaration)

theorem wrapper_dated :
    wrapper (ctx.dated stamp t) d = (wrapper ctx d).map fun g =>
      { g with item := { g.item with annotations := [(ctx.provenance.dated t).mark] } } := by
  -- What a wrapper is made of does not have the time in it.
  have hsame : Wrapper.of (ctx.dated stamp t) d = Wrapper.of ctx d := rfl
  simp only [wrapper, hsame]
  cases checkWrappable d with
  | error refusal => rfl
  | ok _ =>
    cases checkDelegate d with
    | error refusal => rfl
    | ok _ =>
      cases (overridableProperties d).mapM (Wrapper.of ctx d).overrideProperty with
      | error refusal => rfl
      | ok properties =>
        cases (overridableFunctions d).mapM (Wrapper.of ctx d).overrideFunction with
        | error refusal => rfl
        | ok functions => rfl

theorem copy_dated :
    copy (ctx.dated stamp t) d = (copy ctx d).map fun g =>
      { g with item := attributed (ctx.provenance.dated t) g.item } := by
  unfold copy
  cases constructorFields .copy d with
  | error refusal => rfl
  | ok ps => rfl

theorem niceString_dated :
    niceString (ctx.dated stamp t) d = (niceString ctx d).map fun g =>
      { g with item := attributed (ctx.provenance.dated t) g.item } := by
  unfold niceString
  cases textFields d with
  | error refusal => rfl
  | ok fields => rfl

end Synthesis

/-! ### Batches at another time -/

theorem SourceUnit.of?_dated (key : UnitKey) (members : List Source.TopLevel) (p : Provenance)
    (t : Moment) :
    of? key (members.map (·.annotated [(p.dated t).mark])) (p.dated t) =
      (of? key members p).map (·.dated t) := by
  cases members with
  | nil => rfl
  | cons _ _ => rfl

/-- With another provenance on all functions, a batch gives its units with another date. -/
theorem Batch.units_ofCalls_attributed (file : String) (calls : List (String × Source.Function))
    (p : Provenance) (t : Moment) :
    (ofCalls file (calls.map fun x => (x.1, Synthesis.attributed (p.dated t) x.2))).units
        (p.dated t) =
      ((ofCalls file calls).units p).map (·.dated t) := by
  have hgroups := Grouping.grouped_map Function.injective_id (Synthesis.attributed (p.dated t)) calls
  simp only [id] at hgroups
  rw [units, units, groups_ofCalls, groups_ofCalls, file_ofCalls, file_ofCalls, hgroups,
    List.filterMap_map, List.map_filterMap]
  refine List.filterMap_congr fun g _ => ?_
  rw [← SourceUnit.of?_dated, List.map_map, Function.comp_apply, List.map_map]
  rfl

/-! ### Plans at another time -/

/-- The action at another time. -/
def Action.dated (t : Moment) : Action → Action
  | .report symbol refusal => .report symbol refusal
  | .warn symbol message => .warn symbol message
  | .submit unit => .submit (unit.dated t)

namespace Plan

section dated
variable (ctx : Context) (stamp : Option Moment) (t : Moment)

theorem warnings_dated (symbol : String) (messages : List String) :
    (warnings symbol messages).map (Action.dated t) = warnings symbol messages := by
  simp [warnings, Action.dated, Function.comp_def]

theorem wrappersFrom_dated (claimed : List (UnitKey × String)) (ds : List Declaration) :
    wrappersFrom (ctx.dated stamp t) claimed ds
      = (wrappersFrom ctx claimed ds).map (Action.dated t) := by
  induction ds generalizing claimed with
  | nil => rfl
  | cons d ds ih =>
    unfold wrappersFrom
    rw [Synthesis.wrapper_dated]
    cases claimed.lookup (wrapperKey d) with
    | some first => simp [ih, Action.dated]
    | none =>
      cases Synthesis.wrapper ctx d with
      | error refusal => simp [Except.map, ih, Action.dated]
      | ok generated =>
        simp only [Except.map, ih, List.map_append, warnings_dated]
        rfl

section extensions
variable {generate : Extension}
  (h : ∀ d, generate (ctx.dated stamp t) d = (generate ctx d).map fun g =>
    { g with item := Synthesis.attributed (ctx.provenance.dated t) g.item })
include h

theorem extensionReports_dated (d : Declaration) :
    extensionReports generate (ctx.dated stamp t) d
      = (extensionReports generate ctx d).map (Action.dated t) := by
  rw [extensionReports, extensionReports, h]
  cases generate ctx d with
  | error refusal => rfl
  | ok generated => exact (warnings_dated t d.name generated.warnings).symm

theorem functions_dated (ds : List Declaration) :
    functions generate (ctx.dated stamp t) ds = (functions generate ctx ds).map fun x =>
      (x.1, Synthesis.attributed (ctx.provenance.dated t) x.2) := by
  rw [functions, functions, List.map_flatMap]
  refine List.flatMap_congr fun d _ => ?_
  rw [h]
  cases generate ctx d with
  | error refusal => rfl
  | ok generated => rfl

theorem extensions_dated (file : String) (directive : Directive) :
    extensions generate file directive (ctx.dated stamp t)
      = (extensions generate file directive ctx).map (Action.dated t) := by
  have hunits (ds : List Declaration) :
      (ds.foldl (addExtension generate (ctx.dated stamp t)) (.fresh file)).units
          (ctx.provenance.dated t)
        = ((ds.foldl (addExtension generate ctx) (.fresh file)).units ctx.provenance).map
          (·.dated t) := by
    rw [foldl_addExtension_eq_ofCalls, foldl_addExtension_eq_ofCalls, functions_dated ctx stamp t h,
      Batch.units_ofCalls_attributed]
  have hreports := funext (extensionReports_dated ctx stamp t h)
  unfold extensions
  show (marked ctx directive).flatMap _ ++ (Batch.units _ (ctx.provenance.dated t)).map _ = _
  rw [hunits, hreports, List.map_append, List.map_flatMap, List.map_map, List.map_map]
  rfl

end extensions

/-- **The plan at another time** is the plan, with another date in every unit. -/
theorem round_dated : round (ctx.dated stamp t) = (round ctx).map (Action.dated t) := by
  have hwrappers : wrappers (ctx.dated stamp t) = (wrappers ctx).map (Action.dated t) :=
    wrappersFrom_dated ctx stamp t [] _
  have hcopies : copies (ctx.dated stamp t) = (copies ctx).map (Action.dated t) :=
    extensions_dated ctx stamp t (Synthesis.copy_dated ctx stamp t) _ _
  have hniceStrings : niceStrings (ctx.dated stamp t) = (niceStrings ctx).map (Action.dated t) :=
    extensions_dated ctx stamp t (Synthesis.niceString_dated ctx stamp t) _ _
  rw [round, hwrappers, hcopies, hniceStrings, round, List.map_append, List.map_append]

end dated

end Plan

/-! ### Emitters that overlook dates -/

namespace Emitter

variable {σ : Type} {e : Emitter σ} {state : σ}

/-- From this state on, what the emitter says to a unit with a new key does not depend on the date
    in it, nor on the dates in the units before. -/
def OverlooksDates (e : Emitter σ) (state : σ) : Prop :=
  ∀ (units : List SourceUnit) (unit : SourceUnit) (t t' : Moment), unit.key ∉ units.map (·.key) →
    (e.submit (unit.dated t) (e.after (units.map (·.dated t)) state)).1
      = (e.submit (unit.dated t') (e.after (units.map (·.dated t')) state)).1

theorem RefusesOnlyRepeats.overlooksDates (h : e.RefusesOnlyRepeats state) :
    e.OverlooksDates state := by
  intro units unit t t' hnew
  have htaken (t : Moment) :
      (e.submit (unit.dated t) (e.after (units.map (·.dated t)) state)).1 = .ok () := by
    refine h (units.map (·.dated t)) (unit.dated t) ?_
    rw [List.map_map]
    exact hnew
  rw [htaken, htaken]

/-- It is enough that units with two dates get the same answer in related states, and that the
    states stay related. -/
theorem overlooksDates_of_relation {R : σ → σ → Prop} (hstart : R state state)
    (hstep : ∀ (unit : SourceUnit) (t t' : Moment) (s s' : σ), R s s' →
      (e.submit (unit.dated t) s).1 = (e.submit (unit.dated t') s').1 ∧
        R (e.submit (unit.dated t) s).2 (e.submit (unit.dated t') s').2) :
    e.OverlooksDates state := by
  have hafter (units : List SourceUnit) (t t' : Moment) :
      R (e.after (units.map (·.dated t)) state) (e.after (units.map (·.dated t')) state) := by
    induction units using List.reverseRecOn with
    | nil => exact hstart
    | append_singleton units unit ih =>
      rw [List.map_append, List.map_append, List.map_singleton, List.map_singleton, after_concat,
        after_concat]
      exact (hstep unit t t' _ _ ih).2
  intro units unit t t' _
  exact (hstep unit t t' _ _ (hafter units t t')).1

end Emitter

/-! ### Rounds in step -/

/-- The same submission at two times.  Only the provenance is another one, and all texts are the same
    chunks with one date or the other in the gaps: in that for the file, and in one for each
    declaration. -/
structure Submission.Redated (t t' : Moment) (s s' : Submission) : Prop where
  verdict : s'.verdict = s.verdict
  unit : s'.unit = s.unit.dated t'
  text : ∀ step, ∃ chunks : List String,
    chunks.length = s.unit.members.length + 2 ∧
    s.unit.text step = t.text.intercalate chunks ∧
    s'.unit.text step = t'.text.intercalate chunks

theorem SourceUnit.dated_dated (u : SourceUnit) (t t' : Moment) :
    (u.dated t).dated t' = u.dated t' := by
  have hitem (item : Source.TopLevel) (marks marks' : List Source.Annotation) :
      (item.annotated marks).annotated marks' = item.annotated marks' := by
    cases item with
    | ofClass c => rfl
    | ofFunction f => rfl
    | ofProperty p => rfl
  simp only [SourceUnit.dated, List.map_map, Function.comp_def, hitem]
  rfl

theorem SourceUnit.redated_dated (u : SourceUnit) (verdict : Except EmitError Unit)
    (t t' : Moment) : Submission.Redated t t' ⟨u.dated t, verdict⟩ ⟨u.dated t', verdict⟩ := by
  refine ⟨rfl, (u.dated_dated t t').symm, fun step => ?_⟩
  obtain ⟨chunks, hlength, htext⟩ := u.exists_text_dated step
  refine ⟨chunks, ?_, htext t, htext t'⟩
  simpa [SourceUnit.dated] using hlength

namespace Round

variable {σ : Type} {e : Emitter σ} {state : σ} {t t' : Moment} {done : List SourceUnit}
  {r r' : Round (σ × List Submission)}

/-- A unit with a new key is handed to the emitter, whatever it says. -/
theorem submit_of_new {r : Round σ} {unit : SourceUnit} {verdict : Except EmitError Unit} {next : σ}
    (hnew : unit.key ∉ r.handed) (h : e.submit unit r.emitter = (verdict, next)) :
    r.submit e unit =
      (verdict, { r with
        handed := unit.key :: r.handed
        units := r.units ++ if verdict.isOk then [unit.key] else []
        emitter := next }) := by
  cases verdict with
  | error error =>
    rw [submit_of_refused hnew h]
    simp [Except.isOk, Except.toBool]
  | ok _ =>
    rw [submit_of_taken hnew h]
    rfl

/-- Two rounds at different times that have come equally far.  They have reported the same, and have
    handed over the same units, each with its date. -/
structure InStep (e : Emitter σ) (state : σ) (t t' : Moment) (done : List SourceUnit)
    (r r' : Round (σ × List Submission)) : Prop where
  known : ∀ u ∈ done, u.key ∈ r.handed
  handed : r'.handed = r.handed
  units : r'.units = r.units
  errors : r'.errors = r.errors
  warnings : r'.warnings = r.warnings
  diagnostics : r'.diagnostics = r.diagnostics
  emitter : r.emitter.1 = e.after (done.map (·.dated t)) state
  emitter' : r'.emitter.1 = e.after (done.map (·.dated t')) state
  submissions : List.Forall₂ (Submission.Redated t t') r.record r'.record

namespace InStep

theorem start (e : Emitter σ) (state : σ) (t t' : Moment) :
    InStep e state t t' [] { emitter := (state, []) } { emitter := (state, []) } :=
  ⟨List.forall_mem_nil _, rfl, rfl, rfl, rfl, rfl, rfl, rfl, .nil⟩

/-- Both rounds report the same. -/
theorem add (h : InStep e state t t' done r r') {entry : Diagnostic}
    {next next' : Round (σ × List Submission)} (hnext : Adds entry r next)
    (hnext' : Adds entry r' next') : InStep e state t t' done next next' :=
  { known := by
      rw [hnext.handed]
      exact h.known
    handed := by rw [hnext.handed, hnext'.handed, h.handed]
    units := by rw [hnext.units, hnext'.units, h.units]
    errors := by rw [hnext.errors, hnext'.errors, h.errors]
    warnings := by rw [hnext.warnings, hnext'.warnings, h.warnings]
    diagnostics := by rw [hnext.diagnostics, hnext'.diagnostics, h.diagnostics]
    emitter := by rw [hnext.emitter, h.emitter]
    emitter' := by rw [hnext'.emitter, h.emitter']
    submissions := by
      rw [record, record, hnext.emitter, hnext'.emitter]
      exact h.submissions }

/-- Both rounds submit a unit, each with its date.  Either both know the key, or both emitters are
    asked and say the same. -/
theorem submit (h : InStep e state t t' done r r') (he : e.OverlooksDates state)
    (unit : SourceUnit) : ∃ verdict next next' done',
      r.submit e.recording (unit.dated t) = (verdict, next) ∧
      r'.submit e.recording (unit.dated t') = (verdict, next') ∧
      InStep e state t t' done' next next' := by
  by_cases hold : unit.key ∈ r.handed
  · have hold' : unit.key ∈ r'.handed := h.handed ▸ hold
    exact ⟨_, r, r', done, submit_of_handed hold, submit_of_handed hold', h⟩
  · have hnew' : unit.key ∉ r'.handed := h.handed ▸ hold
    have hnew : unit.key ∉ done.map (·.key) := by
      intro hmem
      obtain ⟨u, hu, hkey⟩ := List.mem_map.mp hmem
      exact hold (hkey ▸ h.known u hu)
    have hsame := he done unit t t' hnew
    rw [← h.emitter, ← h.emitter'] at hsame
    rcases hanswer : e.submit (unit.dated t) r.emitter.1 with ⟨verdict, next⟩
    rcases hanswer' : e.submit (unit.dated t') r'.emitter.1 with ⟨verdict', next'⟩
    obtain rfl : verdict = verdict' := by rwa [hanswer, hanswer'] at hsame
    have hsubmit : r.submit e.recording (unit.dated t) = _ :=
      submit_of_new hold (Emitter.submit_recording hanswer)
    have hsubmit' : r'.submit e.recording (unit.dated t') = _ :=
      submit_of_new hnew' (Emitter.submit_recording hanswer')
    refine ⟨verdict, _, _, done ++ [unit], hsubmit, hsubmit', ?_⟩
    exact
      { known := by
          intro u hu
          rcases List.mem_append.mp hu with hbefore | hlast
          · exact List.mem_cons_of_mem _ (h.known u hbefore)
          · rw [List.mem_singleton.mp hlast]
            exact List.mem_cons_self
        handed := congrArg (unit.key :: ·) h.handed
        units := congrArg (· ++ _) h.units
        errors := h.errors
        warnings := h.warnings
        diagnostics := h.diagnostics
        emitter := by
          rw [List.map_append, List.map_singleton, Emitter.after_concat, ← h.emitter, hanswer]
        emitter' := by
          rw [List.map_append, List.map_singleton, Emitter.after_concat, ← h.emitter', hanswer']
        submissions := List.rel_append h.submissions (.cons (unit.redated_dated verdict t t') .nil) }

/-- Two rounds in step stay so along a plan. -/
theorem perform (h : InStep e state t t' done r r') (he : e.OverlooksDates state)
    (plan : List Action) : ∃ verdict next next' done',
      Round.perform e.recording (plan.map (Action.dated t)) r = (verdict, next) ∧
      Round.perform e.recording (plan.map (Action.dated t')) r' = (verdict, next') ∧
      InStep e state t t' done' next next' := by
  induction plan generalizing done r r' with
  | nil => exact ⟨.ok (), r, r', done, rfl, rfl, h⟩
  | cons action plan ih =>
    cases action with
    | report symbol refusal =>
      exact ih (h.add (adds_report r symbol refusal) (adds_report r' symbol refusal))
    | warn symbol message =>
      exact ih (h.add (adds_warn r symbol message) (adds_warn r' symbol message))
    | submit unit =>
      obtain ⟨verdict, next, next', done', hr, hr', hstep⟩ := h.submit he unit
      simp only [List.map_cons, Action.dated, Round.perform, hr, hr']
      cases verdict with
      | error error => exact ⟨_, next, next', done', rfl, rfl, hstep⟩
      | ok _ => exact ih hstep

end InStep

/-- Whole rounds at two times are in step, and end in the same way. -/
theorem run_inStep (he : e.OverlooksDates state) (snapshot : Snapshot) (settings : Settings)
    (stamp : Option Moment) (start start' : Moment) : ∃ outcome r outcome' r' done,
      run e.recording snapshot settings start (state, []) = (outcome, r) ∧
      run e.recording snapshot { settings with timestamp := stamp } start' (state, []) =
        (outcome', r') ∧
      outcome' = outcome.map (fun report => { report with moment := stamp.getD start' }) ∧
      InStep e state (settings.timestamp.getD start) (stamp.getD start') done r r' := by
  let settings' : Settings := { settings with timestamp := stamp }
  have hsame : settings'.faults = settings.faults := rfl
  have hbegin := InStep.start e state (settings.timestamp.getD start) (stamp.getD start')
  cases hfaults : settings.faults with
  | cons fault faults =>
    have hchecked : settings.checked = .error fault := by rw [Settings.checked, hfaults]
    have hchecked' : settings'.checked = .error fault := by rw [Settings.checked, hsame, hfaults]
    refine ⟨.error (.settings fault), _, .error (.settings fault), _, [], ?_, ?_, rfl, hbegin⟩
    · rw [run, hchecked]
    · rw [run, hchecked']
  | nil =>
    -- Both plans are that of the first round, with one date or the other.
    let ctx : Context := .of snapshot settings start
    have hplan := Plan.round_dated ctx settings.timestamp (settings.timestamp.getD start)
    have hplan' := Plan.round_dated ctx stamp (stamp.getD start')
    obtain ⟨verdict, r, r', done, hr, hr', hstep⟩ := hbegin.perform he (Plan.round ctx)
    rw [← hplan] at hr
    rw [← hplan'] at hr'
    have hfaults' : settings'.faults = [] := hsame.trans hfaults
    cases verdict with
    | error error =>
      exact ⟨_, r, _, r', done, run_of_perform_error hfaults hr, run_of_perform_error hfaults' hr',
        rfl, hstep⟩
    | ok _ =>
      refine ⟨_, r, _, r', done, run_of_perform_ok hfaults hr, run_of_perform_ok hfaults' hr', ?_,
        hstep⟩
      simp only [outcome, hstep.units, hstep.errors, hstep.warnings]
      rfl

/-- **Reproducibility.**  Fix the time of a round in another way, or begin it at another time.  With
    an emitter that overlooks dates it ends in the same way, with the same units, the same
    diagnostics and the same counts.  What it has submitted is the same up to the date, which is
    that of the fixed time, or else of the beginning.  If the emitter refuses only repeats, both
    rounds succeed. -/
theorem run_redated (he : e.OverlooksDates state) (snapshot : Snapshot) (settings : Settings)
    (stamp : Option Moment) (start start' : Moment) :
    ∃ outcome r outcome' r',
      run e.recording snapshot settings start (state, []) = (outcome, r) ∧
      run e.recording snapshot { settings with timestamp := stamp } start' (state, []) =
        (outcome', r') ∧
      outcome' = outcome.map (fun report => { report with moment := stamp.getD start' }) ∧
      r'.units = r.units ∧
      r'.errors = r.errors ∧
      r'.warnings = r.warnings ∧
      r'.diagnostics = r.diagnostics ∧
      List.Forall₂ (Submission.Redated (settings.timestamp.getD start) (stamp.getD start'))
        r.record r'.record ∧
      (settings.faults = [] → e.RefusesOnlyRepeats state → ∃ report, outcome = .ok report) := by
  obtain ⟨outcome, r, outcome', r', done, hrun, hrun', houtcome, hstep⟩ :=
    run_inStep he snapshot settings stamp start start'
  refine ⟨outcome, r, outcome', r', hrun, hrun', houtcome, hstep.units, hstep.errors,
    hstep.warnings, hstep.diagnostics, hstep.submissions, ?_⟩
  intro hsettings hrefuses
  -- No key comes twice in a plan, so such an emitter takes all of it.
  obtain ⟨done, hdone, -⟩ := exists_run_eq_ok hsettings hrefuses.recording
    (Plan.nodup_keys_round (.of snapshot settings start))
  exact ⟨_, congrArg Prod.fst (hrun.symm.trans hdone)⟩

/-- A wrapper with a warning, a file of two functions and one of one, at two fixed times. -/
theorem run_redated_fixed :
    let string : Declared.TypeRef := .resolved (.named "String")
    let both : List Declared.Annotation := [{ name := "Copy" }, { name := "ToNiceString" }]
    let declarations : List Declaration :=
      [{ name := "a.Api", kind := .interface, annotations := [{ name := "Loggable" }],
          functions :=
            [{ name := "run", returns := some (.unresolved Declared.TypeRef.unresolvedText) }] },
        { name := "a.User", kind := .class_, annotations := both,
          constructor? := some [{ name := "name", type := string, binding := .val }] },
        { name := "a.Post", kind := .class_, annotations := [{ name := "Copy" }],
          constructor? := some [{ name := "title", type := string, binding := .val }] }]
    let settings : Settings := { timestamp := some .newYear2024 }
    let later : Moment := { Moment.newYear2024 with second := 45296 }
    Memory.emitter.OverlooksDates {} ∧ ∃ hsound : Snapshot.issues declarations = [],
      let snapshot : Snapshot := ⟨declarations, hsound⟩
      ∃ outcome r outcome' r',
        run Memory.emitter.recording snapshot settings .newYear2024 ({}, []) = (outcome, r) ∧
        run Memory.emitter.recording snapshot { settings with timestamp := some later } .newYear2024
          ({}, []) = (outcome', r') ∧
        outcome' = outcome.map (fun report => { report with moment := later }) ∧
        r'.units = r.units ∧
        r'.errors = r.errors ∧
        r'.warnings = r.warnings ∧
        r'.diagnostics = r.diagnostics ∧
        List.Forall₂ (Submission.Redated .newYear2024 later) r.record r'.record ∧
        (settings.faults = [] → Memory.emitter.RefusesOnlyRepeats {} →
          ∃ report, outcome = .ok report) := by
  intro string both declarations settings later
  have hsound : Snapshot.issues declarations = [] := by decide
  have hoverlooks : Memory.emitter.OverlooksDates {} := Memory.refusesOnlyRepeats.overlooksDates
  exact ⟨hoverlooks, hsound, run_redated hoverlooks ⟨declarations, hsound⟩ settings (some later)
    .newYear2024 .newYear2024⟩

end Round

end CompanionSource
