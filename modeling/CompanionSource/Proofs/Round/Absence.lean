import CompanionSource.Proofs.Dependence
import CompanionSource.Proofs.Round.Accounting
import CompanionSource.Proofs.Round.Bookkeeping
import CompanionSource.Proofs.Snapshot.Selection

/-! # A declaration that gets nothing leaves no trace

    A declaration may ask for companions and get none.  It can still have a good deal in common
    with other declarations: the name of the wrapper, the namespace, names that hide other names.
    To see that they do not suffer from it, two rounds are compared, one over all declarations and
    one over the **others** alone.

    - The plan of the second round is the plan of the first one **without the reports** about the
      declaration.  The declaration has claimed no name and has put nothing into a batch.
    - A report changes nothing but the log and the counts.  So the emitter is handed the same
      units, in the same order, whatever it makes of them.

    The declaration must not be what the constructor of another one means by a type, since the
    texts of the two rounds could then differ. -/

namespace CompanionSource

open Source (TopLevel)
open SourceUnit (placements)
open Synthesis (Context Generated)

/-! ### Declarations that get nothing -/

/-- Nothing that the round submits belongs to the declaration. -/
def GetsNothing (ctx : Context) (d : Declaration) : Prop :=
  ∀ x ∈ placements (Plan.submitted (Plan.round ctx)), d.owns x = false

/-- No type in the constructor of another declaration means this one. -/
def IsUnmentioned (s : Snapshot) (d : Declaration) : Prop :=
  ∀ e ∈ s.declarations, e ≠ d → ∀ type, e.Takes type → s.resolve? type e.scope ≠ some d

section nothing
variable {ctx : Context} {d : Declaration}

theorem mem_placements_round {c : Companion} {x : UnitKey × TopLevel}
    (h : x ∈ placements (Plan.submitted (c.plan ctx))) :
    x ∈ placements (Plan.submitted (Plan.round ctx)) := by
  obtain ⟨u, hu, hkey, hitem⟩ := SourceUnit.mem_placements_iff.mp h
  exact SourceUnit.mem_placements_iff.mpr ⟨u, Plan.mem_submitted_round.mpr ⟨c, hu⟩, hkey, hitem⟩

/-- No companion of the declaration is among those that are submitted. -/
theorem GetsNothing.not_mem (h : GetsNothing ctx d) {c : Companion} {g : Generated TopLevel}
    (hg : c.generate ctx d = .ok g) :
    (c.key d, g.item) ∉ placements (Plan.submitted (c.plan ctx)) := by
  intro hmem
  have howns : d.owns (c.key d, g.item) = true := by
    rw [Declaration.owns, (Companion.item_of_generate hg).1, Bool.and_eq_true, beq_iff_eq,
      beq_iff_eq]
    exact ⟨rfl, rfl⟩
  rw [h _ (mem_placements_round hmem)] at howns
  cases howns

/-- A declaration gets nothing exactly if it is refused whatever it asks for. -/
theorem getsNothing_iff (hd : d ∈ ctx.snapshot.declarations) :
    GetsNothing ctx d ↔ ∀ c : Companion, d ∈ Plan.marked ctx c.directive →
      Refused ctx c (Plan.submitted (c.plan ctx)) (Plan.reported (c.plan ctx)) d := by
  constructor
  · intro h c hmarked
    rcases Companion.settled ctx c hmarked with ⟨hserved, -⟩ | ⟨hrefused, -⟩
    · obtain ⟨g, hg, hitem, -⟩ := hserved
      have hplaced : (c.key d, g.item) ∈
          (placements (Plan.submitted (c.plan ctx))).filter d.owns := by
        rw [hitem]
        exact List.mem_singleton_self _
      exact absurd (List.mem_of_mem_filter hplaced) (h.not_mem hg)
    · exact hrefused
  · intro h x hx
    obtain ⟨u, hu, hkey, hitem⟩ := SourceUnit.mem_placements_iff.mp hx
    obtain ⟨c, hu⟩ := Plan.mem_submitted_round.mp hu
    obtain ⟨e, he, g, hg, hkey', hitem'⟩ := Companion.exists_of_mem_members hu hitem
    rw [Bool.eq_false_iff]
    intro howns
    -- What belongs to the declaration is generated for it, so the declaration is marked.
    have hsame : d = e := by
      rw [Declaration.owns, Bool.and_eq_true, beq_iff_eq, beq_iff_eq, hitem',
        (Companion.item_of_generate hg).1, Option.some.injEq, ← hkey, hkey'] at howns
      exact Snapshot.eq_of_typePath hd (Snapshot.mem_markedWith_iff.mp he).1 howns.1.symm
        howns.2.symm
    subst hsame
    obtain ⟨refusal, -, hnone, -⟩ := h c he
    have hplaced : x ∈ placements (Plan.submitted (c.plan ctx)) :=
      SourceUnit.mem_placements_iff.mpr ⟨u, hu, hkey, hitem⟩
    have hfound : x ∈ (placements (Plan.submitted (c.plan ctx))).filter d.owns :=
      List.mem_filter.mpr ⟨hplaced, howns⟩
    rw [hnone] at hfound
    cases hfound

end nothing

/-! ### Plans -/

/-- The action is a report about this name. -/
def Action.isAbout (name : String) : Action → Bool
  | .report symbol _ => symbol == name
  | .warn symbol _ => symbol == name
  | .submit _ => false

namespace Plan

/-- The plan without the reports about a name. -/
def silent (name : String) (plan : List Action) : List Action :=
  plan.filter fun action => !action.isAbout name

theorem silent_cons_of_about {name : String} {action : Action} (h : action.isAbout name = true)
    (plan : List Action) : silent name (action :: plan) = silent name plan :=
  List.filter_cons_of_neg (by simp [h])

theorem silent_cons_of_other {name : String} {action : Action} (h : action.isAbout name = false)
    (plan : List Action) : silent name (action :: plan) = action :: silent name plan :=
  List.filter_cons_of_pos (by simp [h])

theorem silent_append (name : String) (plan rest : List Action) :
    silent name (plan ++ rest) = silent name plan ++ silent name rest := List.filter_append ..

theorem silent_submit (name : String) (units : List SourceUnit) :
    silent name (units.map .submit) = units.map .submit := by
  rw [silent, List.filter_map]
  exact congrArg _ (List.filter_eq_self.mpr fun unit _ => rfl)

/-- Warnings about another name stay. -/
theorem silent_warnings {name symbol : String} (h : symbol ≠ name) (messages : List String) :
    silent name (warnings symbol messages) = warnings symbol messages := by
  have hother : (symbol == name) = false := beq_eq_false_iff_ne.mpr h
  rw [silent, warnings, List.filter_map]
  exact congrArg _ (List.filter_eq_self.mpr fun message _ => by simp [Action.isAbout, hother])

theorem silent_report_self (name : String) (refusal : Refusal) :
    silent name [.report name refusal] = [] := by
  simp [silent, Action.isAbout]

theorem silent_report {name symbol : String} (h : symbol ≠ name) (refusal : Refusal) :
    silent name [.report symbol refusal] = [.report symbol refusal] := by
  simp [silent, Action.isAbout, h]

/-! #### Wrappers -/

section wrappers
variable {ctx : Context} {claimed : List (UnitKey × String)} {d e : Declaration} {name : String}

/-- What is done about the wrapper of one declaration, and who has claimed which key then. -/
def wrapperStep (ctx : Context) (claimed : List (UnitKey × String)) (d : Declaration) :
    List Action × List (UnitKey × String) :=
  match claimed.lookup (wrapperKey d) with
  | some first => ([.report d.name (clash d first)], claimed)
  | none =>
    match Synthesis.wrapper ctx d with
    | .error refusal => ([.report d.name refusal], claimed)
    | .ok g =>
      (warnings d.name g.warnings ++ [.submit (wrapperUnit ctx d g.item)],
        (wrapperKey d, d.name) :: claimed)

theorem wrappersFrom_cons (ctx : Context) (claimed : List (UnitKey × String)) (d : Declaration)
    (ds : List Declaration) :
    wrappersFrom ctx claimed (d :: ds) =
      (wrapperStep ctx claimed d).1 ++ wrappersFrom ctx (wrapperStep ctx claimed d).2 ds := by
  cases hclaimed : claimed.lookup (wrapperKey d) with
  | some first => simp [wrappersFrom, wrapperStep, hclaimed]
  | none =>
    cases hwrapper : Synthesis.wrapper ctx d with
    | error refusal => simp [wrappersFrom, wrapperStep, hclaimed, hwrapper]
    | ok g =>
      rw [wrappersFrom_of_wrapper hclaimed hwrapper]
      simp [wrapperStep, hclaimed, hwrapper]

/-- A declaration without a wrapper is reported on, and claims nothing. -/
theorem wrapperStep_of_not_mem
    (h : ∀ g, Synthesis.wrapper ctx d = .ok g →
      wrapperUnit ctx d g.item ∉ submitted (wrapperStep ctx claimed d).1) :
    silent d.name (wrapperStep ctx claimed d).1 = [] ∧ (wrapperStep ctx claimed d).2 = claimed := by
  unfold wrapperStep at h ⊢
  cases hclaimed : claimed.lookup (wrapperKey d) with
  | some first => exact ⟨silent_report_self d.name _, rfl⟩
  | none =>
    cases hwrapper : Synthesis.wrapper ctx d with
    | error refusal => exact ⟨silent_report_self d.name refusal, rfl⟩
    | ok g =>
      refine absurd ?_ (h g hwrapper)
      simp only [hclaimed, hwrapper, submitted_append]
      exact List.mem_append_right _ (List.mem_singleton_self _)

theorem silent_wrapperStep (h : e.name ≠ name) :
    silent name (wrapperStep ctx claimed e).1 = (wrapperStep ctx claimed e).1 := by
  unfold wrapperStep
  split
  · exact silent_report h _
  · split
    · exact silent_report h _
    · next g _ =>
      show silent name (_ ++ [wrapperUnit ctx e g.item].map .submit) = _
      rw [silent_append, silent_warnings h, silent_submit]
      rfl

/-- The others are treated as if the declaration was not there. -/
theorem wrappersFrom_without {s : Snapshot} {ds : List Declaration}
    (hunit : ∀ g, Synthesis.wrapper ctx d = .ok g →
      wrapperUnit ctx d g.item ∉ submitted (wrappersFrom ctx claimed ds))
    (hname : ∀ e ∈ ds, e.name = d.name → e = d) :
    wrappersFrom { ctx with snapshot := s } claimed (d.others ds) =
      silent d.name (wrappersFrom ctx claimed ds) := by
  induction ds generalizing claimed with
  | nil => rfl
  | cons e ds ih =>
    obtain ⟨hfirst, hlater⟩ := List.forall_mem_cons.mp hname
    simp only [wrappersFrom_cons, submitted_append, List.mem_append, not_or, imp_and,
      forall_and] at hunit
    obtain ⟨hstep, hrest⟩ := hunit
    rw [wrappersFrom_cons, silent_append]
    -- The claims are the same all along, as the declaration itself adds none.
    by_cases hsame : e.name = d.name
    · obtain rfl := hfirst hsame
      obtain ⟨hsilent, hclaimed⟩ := wrapperStep_of_not_mem hstep
      rw [hclaimed] at hrest ⊢
      rw [hsilent, List.nil_append, ← ih hrest hlater, Declaration.others_cons_of_eq rfl]
    · rw [Declaration.others_cons_of_ne hsame, wrappersFrom_cons, silent_wrapperStep hsame,
        ← ih hrest hlater]
      rfl

end wrappers

/-! #### Extension functions -/

section extensions
variable {ctx : Context} {s : Snapshot} {generate : Extension} {d e : Declaration}
  {ds : List Declaration}

theorem silent_extensionReports {name : String} (h : e.name ≠ name) :
    silent name (extensionReports generate ctx e) = extensionReports generate ctx e := by
  unfold extensionReports
  split
  · exact silent_report h _
  · exact silent_warnings h _

/-- The declaration gets no function, and the others get the same without it. -/
structure Spares (ctx : Context) (s : Snapshot) (generate : Extension) (d : Declaration)
    (ds : List Declaration) : Prop where
  /-- The name tells the declaration from the others. -/
  named : ∀ e ∈ ds, e.name = d.name → e = d
  /-- If it asks for a function, it is refused. -/
  refused : d ∈ ds → ∃ refusal, generate ctx d = .error refusal
  /-- Over the other snapshot the others get the same functions. -/
  same : ∀ e ∈ ds, e ≠ d → generate { ctx with snapshot := s } e = generate ctx e

theorem Spares.tail (h : Spares ctx s generate d (e :: ds)) : Spares ctx s generate d ds :=
  { named := fun x hx => h.named x (List.mem_cons_of_mem _ hx)
    refused := fun hd => h.refused (List.mem_cons_of_mem _ hd)
    same := fun x hx => h.same x (List.mem_cons_of_mem _ hx) }

/-- Each of the others is reported on as before. -/
theorem Spares.reports (h : Spares ctx s generate d ds) :
    (d.others ds).flatMap (extensionReports generate { ctx with snapshot := s }) =
      silent d.name (ds.flatMap (extensionReports generate ctx)) := by
  induction ds with
  | nil => rfl
  | cons e ds ih =>
    rw [List.flatMap_cons, silent_append, ← ih h.tail]
    by_cases hsame : e.name = d.name
    · obtain rfl := h.named e List.mem_cons_self hsame
      obtain ⟨refusal, hrefusal⟩ := h.refused List.mem_cons_self
      have hreport : extensionReports generate ctx e = [.report e.name refusal] := by
        rw [extensionReports, hrefusal]
      rw [hreport, silent_report_self, List.nil_append, Declaration.others_cons_of_eq rfl]
    · have hother : e ≠ d := ne_of_apply_ne Declaration.name hsame
      rw [Declaration.others_cons_of_ne hsame, List.flatMap_cons, silent_extensionReports hsame,
        extensionReports, h.same e List.mem_cons_self hother]
      rfl

/-- The batch is the same, since the declaration has put nothing into it. -/
theorem Spares.batch (h : Spares ctx s generate d ds) (b : Batch) :
    (d.others ds).foldl (addExtension generate { ctx with snapshot := s }) b =
      ds.foldl (addExtension generate ctx) b := by
  rw [Declaration.others, List.foldl_filter]
  refine List.foldl_ext _ _ b fun b e he => ?_
  by_cases hsame : e.name = d.name
  · obtain rfl := h.named e he hsame
    obtain ⟨refusal, hrefusal⟩ := h.refused he
    simp [addExtension, hrefusal]
  · have hother : e ≠ d := ne_of_apply_ne Declaration.name hsame
    simp [hsame, addExtension, h.same e he hother]

theorem extensions_without (file : String) {directive : Directive}
    (h : Spares ctx (ctx.snapshot.without d) generate d (marked ctx directive)) :
    extensions generate file directive { ctx with snapshot := ctx.snapshot.without d } =
      silent d.name (extensions generate file directive ctx) := by
  have hmarked : marked { ctx with snapshot := ctx.snapshot.without d } directive =
      d.others (marked ctx directive) :=
    Snapshot.markedWith_without ctx.snapshot d _
  rw [extensions, extensions, hmarked, silent_append, silent_submit, h.reports, h.batch]

end extensions

/-! #### Whole rounds -/

section round
variable {ctx : Context} {d : Declaration}

/-- A declaration that gets nothing is refused by the generators of extension functions. -/
theorem spares_marked {c : Companion} {generate : Extension}
    (hgenerate : ∀ d, c.generate ctx d =
      (generate ctx d).map fun g => ⟨.ofFunction g.item, g.warnings⟩)
    (hc : c ≠ .wrapper) (hd : d ∈ ctx.snapshot.declarations) (h : GetsNothing ctx d)
    (hsame : ∀ e ∈ ctx.snapshot.declarations, e ≠ d →
      generate { ctx with snapshot := ctx.snapshot.without d } e = generate ctx e) :
    Spares ctx (ctx.snapshot.without d) generate d (marked ctx c.directive) := by
  have hmem : ∀ e ∈ marked ctx c.directive, e ∈ ctx.snapshot.declarations := by
    intro e he
    exact (Snapshot.mem_markedWith_iff.mp he).1
  refine ⟨?_, ?_, ?_⟩
  · intro e he hname
    exact Snapshot.eq_of_name (hmem e he) hd hname
  · intro hmarked
    cases hfunction : generate ctx d with
    | error refusal => exact ⟨refusal, rfl⟩
    | ok g =>
      -- A function that can be generated would be in a batch, and so in a unit.
      have hg : c.generate ctx d = .ok ⟨.ofFunction g.item, g.warnings⟩ := by
        rw [hgenerate, hfunction]
        rfl
      exact absurd (Companion.mem_placements_of_generate hc hmarked hg) (h.not_mem hg)
  · intro e he hne
    exact hsame e (hmem e he) hne

/-- The plan of the others is the plan without the reports about the declaration. -/
theorem round_without (h : GetsNothing ctx d) (hd : d ∈ ctx.snapshot.declarations)
    (hmeant : IsUnmentioned ctx.snapshot d) :
    round { ctx with snapshot := ctx.snapshot.without d } = silent d.name (round ctx) := by
  have hwrappers : wrappers { ctx with snapshot := ctx.snapshot.without d } =
      silent d.name (wrappers ctx) := by
    have hmarked : marked { ctx with snapshot := ctx.snapshot.without d } .loggable =
        d.others (marked ctx .loggable) := Snapshot.markedWith_without ctx.snapshot d _
    rw [wrappers, hmarked]
    refine wrappersFrom_without ?_ ?_
    · -- A wrapper that can be generated is in its unit, which would belong to the declaration.
      intro g hg hsubmitted
      have hgenerate : Companion.wrapper.generate ctx d = .ok ⟨.ofClass g.item, g.warnings⟩ := by
        rw [Companion.generate, hg]
        rfl
      refine h.not_mem hgenerate (SourceUnit.mem_placements_iff.mpr ⟨_, hsubmitted, rfl, ?_⟩)
      exact List.mem_singleton_self _
    · intro e he hname
      exact Snapshot.eq_of_name (Snapshot.mem_markedWith_iff.mp he).1 hd hname
  have hcopies : copies { ctx with snapshot := ctx.snapshot.without d } =
      silent d.name (copies ctx) := by
    have hspares := spares_marked (c := .copy) (fun _ => rfl) (by decide) hd h fun _ _ _ => rfl
    exact extensions_without Synthesis.copyFile hspares
  have hniceStrings : niceStrings { ctx with snapshot := ctx.snapshot.without d } =
      silent d.name (niceStrings ctx) := by
    -- Only here do the others matter: the types in a constructor must mean what they meant.
    have hsame : ∀ e ∈ ctx.snapshot.declarations, e ≠ d →
        Synthesis.niceString { ctx with snapshot := ctx.snapshot.without d } e =
          Synthesis.niceString ctx e := by
      intro e he hne
      refine Synthesis.niceString_congr fun type htakes => ?_
      exact Snapshot.resolve?_without hd (hmeant e he hne type htakes)
    have hspares := spares_marked (c := .niceString) (fun _ => rfl) (by decide) hd h hsame
    exact extensions_without Synthesis.niceStringFile hspares
  rw [round, round, silent_append, silent_append, hwrappers, hcopies, hniceStrings]

end round

end Plan

/-! ### Rounds -/

namespace Round

variable {σ : Type}

/-- The second round has got as far as the first one, and lacks only the reports about a name. -/
structure Omits (name : String) (r r' : Round σ) : Prop where
  handed : r'.handed = r.handed
  units : r'.units = r.units
  emitter : r'.emitter = r.emitter
  diagnostics : r'.diagnostics = r.diagnostics.filter fun entry => entry.symbol != name

section omits
variable {e : Emitter σ} {name : String} {entry : Diagnostic} {r r' next next' : Round σ}

/-- A diagnostic about the name is reported by the first round only. -/
theorem Omits.skip (h : Omits name r r') (hnext : Adds entry r next)
    (hsymbol : entry.symbol = name) : Omits name next r' := by
  refine ⟨h.handed.trans hnext.handed.symm, h.units.trans hnext.units.symm,
    h.emitter.trans hnext.emitter.symm, ?_⟩
  rw [hnext.diagnostics, List.filter_append, h.diagnostics]
  simp [hsymbol]

/-- Any other diagnostic is reported by both. -/
theorem Omits.both (h : Omits name r r') (hnext : Adds entry r next) (hnext' : Adds entry r' next')
    (hsymbol : entry.symbol ≠ name) : Omits name next next' := by
  refine ⟨?_, ?_, ?_, ?_⟩
  · rw [hnext.handed, hnext'.handed, h.handed]
  · rw [hnext.units, hnext'.units, h.units]
  · rw [hnext.emitter, hnext'.emitter, h.emitter]
  · rw [hnext.diagnostics, hnext'.diagnostics, List.filter_append, h.diagnostics]
    simp [hsymbol]

/-- A unit gets the same verdict in both rounds. -/
theorem Omits.submit (h : Omits name r r') (unit : SourceUnit) :
    ∃ verdict next next', r.submit e unit = (verdict, next) ∧
      r'.submit e unit = (verdict, next') ∧ Omits name next next' := by
  by_cases hold : unit.key ∈ r.handed
  · exact ⟨_, r, r', submit_of_handed hold, submit_of_handed (h.handed ▸ hold), h⟩
  · have hnew' : unit.key ∉ r'.handed := h.handed ▸ hold
    rcases hverdict : e.submit unit r.emitter with ⟨error | _, state⟩
    · refine ⟨_, _, _, submit_of_refused hold hverdict,
        submit_of_refused hnew' (h.emitter ▸ hverdict), ?_⟩
      exact ⟨congrArg (_ :: ·) h.handed, h.units, rfl, h.diagnostics⟩
    · refine ⟨_, _, _, submit_of_taken hold hverdict,
        submit_of_taken hnew' (h.emitter ▸ hverdict), ?_⟩
      exact ⟨congrArg (_ :: ·) h.handed, congrArg (· ++ _) h.units, rfl, h.diagnostics⟩

/-- The second round carries out the plan without the reports, and ends as the first one does. -/
theorem Omits.perform (h : Omits name r r') (plan : List Action) :
    ∃ verdict next next', Round.perform e plan r = (verdict, next) ∧
      Round.perform e (Plan.silent name plan) r' = (verdict, next') ∧ Omits name next next' := by
  induction plan generalizing r r' with
  | nil => exact ⟨_, r, r', rfl, rfl, h⟩
  | cons action plan ih =>
    cases action with
    | report symbol refusal =>
      cases habout : (Action.report symbol refusal).isAbout name with
      | true =>
        rw [Plan.silent_cons_of_about habout]
        exact ih (h.skip (adds_report r symbol refusal) (beq_iff_eq.mp habout))
      | false =>
        rw [Plan.silent_cons_of_other habout]
        exact ih (h.both (adds_report r symbol refusal) (adds_report r' symbol refusal)
          (beq_eq_false_iff_ne.mp habout))
    | warn symbol message =>
      cases habout : (Action.warn symbol message).isAbout name with
      | true =>
        rw [Plan.silent_cons_of_about habout]
        exact ih (h.skip (adds_warn r symbol message) (beq_iff_eq.mp habout))
      | false =>
        rw [Plan.silent_cons_of_other habout]
        exact ih (h.both (adds_warn r symbol message) (adds_warn r' symbol message)
          (beq_eq_false_iff_ne.mp habout))
    | submit unit =>
      obtain ⟨verdict, next, next', hr, hr', hnext⟩ := h.submit (e := e) unit
      rw [Plan.silent_cons_of_other rfl, Round.perform, Round.perform, hr, hr']
      cases verdict with
      | error error => exact ⟨_, next, next', rfl, rfl, hnext⟩
      | ok _ => exact ih hnext

end omits

/-- **Absence.**  Without a declaration that gets nothing a round hands the emitter the same units
    in the same order, and the emitter gives the same verdicts.  The round ends in the same way,
    and reports the same but for what was about the declaration. -/
theorem run_without (e : Emitter σ) (state : σ) {snapshot : Snapshot} (settings : Settings)
    (start : Moment) {d : Declaration} (hd : d ∈ snapshot.declarations)
    (hnothing : GetsNothing (.of snapshot settings start) d)
    (hmeant : IsUnmentioned snapshot d) :
    ∃ outcome r r',
      run e.recording snapshot settings start (state, []) = (outcome, r) ∧
      run e.recording (snapshot.without d) settings start (state, []) =
        (outcome.map fun report =>
          { report with
            errors := Diagnostic.count .error r'.diagnostics
            warnings := Diagnostic.count .warning r'.diagnostics }, r') ∧
      r'.record = r.record ∧
      r'.units = r.units ∧
      r'.diagnostics = r.diagnostics.filter fun entry => entry.symbol != d.name := by
  have hstart : Omits d.name ({ emitter := (state, []) } : Round (σ × List Submission))
    { emitter := (state, []) } := ⟨rfl, rfl, rfl, rfl⟩
  cases hsettings : settings.checked with
  | error fault =>
    -- Settings that cannot be used end both rounds before anything is done.
    refine ⟨.error (.settings fault), { emitter := (state, []) }, { emitter := (state, []) }, ?_,
      ?_, rfl, rfl, rfl⟩
    · rw [run, hsettings]
    · rw [run, hsettings]
      rfl
  | ok _ =>
    have hplan : Plan.round (.of (snapshot.without d) settings start) =
        Plan.silent d.name (Plan.round (.of snapshot settings start)) :=
      Plan.round_without hnothing hd hmeant
    obtain ⟨verdict, r, r', hr, hr', homits⟩ :=
      hstart.perform (e := e.recording) (Plan.round (.of snapshot settings start))
    rw [← hplan] at hr'
    have hkept : Kept r' := by
      have h := (kept_start state).perform (e := e)
        (Plan.round (.of (snapshot.without d) settings start))
      rw [hr'] at h
      exact h
    rw [run, run, hsettings]
    simp only [hr, hr']
    -- A unit that is refused ends both rounds with the same error, and otherwise both come to a
    -- report, in which the counts are those of the shorter log.
    cases verdict with
    | error error =>
      exact ⟨_, r, r', rfl, rfl, congrArg Prod.snd homits.emitter, homits.units, homits.diagnostics⟩
    | ok _ =>
      refine ⟨_, r, r', rfl, ?_, congrArg Prod.snd homits.emitter, homits.units, homits.diagnostics⟩
      rw [← hkept.errors, ← hkept.warnings]
      simp only [Except.map, outcome, homits.units]
      rfl

/-- A nested class that asks for everything and gets nothing.  It stands first, and its wrapper
    would have the name of the wrapper of an interface.  That interface, and not the class, is what
    a constructor means. -/
theorem run_without_nested :
    let all : List Declared.Annotation :=
      [{ name := "Loggable" }, { name := "Copy" }, { name := "ToNiceString" }]
    let nested : Declaration :=
      { name := "a.Outer.Api", scope? := some "a", kind := .class_, annotations := all }
    let api : Declaration := { name := "a.Api", kind := .interface, annotations := all }
    let post : Declaration :=
      { name := "a.Post"
        kind := .class_
        constructor? := some [{ name := "api", type := .resolved (.named "Api"), binding := .val }]
        annotations := all }
    let declarations : List Declaration := [nested, api, post]
    let settings : Settings := {}
    ∃ hsound : Snapshot.issues declarations = [],
      let snapshot : Snapshot := ⟨declarations, hsound⟩
      nested ∈ snapshot.declarations ∧
      GetsNothing (.of snapshot settings .newYear2024) nested ∧
      IsUnmentioned snapshot nested ∧
      ∃ outcome r r',
        run Emitter.accepting.recording snapshot settings .newYear2024 ((), []) = (outcome, r) ∧
        run Emitter.accepting.recording (snapshot.without nested) settings .newYear2024 ((), []) =
          (outcome.map fun report =>
            { report with
              errors := Diagnostic.count .error r'.diagnostics
              warnings := Diagnostic.count .warning r'.diagnostics }, r') ∧
        r'.record = r.record ∧
        r'.units = r.units ∧
        r'.diagnostics = r.diagnostics.filter fun entry => entry.symbol != nested.name := by
  intro all nested api post declarations settings
  have hsound : Snapshot.issues declarations = [] := by decide
  have hmem : nested ∈ declarations := List.mem_cons_self
  have hnothing : GetsNothing (.of ⟨declarations, by decide⟩ settings .newYear2024) nested := by
    unfold GetsNothing
    decide +kernel
  have hfound : (Snapshot.resolve? ⟨declarations, by decide⟩ (.named "Api") post.scope).map
      (·.name) = some "a.Api" := by decide +kernel
  have hmeant : IsUnmentioned ⟨declarations, hsound⟩ nested := by
    intro e he hne type htakes hresolve
    obtain ⟨ps, hps, p, hp, htype⟩ := htakes
    -- Only the post has a constructor, and it has one parameter.
    rcases List.mem_cons.mp he with rfl | he
    · exact hne rfl
    rcases List.mem_cons.mp he with rfl | he
    · cases hps
    obtain rfl := List.mem_singleton.mp he
    cases hps
    obtain rfl := List.mem_singleton.mp hp
    cases htype
    rw [hresolve] at hfound
    revert hfound
    decide
  exact ⟨hsound, hmem, hnothing, hmeant,
    run_without Emitter.accepting () settings .newYear2024 hmem hnothing hmeant⟩

end Round

end CompanionSource
