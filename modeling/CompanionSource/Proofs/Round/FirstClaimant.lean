import CompanionSource.Proofs.Round.Accounting

/-! # The first claimant gets the name

    Several declarations of a namespace can ask for a wrapper with one name, since nested types
    share a last segment with others.  These are the **contenders** for the name.

    - The first contender that is **accepted** gets the name: its wrapper is in the only unit with
      this key.
    - A contender **before** it is refused on its own account, as if there were no others.
    - A contender **behind** it is refused because of it, whether it would be accepted or not.

    The table of claims that a round keeps is replaced by the question who claims a name among the
    declarations before.  What is left is to find the place of a contender among all marked
    declarations. -/

namespace CompanionSource

open Source (TopLevel)
open SourceUnit (content)
open Synthesis (Context Generated)

/-- What stands in front of an element in a part of a list is what is left of the front of it in
    the whole list. -/
theorem exists_append_of_filter_eq {α : Type} {p : α → Bool} {xs front back : List α} {x : α}
    (h : xs.filter p = front ++ x :: back) :
    ∃ before after, xs = before ++ x :: after ∧ before.filter p = front := by
  obtain ⟨first, second, rfl, hfirst, hsecond⟩ := List.filter_eq_append_iff.mp h
  obtain ⟨between, after, rfl, hbetween, -, -⟩ := List.filter_eq_cons_iff.mp hsecond
  refine ⟨first ++ between, after, by rw [List.append_assoc], ?_⟩
  rw [List.filter_append, hfirst, List.filter_eq_nil_iff.mpr hbetween, List.append_nil]

namespace Companion

/-! ### Contenders -/

/-- The marked declarations that ask for a wrapper with this key, in the order of discovery. -/
def contenders (ctx : Context) (key : UnitKey) : List Declaration :=
  (Plan.marked ctx .loggable).filter fun d => Plan.wrapperKey d == key

/-- The declaration gets no wrapper on its own account. -/
def IsIneligible (ctx : Context) (d : Declaration) : Prop :=
  ∃ refusal, Synthesis.wrapper ctx d = .error refusal

section contenders
variable {ctx : Context} {key : UnitKey} {before after : List Declaration} {d first : Declaration}
  {w : Generated Source.Class}

theorem wrapperKey_of_mem (h : d ∈ contenders ctx key) : Plan.wrapperKey d = key := by
  simpa using (List.mem_filter.mp h).2

theorem isOk_wrapper_eq_false_iff :
    (Synthesis.wrapper ctx d).isOk = false ↔ IsIneligible ctx d := by
  unfold IsIneligible
  cases Synthesis.wrapper ctx d with
  | error refusal => simp [Except.isOk, Except.toBool]
  | ok w => simp [Except.isOk, Except.toBool]

/-- Only contenders claim a name. -/
theorem claimant?_eq_find? (ds : List Declaration) (key : UnitKey) :
    claimant? ctx ds key =
      (ds.filter fun d => Plan.wrapperKey d == key).find? fun d =>
        (Synthesis.wrapper ctx d).isOk := by
  rw [List.find?_filter, claimant?]
  simp only [Bool.decide_and, Bool.decide_eq_true]

/-- Nobody has claimed the name before the first contender that is accepted. -/
theorem find?_eq_none_of_ineligible (h : ∀ e ∈ before, IsIneligible ctx e) :
    (before.find? fun d => (Synthesis.wrapper ctx d).isOk) = none := by
  rw [List.find?_eq_none]
  intro e he
  rw [Bool.not_eq_true, isOk_wrapper_eq_false_iff]
  exact h e he

/-- Whoever comes behind the first contender that is accepted finds the name claimed by it. -/
theorem find?_eq_first (h : ∀ e ∈ before, IsIneligible ctx e)
    (hfirst : Synthesis.wrapper ctx first = .ok w) (between : List Declaration) :
    ((before ++ first :: between).find? fun d => (Synthesis.wrapper ctx d).isOk) =
      some first := by
  rw [List.find?_append, find?_eq_none_of_ineligible h, Option.none_or, List.find?_cons, hfirst]
  rfl

/-- The decision about a contender depends on the contenders before it alone. -/
theorem exists_mem_ledger (h : contenders ctx key = before ++ d :: after) :
    ∃ front, claimant? ctx front (Plan.wrapperKey d) =
        (before.find? fun d => (Synthesis.wrapper ctx d).isOk) ∧
      ⟨d, verdict ctx front wrapper d⟩ ∈ wrapper.ledger ctx := by
  have hkey : Plan.wrapperKey d = key :=
    wrapperKey_of_mem (h ▸ List.mem_append_right _ List.mem_cons_self)
  obtain ⟨front, back, hmarked, hbefore⟩ := exists_append_of_filter_eq h
  refine ⟨front, ?_, mem_ledger_iff.mpr ⟨front, back, hmarked, rfl⟩⟩
  rw [hkey, claimant?_eq_find?, hbefore]

/-- A contender is decided on by itself while the name is free. -/
theorem mem_ledger_of_free (h : contenders ctx key = before ++ d :: after)
    (hbefore : ∀ e ∈ before, IsIneligible ctx e) :
    ⟨d, wrapper.generate ctx d⟩ ∈ wrapper.ledger ctx := by
  obtain ⟨front, hclaimant, hmem⟩ := exists_mem_ledger h
  rw [find?_eq_none_of_ineligible hbefore] at hclaimant
  rwa [verdict_wrapper_of_free hclaimant] at hmem

/-- A contender is refused because of the one that has the name. -/
theorem mem_ledger_of_claimed {between : List Declaration}
    (h : contenders ctx key = (before ++ first :: between) ++ d :: after)
    (hbefore : ∀ e ∈ before, IsIneligible ctx e) (hfirst : Synthesis.wrapper ctx first = .ok w) :
    ⟨d, .error (Plan.clash d first.name)⟩ ∈ wrapper.ledger ctx := by
  obtain ⟨front, hclaimant, hmem⟩ := exists_mem_ledger h
  rw [find?_eq_first hbefore hfirst] at hclaimant
  rwa [verdict_wrapper_of_claimed hclaimant] at hmem

end contenders

/-! ### Units -/

section units
variable {ctx : Context}

/-- A wrapper is alone in its unit. -/
theorem members_of_wrapper {u : SourceUnit} (hu : u ∈ Plan.submitted (wrapper.plan ctx))
    {item : TopLevel} (hitem : item ∈ u.members) : u.members = [item] := by
  have hcontent := List.mem_map_of_mem (f := content) hu
  rw [(plan_follows ctx wrapper).submitted, ledger,
    Grouping.grouped_of_nodup (distinct_placed_wrappers ctx [] _).1] at hcontent
  obtain ⟨x, -, hx⟩ := List.mem_map.mp hcontent
  have hmembers : [x.2] = u.members := congrArg Prod.snd hx
  rw [← hmembers] at hitem ⊢
  rw [List.mem_singleton.mp hitem]

/-- A file with the name of a wrapper holds a wrapper. -/
theorem eq_wrapper_of_file {c : Companion} {d : Declaration} {name : String}
    (h : c.file d = name ++ "LoggerImpl") : c = wrapper := by
  have hlast : (c.file d).toList.getLast? = some 'l' := by
    rw [h]
    simp [String.toList_append]
  have hcopy : Synthesis.copyFile.toList.getLast? ≠ some 'l' := by decide
  have hniceString : Synthesis.niceStringFile.toList.getLast? ≠ some 'l' := by decide
  cases c with
  | wrapper => rfl
  | copy => exact absurd hlast hcopy
  | niceString => exact absurd hlast hniceString

/-- A unit with the key of a wrapper holds that of an accepted contender. -/
theorem exists_contender_of_key {u : SourceUnit} {scope name : String}
    (hu : u ∈ Plan.submitted (Plan.round ctx)) (hkey : u.key = ⟨scope, name ++ "LoggerImpl"⟩) :
    ∃ d ∈ contenders ctx u.key, ¬IsIneligible ctx d := by
  obtain ⟨c, hc⟩ := Plan.mem_submitted_round.mp hu
  obtain ⟨item, hitem⟩ := List.exists_mem_of_ne_nil u.members u.nonempty
  obtain ⟨d, hd, g, hg, hown, -⟩ := exists_of_mem_members hc hitem
  obtain rfl := eq_wrapper_of_file (congrArg UnitKey.file (hown.symm.trans hkey))
  refine ⟨d, List.mem_filter.mpr ⟨hd, ?_⟩, ?_⟩
  · rw [beq_iff_eq, hown]
    rfl
  · rw [← isOk_wrapper_eq_false_iff, isOk_wrapper_of_generate hg]
    decide

/-- A unit is the only one with its key. -/
theorem filter_key_eq_singleton {u : SourceUnit} (hu : u ∈ Plan.submitted (Plan.round ctx)) :
    (Plan.submitted (Plan.round ctx)).filter (·.key == u.key) = [u] := by
  have hnodup := Plan.nodup_keys_round ctx
  rw [← List.flatMap_singleton' (Plan.submitted (Plan.round ctx))]
  refine Grouping.filter_flatMap_eq_of_unique hnodup.of_map hu fun v hv w hw => ?_
  rw [List.mem_singleton.mp hw, beq_iff_eq]
  constructor
  · intro hkey
    exact List.inj_on_of_nodup_map hnodup hv hu hkey
  · intro heq
    rw [heq]

end units

/-! ### How a name is given out -/

section outcome
variable (ctx : Context) (units : List SourceUnit) (log : List Diagnostic)

/-- The declaration is refused on its own account, and the log says why and nothing else. -/
def RefusedItself (d : Declaration) : Prop :=
  ∃ refusal, Synthesis.wrapper ctx d = .error refusal ∧
    Diagnostic.about d log = [.ofRefusal d.name refusal]

/-- How the name of a wrapper is given out, seen from the units and the log. -/
inductive GivenOut (key : UnitKey) : Prop
  /-- The first contender that is accepted gets it, and those behind are refused because of it. -/
  | toFirst {before after : List Declaration} {first : Declaration} {w : Generated Source.Class}
      (hcontenders : contenders ctx key = before ++ first :: after)
      (hbefore : ∀ d ∈ before, RefusedItself ctx log d)
      (haccepted : Synthesis.wrapper ctx first = .ok w)
      (hemitted : ∃ u, units.filter (·.key == key) = [u] ∧ u.members = [.ofClass w.item])
      (hwarned : Diagnostic.about first log = w.warnings.map (⟨.warning, first.name, ·⟩))
      (hafter : ∀ d ∈ after, Diagnostic.about d log =
        [.ofRefusal d.name (.nameClash d.name (key.scope ++ "." ++ key.file) first.name)])
  /-- No contender is accepted, and nothing has the name. -/
  | toNobody (hrefused : ∀ d ∈ contenders ctx key, RefusedItself ctx log d)
      (hemitted : units.filter (·.key == key) = [])

end outcome

section outcome
variable {ctx : Context} {key : UnitKey} {before after : List Declaration} {d first : Declaration}

/-- What is decided about a declaration is in the log, and nothing else about it is. -/
theorem about_of_mem_ledger {verdict : Except Refusal (Generated TopLevel)}
    (h : ⟨d, verdict⟩ ∈ wrapper.ledger ctx) :
    Diagnostic.about d (Plan.reported (wrapper.plan ctx)) = Decision.log ⟨d, verdict⟩ :=
  about_reported h

theorem refusedItself_of_free (h : contenders ctx key = before ++ d :: after)
    (hbefore : ∀ e ∈ before, IsIneligible ctx e) (hd : IsIneligible ctx d) :
    RefusedItself ctx (Plan.reported (wrapper.plan ctx)) d := by
  obtain ⟨refusal, hrefusal⟩ := hd
  refine ⟨refusal, hrefusal, ?_⟩
  rw [about_of_mem_ledger (mem_ledger_of_free h hbefore), generate, hrefusal]
  rfl

theorem refusedItself_of_ineligible (h : contenders ctx key = before ++ after)
    (hbefore : ∀ e ∈ before, IsIneligible ctx e) (hd : d ∈ before) :
    RefusedItself ctx (Plan.reported (wrapper.plan ctx)) d := by
  obtain ⟨front, back, rfl⟩ := List.append_of_mem hd
  rw [List.append_assoc, List.cons_append] at h
  exact refusedItself_of_free h (fun e he => hbefore e (List.mem_append_left _ he))
    (hbefore d hd)

/-- The wrapper of the first contender that is accepted is in the only unit with the key. -/
theorem exists_unit_of_first {w : Generated Source.Class}
    (h : contenders ctx key = before ++ first :: after)
    (hbefore : ∀ e ∈ before, IsIneligible ctx e) (hfirst : Synthesis.wrapper ctx first = .ok w) :
    ∃ u, (Plan.submitted (Plan.round ctx)).filter (·.key == key) = [u] ∧
      u.members = [.ofClass w.item] := by
  have hkey : Plan.wrapperKey first = key :=
    wrapperKey_of_mem (h ▸ List.mem_append_right _ List.mem_cons_self)
  have hgenerate : wrapper.generate ctx first = .ok ⟨.ofClass w.item, w.warnings⟩ :=
    Traversal.map_eq_ok_iff.mpr ⟨w, hfirst, rfl⟩
  have hplaced : (key, TopLevel.ofClass w.item) ∈
      SourceUnit.placements (Plan.submitted (wrapper.plan ctx)) := by
    refine mem_placements_plan_iff.mpr ⟨_, mem_ledger_of_free h hbefore, ?_⟩
    exact Decision.mem_placed_iff.mpr ⟨_, hgenerate, by rw [← hkey]; rfl⟩
  obtain ⟨u, hu, rfl, hitem⟩ := SourceUnit.mem_placements_iff.mp hplaced
  exact ⟨u, filter_key_eq_singleton (Plan.mem_submitted_round.mpr ⟨_, hu⟩),
    members_of_wrapper hu hitem⟩

/-- Where no contender is accepted, nobody gets the name. -/
theorem givenOut_of_none {scope name : String} (hkey : key = ⟨scope, name ++ "LoggerImpl"⟩)
    (h : ∀ d ∈ contenders ctx key, IsIneligible ctx d) :
    GivenOut ctx (Plan.submitted (Plan.round ctx)) (Plan.reported (wrapper.plan ctx)) key := by
  refine .toNobody ?_ ?_
  · intro d hd
    exact refusedItself_of_ineligible (List.append_nil _).symm h hd
  · rw [List.filter_eq_nil_iff]
    intro u hu hown
    rw [beq_iff_eq] at hown
    obtain ⟨d, hd, heligible⟩ := exists_contender_of_key hu (hown.trans hkey)
    rw [hown] at hd
    exact heligible (h d hd)

/-- Where one is, the first of them gets it. -/
theorem givenOut_of_first {w : Generated Source.Class}
    (h : contenders ctx key = before ++ first :: after)
    (hbefore : ∀ e ∈ before, IsIneligible ctx e) (hfirst : Synthesis.wrapper ctx first = .ok w) :
    GivenOut ctx (Plan.submitted (Plan.round ctx)) (Plan.reported (wrapper.plan ctx)) key := by
  refine .toFirst h ?_ hfirst (exists_unit_of_first h hbefore hfirst) ?_ ?_
  · intro d hd
    exact refusedItself_of_ineligible h hbefore hd
  · rw [about_of_mem_ledger (mem_ledger_of_free h hbefore), generate, hfirst]
    rfl
  · intro d hd
    obtain ⟨between, behind, rfl⟩ := List.append_of_mem hd
    have hkey : Plan.wrapperKey d = key :=
      wrapperKey_of_mem (h ▸ List.mem_append_right _ (List.mem_cons_of_mem _ hd))
    have hsplit : contenders ctx key = (before ++ first :: between) ++ d :: behind := by
      rw [h, List.append_assoc, List.cons_append]
    rw [about_of_mem_ledger (mem_ledger_of_claimed hsplit hbefore hfirst), ← hkey]
    rfl

/-- Each name of a wrapper is given out in this way. -/
theorem givenOut (ctx : Context) (scope name : String) :
    GivenOut ctx (Plan.submitted (Plan.round ctx)) (Plan.reported (wrapper.plan ctx))
      ⟨scope, name ++ "LoggerImpl"⟩ := by
  generalize hkey : (⟨scope, name ++ "LoggerImpl"⟩ : UnitKey) = key
  cases hfound : (contenders ctx key).find? fun d => (Synthesis.wrapper ctx d).isOk with
  | none =>
    refine givenOut_of_none hkey.symm fun d hd => ?_
    have hd := List.find?_eq_none.mp hfound d hd
    rwa [Bool.not_eq_true, isOk_wrapper_eq_false_iff] at hd
  | some first =>
    obtain ⟨haccepted, before, after, hcontenders, hrejected⟩ :=
      List.find?_eq_some_iff_append.mp hfound
    obtain ⟨w, hw⟩ : ∃ w, Synthesis.wrapper ctx first = .ok w := by
      cases hwrapper : Synthesis.wrapper ctx first with
      | error refusal => simp [hwrapper, Except.isOk, Except.toBool] at haccepted
      | ok w => exact ⟨w, rfl⟩
    refine givenOut_of_first hcontenders (fun e he => ?_) hw
    have he := hrejected e he
    rwa [Bool.not_eq_true', isOk_wrapper_eq_false_iff] at he

end outcome

end Companion

/-! ### Whole rounds -/

/-- **The first claimant.**  With an emitter that takes every unit with a new key, a round succeeds,
    and each name of a wrapper goes to the first of its contenders that is accepted.  The log
    about wrappers comes before what is reported about the other companions, and holds what is
    said about each marked declaration and nothing else. -/
theorem Round.run_first_claimant_wins {σ : Type} {e : Emitter σ} {state : σ} {settings : Settings}
    (snapshot : Snapshot) (start : Moment) (hsettings : settings.faults = [])
    (he : e.RefusesOnlyRepeats state) :
    let ctx : Context := .of snapshot settings start
    ∃ report r units log,
      run e snapshot settings start state = (.ok report, r) ∧
      r.emitter = e.after units state ∧
      report.units = units.map (·.key) ∧
      r.diagnostics =
        log ++ Plan.reported (Plan.copies ctx) ++ Plan.reported (Plan.niceStrings ctx) ∧
      log = (Plan.marked ctx .loggable).flatMap (Diagnostic.about · log) ∧
      ∀ scope name, Companion.GivenOut ctx units log ⟨scope, name ++ "LoggerImpl"⟩ := by
  intro ctx
  obtain ⟨r, hrun, hdone⟩ := exists_run_eq_ok hsettings he (Plan.nodup_keys_round ctx)
  refine ⟨_, r, _, Plan.reported (Companion.wrapper.plan ctx), hrun, hdone.emitter, hdone.taken,
    ?_, (Companion.accounted ctx .wrapper).reported, Companion.givenOut ctx⟩
  rw [hdone.diagnostics, Plan.reported_round]
  rfl

/-- Four contenders for one name: a private one, one that is accepted, one that would be accepted
    as well, and one that is not eligible. -/
theorem Round.run_first_claimant_wins_contested :
    let loggable : Declared.Annotation := { name := "Loggable" }
    let declarations : List Declaration :=
      [{ name := "a.Api", kind := .interface, visibility := .private_, annotations := [loggable] },
        { name := "a.Inner.Api", scope? := some "a", kind := .interface,
          annotations := [loggable] },
        { name := "a.Outer.Api", scope? := some "a", kind := .interface,
          annotations := [loggable] },
        { name := "a.Other.Api", scope? := some "a", kind := .object, annotations := [loggable] }]
    let settings : Settings := {}
    let e : Emitter (List SourceUnit) := { submit := fun unit units => (.ok (), units ++ [unit]) }
    settings.faults = [] ∧ e.RefusesOnlyRepeats [] ∧
      ∃ hsound,
        let ctx : Context := .of ⟨declarations, hsound⟩ settings .newYear2024
        (Companion.contenders ctx ⟨"a", "Api" ++ "LoggerImpl"⟩).map (·.name) =
            declarations.map (·.name) ∧
          ∃ report r units log,
            run e ⟨declarations, hsound⟩ settings .newYear2024 [] = (.ok report, r) ∧
            r.emitter = e.after units [] ∧
            report.units = units.map (·.key) ∧
            r.diagnostics =
              log ++ Plan.reported (Plan.copies ctx) ++ Plan.reported (Plan.niceStrings ctx) ∧
            log = (Plan.marked ctx .loggable).flatMap (Diagnostic.about · log) ∧
            ∀ scope name, Companion.GivenOut ctx units log ⟨scope, name ++ "LoggerImpl"⟩ := by
  intro loggable declarations settings e
  have hsettings : settings.faults = [] := by decide
  have hsound : Snapshot.issues declarations = [] := by decide
  have he : e.RefusesOnlyRepeats [] := Emitter.refusesOnlyRepeats_of_accepts (fun _ _ => rfl) []
  have hcontenders : ∀ hsound : Snapshot.issues declarations = [],
      (Companion.contenders (.of ⟨declarations, hsound⟩ settings .newYear2024)
          ⟨"a", "Api" ++ "LoggerImpl"⟩).map (·.name) = declarations.map (·.name) := by
    decide
  exact ⟨hsettings, he, hsound, hcontenders hsound,
    run_first_claimant_wins ⟨declarations, hsound⟩ .newYear2024 hsettings he⟩

end CompanionSource
