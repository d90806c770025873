import CompanionSource.Proofs.Dependence
import CompanionSource.Proofs.Round.Collision
import CompanionSource.Proofs.Round.Record
import CompanionSource.Proofs.Snapshot.Selection

/-! # The order of discovery only orders the output

    The declarations of a snapshot come in the order in which they were discovered.  If they come
    in another order, a round emits the same units with the same members, and reports the same.
    Only the order of all this is another.

    There is one exception.  Declarations with the same name in the same namespace want the same
    wrapper, and the first one gets it.  Where no two of those that ask for wrappers are named
    alike, no decision depends on the declarations before, and the ledger is a map over them:

    - what is **generated** for a declaration depends on the others only by what types mean, and
      that does not depend on their order;
    - what is **reported** and **submitted** is read off the ledger, by a grouping that keeps the
      keys and the members of each group. -/

namespace CompanionSource

open Source (TopLevel)
open SourceUnit (content)
open Grouping (SameGroups)
open Synthesis (Context)

/-- No two of the declarations have the same name in the same namespace. -/
def NamedApart (ds : List Declaration) : Prop :=
  (ds.map fun d => (d.scope, d.simpleName)).Nodup

instance (ds : List Declaration) : Decidable (NamedApart ds) :=
  inferInstanceAs (Decidable (List.Nodup _))

/-- The units have the same keys, and those with the same key hold the same members.  The units and
    the members may be in another order. -/
structure SourceUnit.Rearranged (units' units : List SourceUnit) : Prop where
  keys : (units'.map (·.key)).Perm (units.map (·.key))
  members : ∀ u' ∈ units', ∀ u ∈ units, u'.key = u.key →
    u'.members.Perm u.members ∧ u'.provenance = u.provenance

namespace Companion

/-! ### Ledgers -/

section ledger
variable {ctx : Context}

/-- Declarations that are named apart want different wrappers. -/
theorem nodup_wrapperKey {ds : List Declaration} (h : NamedApart ds) :
    (ds.map Plan.wrapperKey).Nodup := by
  have hinjective : Function.Injective fun x : String × String =>
      (⟨x.1, x.2 ++ "LoggerImpl"⟩ : UnitKey) := by
    intro x y heq
    obtain ⟨hscope, hfile⟩ := UnitKey.mk.inj heq
    exact Prod.ext hscope ((String.append_left_inj _).mp hfile)
  have hkeys := List.Nodup.map hinjective h
  rw [List.map_map] at hkeys
  exact hkeys

/-- Among declarations that want different wrappers nothing is claimed twice. -/
theorem ledgerFrom_wrapper_eq_map {before ds : List Declaration}
    (h : ((before ++ ds).map Plan.wrapperKey).Nodup) :
    ledgerFrom ctx wrapper before ds = ds.map fun d => ⟨d, wrapper.generate ctx d⟩ := by
  induction ds generalizing before with
  | nil => rfl
  | cons d ds ih =>
    have hfree : claimant? ctx before (Plan.wrapperKey d) = none := by
      rw [claimant?, List.find?_eq_none]
      intro e he hclaims
      -- A claimant would want the same wrapper.
      rw [Bool.and_eq_true, beq_iff_eq] at hclaims
      rw [List.map_append, List.nodup_append] at h
      exact h.2.2 _ (List.mem_map_of_mem he) _ List.mem_cons_self hclaims.1
    rw [ledgerFrom, verdict_wrapper_of_free hfree, List.map_cons, ih]
    rw [List.append_assoc]
    exact h

theorem ledger_eq_map (h : NamedApart (Plan.marked ctx .loggable)) (c : Companion) :
    c.ledger ctx = (Plan.marked ctx c.directive).map fun d => ⟨d, c.generate ctx d⟩ := by
  cases c with
  | wrapper =>
    have hkeys : (([] ++ Plan.marked ctx .loggable).map Plan.wrapperKey).Nodup := nodup_wrapperKey h
    exact ledgerFrom_wrapper_eq_map hkeys
  | copy => exact ledgerFrom_eq_map (by decide) _ _
  | niceString => exact ledgerFrom_eq_map (by decide) _ _

end ledger

/-! ### Another order -/

section reordered
variable {ctx : Context} {ds : List Declaration} (h : ds.Perm ctx.snapshot.declarations)
include h

theorem generate_reordered (c : Companion) (d : Declaration) :
    c.generate { ctx with snapshot := ctx.snapshot.reordered h } d = c.generate ctx d :=
  generate_congr c fun _ _ => Snapshot.resolve?_reordered h

theorem marked_reordered (directive : Directive) :
    (Plan.marked { ctx with snapshot := ctx.snapshot.reordered h } directive).Perm
      (Plan.marked ctx directive) :=
  Snapshot.markedWith_reordered h _

/-- The decisions are the same, in another order. -/
theorem ledger_reordered (hapart : NamedApart (Plan.marked ctx .loggable)) (c : Companion) :
    (c.ledger { ctx with snapshot := ctx.snapshot.reordered h }).Perm (c.ledger ctx) := by
  have hapart' : NamedApart
      (Plan.marked { ctx with snapshot := ctx.snapshot.reordered h } .loggable) :=
    ((marked_reordered h .loggable).map _).nodup_iff.mpr hapart
  rw [ledger_eq_map hapart, ledger_eq_map hapart']
  simp only [generate_reordered h]
  exact (marked_reordered h c.directive).map _

theorem reported_reordered (hapart : NamedApart (Plan.marked ctx .loggable)) (c : Companion) :
    (Plan.reported (c.plan { ctx with snapshot := ctx.snapshot.reordered h })).Perm
      (Plan.reported (c.plan ctx)) := by
  rw [(plan_follows _ c).reported, (plan_follows _ c).reported]
  exact (ledger_reordered h hapart c).flatMap_right _

theorem submitted_reordered (hapart : NamedApart (Plan.marked ctx .loggable)) (c : Companion) :
    SameGroups
      ((Plan.submitted (c.plan { ctx with snapshot := ctx.snapshot.reordered h })).map content)
      ((Plan.submitted (c.plan ctx)).map content) := by
  rw [(plan_follows _ c).submitted, (plan_follows _ c).submitted]
  exact Grouping.sameGroups_of_perm ((ledger_reordered h hapart c).flatMap_right _)

end reordered

end Companion

/-! ### Plans -/

namespace Plan

section reordered
variable (ctx : Context) {ds : List Declaration} (h : ds.Perm ctx.snapshot.declarations)
include h

theorem reported_round_reordered (hapart : NamedApart (marked ctx .loggable)) :
    (reported (round { ctx with snapshot := ctx.snapshot.reordered h })).Perm
      (reported (round ctx)) := by
  have hsame := Companion.reported_reordered h hapart
  rw [reported_round, reported_round]
  exact ((hsame .wrapper).append (hsame .copy)).append (hsame .niceString)

theorem keys_round_reordered (hapart : NamedApart (marked ctx .loggable)) :
    ((submitted (round { ctx with snapshot := ctx.snapshot.reordered h })).map (·.key)).Perm
      ((submitted (round ctx)).map (·.key)) := by
  have hsame : ∀ c : Companion,
      ((submitted (c.plan { ctx with snapshot := ctx.snapshot.reordered h })).map (·.key)).Perm
        ((submitted (c.plan ctx)).map (·.key)) := by
    intro c
    have hkeys := (Companion.submitted_reordered h hapart c).keys
    rw [List.map_map, List.map_map] at hkeys
    exact hkeys
  rw [submitted_round, submitted_round]
  simp only [List.map_append]
  exact ((hsame .wrapper).append (hsame .copy)).append (hsame .niceString)

theorem rearranged_round (hapart : NamedApart (marked ctx .loggable)) :
    SourceUnit.Rearranged (submitted (round { ctx with snapshot := ctx.snapshot.reordered h }))
      (submitted (round ctx)) := by
  refine ⟨keys_round_reordered ctx h hapart, fun u' hu' u hu hkey => ?_⟩
  obtain ⟨c', hu'⟩ := mem_submitted_round.mp hu'
  obtain ⟨c, hu⟩ := mem_submitted_round.mp hu
  -- The files of two companions have different names, so it is one companion.
  obtain rfl : c' = c := by
    by_contra hne
    exact Companion.key_ne_of_mem hne hu' hu hkey
  refine ⟨?_, ?_⟩
  · exact (Companion.submitted_reordered h hapart c').members _ (List.mem_map_of_mem hu') _
      (List.mem_map_of_mem hu) hkey
  · rw [(Companion.plan_follows _ c').provenance u hu,
      (Companion.plan_follows _ c').provenance u' hu']

end reordered

end Plan

/-! ### Whole rounds -/

namespace Round

/-- **Order of discovery.**  Over declarations in another order a round emits the same units, up to
    their order and the order of the members in them, and reports the same up to order.  With an
    emitter that takes every unit with a new key, both rounds succeed, and their reports differ in
    nothing but the order of the units. -/
theorem run_reordered {σ : Type} {e : Emitter σ} {state : σ} {settings : Settings}
    (snapshot : Snapshot) (start : Moment) (hsettings : settings.faults = [])
    (he : e.RefusesOnlyRepeats state) {ds : List Declaration}
    (h : ds.Perm snapshot.declarations)
    (hapart : NamedApart (snapshot.markedWith (settings.marker .loggable))) :
    ∃ (units units' : List SourceUnit), ∃ report r report' r',
      run e.recording snapshot settings start (state, []) = (.ok report, r) ∧
      r.record = units.map .taken ∧
      report.units = units.map (·.key) ∧
      run e.recording (snapshot.reordered h) settings start (state, []) = (.ok report', r') ∧
      r'.record = units'.map .taken ∧
      report'.units = units'.map (·.key) ∧
      SourceUnit.Rearranged units' units ∧
      r'.diagnostics.Perm r.diagnostics ∧
      report'.errors = report.errors ∧
      report'.warnings = report.warnings ∧
      report'.moment = report.moment := by
  have hlog : (Plan.reported (Plan.round (.of (snapshot.reordered h) settings start))).Perm
      (Plan.reported (Plan.round (.of snapshot settings start))) :=
    Plan.reported_round_reordered (.of snapshot settings start) h hapart
  obtain ⟨r, hr, hdone, hrecord⟩ :=
    exists_perform_recording he (Plan.nodup_keys_round (.of snapshot settings start))
  obtain ⟨r', hr', hdone', hrecord'⟩ :=
    exists_perform_recording he (Plan.nodup_keys_round (.of (snapshot.reordered h) settings start))
  refine ⟨_, _, _, r, _, r', run_of_perform_ok hsettings hr, hrecord, hdone.taken,
    run_of_perform_ok hsettings hr', hrecord', hdone'.taken,
    Plan.rearranged_round (.of snapshot settings start) h hapart, ?_, ?_, ?_, rfl⟩
  · rw [hdone.diagnostics, hdone'.diagnostics]
    exact hlog
  · show r'.errors = r.errors
    rw [hdone.errors, hdone'.errors]
    exact hlog.countP_eq _
  · show r'.warnings = r.warnings
    rw [hdone.warnings, hdone'.warnings]
    exact hlog.countP_eq _

/-- Two namespaces, a refused declaration and one with a warning, discovered the other way round. -/
theorem run_reordered_reverse :
    let string : Declared.TypeRef := .resolved (.named "String")
    let all : List Declared.Annotation :=
      [{ name := "Loggable" }, { name := "Copy" }, { name := "ToNiceString" }]
    let user : Declaration :=
      { name := "a.User", kind := .class_, annotations := all,
        constructor? := some [{ name := "name", type := string, binding := .val },
          { name := "secret", type := string }] }
    let post : Declaration :=
      { name := "a.Post", kind := .class_, annotations := all,
        constructor? :=
          some [{ name := "author", type := .resolved (.named "User"), binding := .val }] }
    let api : Declaration := { name := "a.Api", kind := .interface, annotations := all }
    let other : Declaration := { name := "b.Api", kind := .interface, annotations := all }
    let declarations : List Declaration := [user, post, api, other]
    let settings : Settings := {}
    ∃ hsound : Snapshot.issues declarations = [],
      let snapshot : Snapshot := ⟨declarations, hsound⟩
      settings.faults = [] ∧ Memory.emitter.RefusesOnlyRepeats {} ∧
      ∃ h : declarations.reverse.Perm snapshot.declarations,
      NamedApart (snapshot.markedWith (settings.marker .loggable)) ∧
      ∃ (units units' : List SourceUnit), ∃ report r report' r',
        run Memory.emitter.recording snapshot settings .newYear2024 ({}, []) = (.ok report, r) ∧
        r.record = units.map .taken ∧
        report.units = units.map (·.key) ∧
        run Memory.emitter.recording (snapshot.reordered h) settings .newYear2024 ({}, []) =
          (.ok report', r') ∧
        r'.record = units'.map .taken ∧
        report'.units = units'.map (·.key) ∧
        SourceUnit.Rearranged units' units ∧
        r'.diagnostics.Perm r.diagnostics ∧
        report'.errors = report.errors ∧
        report'.warnings = report.warnings ∧
        report'.moment = report.moment := by
  intro string all user post api other declarations settings
  have hsound : Snapshot.issues declarations = [] := by decide
  have hsettings : settings.faults = [] := by decide
  have hreverse : declarations.reverse.Perm declarations := List.reverse_perm declarations
  have hapart : NamedApart
      ((⟨declarations, by decide⟩ : Snapshot).markedWith (settings.marker .loggable)) := by
    decide +kernel
  exact ⟨hsound, hsettings, Memory.refusesOnlyRepeats, hreverse, hapart,
    run_reordered ⟨declarations, hsound⟩ .newYear2024 hsettings Memory.refusesOnlyRepeats hreverse
      hapart⟩

end Round

end CompanionSource
