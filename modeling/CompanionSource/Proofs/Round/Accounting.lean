import CompanionSource.Proofs.Round.Collision
import CompanionSource.Proofs.Wrapper.Completeness

/-! # Rounds keep account

    Each marked declaration is settled in one of two ways, for each companion that it asks for:

    - it is **served**: its item is in one place, the unit of its namespace, and the warnings about
      it are reported once each;
    - it is **refused**: it has no item, and one diagnostic says why.

    Nothing else is emitted or reported.  The units of the wrappers come first, each for one
    declaration; then those of the copies and of the nice strings, in which the items are grouped
    by namespace, in the order in which the namespaces first come up.

    The account is drawn up from the finished units and the finished log alone.  The ledger is what
    connects it with the declarations: what one decision places and reports is found again by the
    declaration it is about, and what the others do is not confused with it. -/

namespace CompanionSource

open Source (TopLevel)
open SourceUnit (content placements)
open Synthesis (Context Generated OneEach)

/-! ### Settling -/

/-- The item belongs to the declaration: it lies in its namespace and is about its type. -/
def Declaration.owns (d : Declaration) (x : UnitKey × TopLevel) : Bool :=
  x.1.scope == d.scope && x.2.subject? == some d.typePath

section settling
variable (ctx : Context) (c : Companion) (units : List SourceUnit) (log : List Diagnostic)

/-- The diagnostics about a declaration. -/
def Diagnostic.about (d : Declaration) (log : List Diagnostic) : List Diagnostic :=
  log.filter fun x => x.symbol == d.name

/-- The item of the declaration is in one place, and the log has the warnings about it. -/
def Served (d : Declaration) : Prop :=
  ∃ g, c.generate ctx d = .ok g ∧
    (placements units).filter d.owns = [(c.key d, g.item)] ∧
    Diagnostic.about d log = g.warnings.map (⟨.warning, d.name, ·⟩)

/-- Why a declaration can be refused. -/
inductive IsReason (d : Declaration) : Refusal → Prop
  /-- The declaration is not eligible. -/
  | ineligible {refusal : Refusal} : c.generate ctx d = .error refusal → IsReason d refusal
  /-- A declaration before it has a wrapper with the same key. -/
  | clash {first : Declaration} : c = .wrapper →
      [first, d].Sublist (Plan.marked ctx c.directive) → c.key first = c.key d →
      Served ctx c units log first → IsReason d (Plan.clash d first.name)

/-- The declaration has no item, and the log has one diagnostic about it, which says why. -/
def Refused (d : Declaration) : Prop :=
  ∃ refusal, IsReason ctx c units log d refusal ∧
    (placements units).filter d.owns = [] ∧
    Diagnostic.about d log = [.ofRefusal d.name refusal]

/-- The units and the log of a companion are accounted for by the marked declarations. -/
structure Accounted : Prop where
  /-- Each of them is either served or refused. -/
  settled : ∀ d ∈ Plan.marked ctx c.directive,
    Xor (Served ctx c units log d) (Refused ctx c units log d)
  /-- The items are those of the declarations that are served, in their order and grouped by unit.
      A wrapper has a unit of its own. -/
  placed : ∃ items,
    OneEach (Served ctx c units log)
      (fun d x => ∃ g, c.generate ctx d = .ok g ∧ x = (c.key d, g.item))
      (Plan.marked ctx c.directive) items ∧
    units.map content = Grouping.grouped items ∧
    (c = .wrapper → units.map content = items.map fun x => (x.1, [x.2]))
  /-- The log goes from one declaration to the next. -/
  reported : log = (Plan.marked ctx c.directive).flatMap fun d => Diagnostic.about d log

end settling

/-! ### Finding a decision again -/

namespace Companion

section finding
variable {ctx : Context} {c : Companion}

theorem nodup_marked (ctx : Context) (directive : Directive) :
    (Plan.marked ctx directive).Nodup :=
  ctx.snapshot.distinct_names.of_map.filter _

theorem nodup_ledger (ctx : Context) (c : Companion) : (c.ledger ctx).Nodup := by
  have h := nodup_marked ctx c.directive
  rw [← map_declaration_ledger] at h
  exact h.of_map

theorem declaration_mem {x : Decision} (hx : x ∈ c.ledger ctx) :
    x.declaration ∈ ctx.snapshot.declarations := by
  have h := List.mem_map_of_mem (f := (·.declaration)) hx
  rw [map_declaration_ledger] at h
  exact (Snapshot.mem_markedWith_iff.mp h).1

/-- There is one decision about a declaration. -/
theorem eq_of_declaration {x y : Decision} (hx : x ∈ c.ledger ctx) (hy : y ∈ c.ledger ctx)
    (h : x.declaration = y.declaration) : x = y := by
  have hnodup := nodup_marked ctx c.directive
  rw [← map_declaration_ledger] at hnodup
  exact List.inj_on_of_nodup_map hnodup hx hy h

/-- What a decision reports is about its declaration, and nothing else is. -/
theorem about_reported {x : Decision} (hx : x ∈ c.ledger ctx) :
    Diagnostic.about x.declaration (Plan.reported (c.plan ctx)) = x.log := by
  rw [(plan_follows ctx c).reported]
  refine Grouping.filter_flatMap_eq_of_unique (nodup_ledger ctx c) hx fun y hy b hb => ?_
  rw [beq_iff_eq, Decision.symbol_of_mem_log hb]
  constructor
  · intro hname
    exact eq_of_declaration hy hx
      (Snapshot.eq_of_name (declaration_mem hy) (declaration_mem hx) hname)
  · intro heq
    rw [heq]

/-- What a decision places belongs to its declaration, and nothing else does. -/
theorem owns_placed_iff {x y : Decision} (hx : x ∈ c.ledger ctx) (hy : y ∈ c.ledger ctx)
    {p : UnitKey × TopLevel} (hp : p ∈ y.placed c) : x.declaration.owns p = true ↔ y = x := by
  obtain ⟨g, hg, rfl⟩ := Decision.mem_placed_iff.mp hp
  obtain ⟨front, back, -, hverdict⟩ := mem_ledger_iff.mp hy
  have hsubject := (item_of_generate (generate_eq_ok_of_verdict (hverdict ▸ hg))).1
  rw [Declaration.owns, Bool.and_eq_true, beq_iff_eq, beq_iff_eq, hsubject, Option.some.injEq]
  constructor
  · intro h
    exact eq_of_declaration hy hx
      (Snapshot.eq_of_typePath (declaration_mem hy) (declaration_mem hx) h.1 h.2)
  · intro heq
    subst heq
    exact ⟨rfl, rfl⟩

theorem filter_owns_placements {x : Decision} (hx : x ∈ c.ledger ctx) :
    (placements (Plan.submitted (c.plan ctx))).filter x.declaration.owns = x.placed c := by
  have hunique : ∀ y ∈ c.ledger ctx, ∀ p ∈ y.placed c,
      (x.declaration.owns p = true ↔ y = x) := fun y hy p hp => owns_placed_iff hx hy hp
  -- All that belongs to the declaration has one key, so the grouping does not tear it apart.
  have hkey : ∀ p ∈ (c.ledger ctx).flatMap (·.placed c), x.declaration.owns p = true →
      p.1 = c.key x.declaration := by
    intro p hp howns
    obtain ⟨y, hy, hp⟩ := List.mem_flatMap.mp hp
    obtain rfl := (hunique y hy p hp).mp howns
    obtain ⟨g, -, rfl⟩ := Decision.mem_placed_iff.mp hp
    rfl
  rw [placements, (plan_follows ctx c).submitted, Grouping.filter_entries_grouped hkey]
  exact Grouping.filter_flatMap_eq_of_unique (nodup_ledger ctx c) hx hunique

end finding

/-! ### The account of a companion -/

section account
variable {ctx : Context} {c : Companion}

theorem served_of_ledger {x : Decision} {g : Generated TopLevel} (hx : x ∈ c.ledger ctx)
    (hg : x.verdict = .ok g) :
    Served ctx c (Plan.submitted (c.plan ctx)) (Plan.reported (c.plan ctx)) x.declaration := by
  obtain ⟨front, back, -, hverdict⟩ := mem_ledger_iff.mp hx
  refine ⟨g, generate_eq_ok_of_verdict (hverdict ▸ hg), ?_, ?_⟩
  · rw [filter_owns_placements hx, Decision.placed, hg]
  · rw [about_reported hx, Decision.log, hg]

/-- The claimant of a key stands before, and gets its wrapper. -/
theorem claimant_served {front back : List Declaration} {d first : Declaration}
    (hmarked : Plan.marked ctx .loggable = front ++ d :: back)
    (hfirst : claimant? ctx front (Plan.wrapperKey d) = some first) :
    [first, d].Sublist (Plan.marked ctx .loggable) ∧ wrapper.key first = wrapper.key d ∧
      Served ctx wrapper (Plan.submitted (wrapper.plan ctx)) (Plan.reported (wrapper.plan ctx))
        first := by
  obtain ⟨hclaims, before, between, rfl, hnone⟩ := List.find?_eq_some_iff_append.mp hfirst
  rw [Bool.and_eq_true, beq_iff_eq] at hclaims
  obtain ⟨hkey, hok⟩ := hclaims
  refine ⟨?_, hkey, ?_⟩
  · rw [hmarked]
    exact (List.singleton_sublist.mpr (by simp)).append (List.singleton_sublist.mpr (by simp))
  · -- Where the claimant itself was decided on, its key had no claimant yet.
    have hfree : claimant? ctx before (Plan.wrapperKey first) = none := by
      rw [claimant?, List.find?_eq_none]
      intro e he hclaims
      have hnot := hnone e he
      rw [← hkey, hclaims] at hnot
      cases hnot
    obtain ⟨g, hg⟩ : ∃ g, wrapper.generate ctx first = .ok g := by
      cases hwrapper : Synthesis.wrapper ctx first with
      | error refusal =>
        rw [hwrapper] at hok
        cases hok
      | ok w => exact ⟨_, Traversal.map_eq_ok_iff.mpr ⟨w, hwrapper, rfl⟩⟩
    have hledger : ⟨first, .ok g⟩ ∈ wrapper.ledger ctx := by
      refine mem_ledger_iff.mpr ⟨before, between ++ d :: back, ?_, ?_⟩
      · show Plan.marked ctx .loggable = _
        rw [hmarked, List.append_assoc, List.cons_append]
      · rw [verdict_wrapper_of_free hfree, hg]
    exact served_of_ledger hledger rfl

theorem isReason_of_ledger {x : Decision} {refusal : Refusal} (hx : x ∈ c.ledger ctx)
    (hrefusal : x.verdict = .error refusal) :
    IsReason ctx c (Plan.submitted (c.plan ctx)) (Plan.reported (c.plan ctx)) x.declaration
      refusal := by
  obtain ⟨front, back, hmarked, hverdict⟩ := mem_ledger_iff.mp hx
  rw [hrefusal] at hverdict
  cases c with
  | wrapper =>
    cases hfirst : claimant? ctx front (Plan.wrapperKey x.declaration) with
    | none =>
      rw [verdict_wrapper_of_free hfirst] at hverdict
      exact .ineligible hverdict.symm
    | some first =>
      rw [verdict_wrapper_of_claimed hfirst, Except.error.injEq] at hverdict
      obtain ⟨hbefore, hkey, hserved⟩ := claimant_served hmarked hfirst
      rw [hverdict]
      exact .clash rfl hbefore hkey hserved
  | copy => exact .ineligible hverdict.symm
  | niceString => exact .ineligible hverdict.symm

theorem refused_of_ledger {x : Decision} {refusal : Refusal} (hx : x ∈ c.ledger ctx)
    (hrefusal : x.verdict = .error refusal) :
    Refused ctx c (Plan.submitted (c.plan ctx)) (Plan.reported (c.plan ctx)) x.declaration := by
  refine ⟨refusal, isReason_of_ledger hx hrefusal, ?_, ?_⟩
  · rw [filter_owns_placements hx, Decision.placed, hrefusal]
  · rw [about_reported hx, Decision.log, hrefusal]

/-- A declaration is not both served and refused: there is an item, or there is none. -/
theorem not_refused_of_served {units : List SourceUnit} {log : List Diagnostic} {d : Declaration}
    (hserved : Served ctx c units log d) : ¬Refused ctx c units log d := by
  intro hrefused
  obtain ⟨g, -, hitem, -⟩ := hserved
  obtain ⟨refusal, -, hnone, -⟩ := hrefused
  rw [hnone] at hitem
  cases hitem

theorem settled (ctx : Context) (c : Companion) {d : Declaration}
    (hd : d ∈ Plan.marked ctx c.directive) :
    Xor (Served ctx c (Plan.submitted (c.plan ctx)) (Plan.reported (c.plan ctx)) d)
      (Refused ctx c (Plan.submitted (c.plan ctx)) (Plan.reported (c.plan ctx)) d) := by
  rw [← map_declaration_ledger] at hd
  obtain ⟨x, hx, rfl⟩ := List.mem_map.mp hd
  cases hverdict : x.verdict with
  | ok g =>
    have hserved := served_of_ledger hx hverdict
    exact Or.inl ⟨hserved, not_refused_of_served hserved⟩
  | error refusal =>
    have hrefused := refused_of_ledger hx hverdict
    exact Or.inr ⟨hrefused, fun hserved => not_refused_of_served hserved hrefused⟩

/-- The decisions in the ledger place what is found for the marked declarations. -/
theorem flatMap_placed (ctx : Context) (c : Companion) :
    (c.ledger ctx).flatMap (·.placed c) = (Plan.marked ctx c.directive).flatMap
      fun d => (placements (Plan.submitted (c.plan ctx))).filter d.owns := by
  rw [← map_declaration_ledger, List.flatMap_map]
  exact List.flatMap_congr fun x hx => (filter_owns_placements hx).symm

theorem accounted (ctx : Context) (c : Companion) :
    Accounted ctx c (Plan.submitted (c.plan ctx)) (Plan.reported (c.plan ctx)) := by
  refine ⟨fun d hd => settled ctx c hd, ⟨(c.ledger ctx).flatMap (·.placed c), ?_, ?_, ?_⟩, ?_⟩
  · rw [flatMap_placed]
    refine OneEach.flatMap ?_ ?_
    · intro d _ hserved
      obtain ⟨g, hg, hitem, -⟩ := hserved
      exact ⟨_, hitem, g, hg, rfl⟩
    · intro d hd hnot
      rcases settled ctx c hd with ⟨hserved, -⟩ | ⟨hrefused, -⟩
      · exact absurd hserved hnot
      · obtain ⟨refusal, -, hnone, -⟩ := hrefused
        exact hnone
  · exact (plan_follows ctx c).submitted
  · intro hc
    subst hc
    rw [(plan_follows ctx wrapper).submitted]
    exact Grouping.grouped_of_nodup (distinct_placed_wrappers ctx [] _).1
  · rw [← map_declaration_ledger, List.flatMap_map]
    conv_lhs => rw [(plan_follows ctx c).reported]
    exact List.flatMap_congr fun x hx => (about_reported hx).symm

end account

end Companion

/-! ### Whole rounds -/

/-- **Accounting.**  With an emitter that takes every unit with a new key, a round succeeds, and
    what it has emitted and reported is accounted for, companion by companion. -/
theorem Round.run_accounts {σ : Type} {e : Emitter σ} {state : σ} {settings : Settings}
    (snapshot : Snapshot) (start : Moment) (hsettings : settings.faults = [])
    (he : e.RefusesOnlyRepeats state) :
    ∃ report r, ∃ (units : Companion → List SourceUnit) (log : Companion → List Diagnostic),
      run e snapshot settings start state = (.ok report, r) ∧
      r.emitter = e.after (units .wrapper ++ units .copy ++ units .niceString) state ∧
      report.units = (units .wrapper ++ units .copy ++ units .niceString).map (·.key) ∧
      r.diagnostics = log .wrapper ++ log .copy ++ log .niceString ∧
      ∀ c, Accounted (.of snapshot settings start) c (units c) (log c) := by
  have hkeys := Plan.nodup_keys_round (.of snapshot settings start)
  obtain ⟨r, hrun, hdone⟩ := exists_run_eq_ok hsettings he hkeys
  refine ⟨_, r, fun c => Plan.submitted (c.plan (.of snapshot settings start)),
    fun c => Plan.reported (c.plan (.of snapshot settings start)), hrun, ?_, ?_, ?_, ?_⟩
  · rw [← Plan.submitted_round]
    exact hdone.emitter
  · rw [← Plan.submitted_round]
    exact hdone.taken
  · rw [← Plan.reported_round]
    exact hdone.diagnostics
  · exact Companion.accounted _

/-- An emitter that takes everything, and declarations of which some are refused: one has the name
    of its wrapper claimed, and one is a data class.  Another has a parameter that its text leaves
    out. -/
theorem Round.run_accounts_mixed :
    let string : Declared.TypeRef := .resolved (.named "String")
    let loggable : Declared.Annotation := { name := "Loggable" }
    let both : List Declared.Annotation := [{ name := "Copy" }, { name := "ToNiceString" }]
    let declarations : List Declaration :=
      [{ name := "a.Api", kind := .interface, annotations := [loggable] },
        { name := "a.Outer.Api", scope? := some "a", kind := .interface,
          annotations := [loggable] },
        { name := "b.Pair", kind := .class_, modifiers := .ofList [.dataClass],
          constructor? := some [{ name := "first", type := string, binding := .val }],
          annotations := both },
        { name := "b.User", kind := .class_,
          constructor? :=
            some [{ name := "name", type := string, binding := .val },
              { name := "secret", type := string }],
          annotations := both }]
    let settings : Settings := {}
    let e : Emitter (List SourceUnit) := { submit := fun unit units => (.ok (), units ++ [unit]) }
    settings.faults = [] ∧ e.RefusesOnlyRepeats [] ∧
      ∃ hsound, ∃ report r, ∃ (units : Companion → List SourceUnit)
        (log : Companion → List Diagnostic),
        run e ⟨declarations, hsound⟩ settings .newYear2024 [] = (.ok report, r) ∧
        r.emitter = e.after (units .wrapper ++ units .copy ++ units .niceString) [] ∧
        report.units = (units .wrapper ++ units .copy ++ units .niceString).map (·.key) ∧
        r.diagnostics = log .wrapper ++ log .copy ++ log .niceString ∧
        ∀ c, Accounted (.of ⟨declarations, hsound⟩ settings .newYear2024) c (units c) (log c) := by
  intro string loggable both declarations settings e
  have hsettings : settings.faults = [] := by decide
  have hsound : Snapshot.issues declarations = [] := by decide
  have he : e.RefusesOnlyRepeats [] := Emitter.refusesOnlyRepeats_of_accepts (fun _ _ => rfl) []
  exact ⟨hsettings, he, hsound, run_accounts ⟨declarations, hsound⟩ .newYear2024 hsettings he⟩

end CompanionSource
