import CompanionSource.Proofs.Copies
import CompanionSource.Proofs.NiceString.Basic
import CompanionSource.Proofs.Round.Grouping
import CompanionSource.Proofs.Round.Performance
import CompanionSource.Proofs.Snapshot.Names
import CompanionSource.Proofs.Wrapper.Basic

/-! # Ledgers

    What the plan of a round is, seen from the declarations.  For each kind of companion the
    **ledger** lists the marked declarations in the order of discovery, each with the decision
    about it: what is generated, or why nothing is.

    - A decision is that of the generator.  Only a wrapper is refused, besides, if an earlier
      declaration has claimed its name.
    - What is **reported** is what each decision says, in the order of the ledger.
    - What is **submitted** is what the decisions place, grouped by the unit they place it in.

    So the plan neither loses nor adds anything. -/

namespace CompanionSource

open Source (TopLevel)
open Synthesis (Context Generated)

/-! ### Companions -/

/-- The companions that are generated for marked declarations. -/
inductive Companion where
  | wrapper
  | copy
  | niceString
  deriving DecidableEq, Repr

namespace Companion

/-- The directive that asks for a companion. -/
def directive : Companion → Directive
  | wrapper => .loggable
  | copy => .copy
  | niceString => .toNiceString

/-- The file that a companion goes into.  A wrapper has a file of its own. -/
def file : Companion → Declaration → String
  | wrapper, d => Synthesis.wrapperName d
  | copy, _ => Synthesis.copyFile
  | niceString, _ => Synthesis.niceStringFile

/-- The unit that a companion goes into. -/
def key (c : Companion) (d : Declaration) : UnitKey := ⟨d.scope, c.file d⟩

/-- What the generator of a companion makes of a declaration. -/
def generate (ctx : Context) : Companion → Declaration → Except Refusal (Generated TopLevel)
  | wrapper, d => (Synthesis.wrapper ctx d).map fun g => ⟨.ofClass g.item, g.warnings⟩
  | copy, d => (Synthesis.copy ctx d).map fun g => ⟨.ofFunction g.item, g.warnings⟩
  | niceString, d => (Synthesis.niceString ctx d).map fun g => ⟨.ofFunction g.item, g.warnings⟩

/-- What a round does about a companion. -/
def plan (ctx : Context) (c : Companion) : List Action := Plan.forDirective ctx c.directive

end Companion

/-! ### Generated items -/

/-- The name of the type that an item belongs to: a function extends it, a class derives from
    it. -/
def Source.TopLevel.subject? : TopLevel → Option String
  | .ofClass c => c.supertypes.head?.map (·.type.name)
  | .ofFunction f => f.receiver.map (·.name)
  | .ofProperty _ => none

/-- What is generated for a declaration belongs to its type, and has one annotation, which gives
    the provenance. -/
theorem Companion.item_of_generate {ctx : Context} {c : Companion} {d : Declaration}
    {g : Generated TopLevel} (h : c.generate ctx d = .ok g) :
    g.item.subject? = some d.typePath ∧ g.item.annotations = [ctx.provenance.mark] := by
  cases c with
  | wrapper =>
    obtain ⟨w, hw, rfl⟩ := Traversal.map_eq_ok_iff.mp h
    obtain ⟨-, -, properties, functions, -, -, rfl⟩ := Synthesis.wrapper_eq_ok_iff.mp hw
    exact ⟨rfl, rfl⟩
  | copy =>
    obtain ⟨f, hf, rfl⟩ := Traversal.map_eq_ok_iff.mp h
    obtain ⟨ts, -, rfl⟩ := Synthesis.copy_eq_ok_iff.mp hf
    exact ⟨rfl, rfl⟩
  | niceString =>
    obtain ⟨f, hf, rfl⟩ := Traversal.map_eq_ok_iff.mp h
    obtain ⟨ts, -, -, rfl⟩ := Synthesis.niceString_eq_ok_iff.mp hf
    exact ⟨rfl, rfl⟩

/-! ### Decisions -/

/-- A declaration, and what is generated for it or why nothing is. -/
structure Decision where
  declaration : Declaration
  verdict : Except Refusal (Generated TopLevel)

namespace Decision

/-- What a decision reports: the warnings about what is generated, or the refusal. -/
def log (x : Decision) : List Diagnostic :=
  match x.verdict with
  | .error refusal => [.ofRefusal x.declaration.name refusal]
  | .ok g => g.warnings.map (⟨.warning, x.declaration.name, ·⟩)

/-- What a decision places, and in which unit. -/
def placed (c : Companion) (x : Decision) : List (UnitKey × TopLevel) :=
  match x.verdict with
  | .error _ => []
  | .ok g => [(c.key x.declaration, g.item)]

theorem symbol_of_mem_log {x : Decision} {entry : Diagnostic} (h : entry ∈ x.log) :
    entry.symbol = x.declaration.name := by
  unfold log at h
  split at h
  · rw [List.mem_singleton.mp h]
    rfl
  · obtain ⟨message, -, rfl⟩ := List.mem_map.mp h
    rfl

theorem mem_placed_iff {c : Companion} {x : Decision} {p : UnitKey × TopLevel} :
    p ∈ x.placed c ↔ ∃ g, x.verdict = .ok g ∧ p = (c.key x.declaration, g.item) := by
  unfold placed
  cases x.verdict with
  | error refusal => simp
  | ok g => simp

end Decision

namespace Companion

/-- The declaration among those before that has claimed a unit: the first one that gets a wrapper
    in it. -/
def claimant? (ctx : Context) (before : List Declaration) (key : UnitKey) : Option Declaration :=
  before.find? fun e => Plan.wrapperKey e == key && (Synthesis.wrapper ctx e).isOk

/-- What is decided about a declaration, given the marked declarations before it. -/
def verdict (ctx : Context) (before : List Declaration) (c : Companion) (d : Declaration) :
    Except Refusal (Generated TopLevel) :=
  match c with
  | wrapper =>
    match claimant? ctx before (Plan.wrapperKey d) with
    | some first => .error (Plan.clash d first.name)
    | none => wrapper.generate ctx d
  | copy => copy.generate ctx d
  | niceString => niceString.generate ctx d

/-- The decisions about declarations, given the marked declarations before them. -/
def ledgerFrom (ctx : Context) (c : Companion) (before : List Declaration) :
    List Declaration → List Decision
  | [] => []
  | d :: ds => ⟨d, c.verdict ctx before d⟩ :: ledgerFrom ctx c (before ++ [d]) ds

/-- The decisions about all marked declarations, in the order of discovery. -/
def ledger (ctx : Context) (c : Companion) : List Decision :=
  ledgerFrom ctx c [] (Plan.marked ctx c.directive)

theorem map_declaration_ledgerFrom (ctx : Context) (c : Companion) (before ds : List Declaration) :
    (ledgerFrom ctx c before ds).map (·.declaration) = ds := by
  induction ds generalizing before with
  | nil => rfl
  | cons d ds ih => rw [ledgerFrom, List.map_cons, ih]

/-- The ledger has one decision for each marked declaration. -/
theorem map_declaration_ledger (ctx : Context) (c : Companion) :
    (ledger ctx c).map (·.declaration) = Plan.marked ctx c.directive :=
  map_declaration_ledgerFrom ctx c [] _

/-- No decision about an extension function depends on the declarations before. -/
theorem ledgerFrom_eq_map {ctx : Context} {c : Companion} (hc : c ≠ wrapper)
    (before ds : List Declaration) :
    ledgerFrom ctx c before ds = ds.map fun d => ⟨d, c.generate ctx d⟩ := by
  induction ds generalizing before with
  | nil => rfl
  | cons d ds ih =>
    have hverdict : c.verdict ctx before d = c.generate ctx d := by
      cases c with
      | wrapper => exact absurd rfl hc
      | copy => rfl
      | niceString => rfl
    rw [ledgerFrom, List.map_cons, ih, hverdict]

end Companion

/-! ### Units -/

namespace SourceUnit

/-- Which unit it is, and what it declares. -/
def content (u : SourceUnit) : UnitKey × List TopLevel := (u.key, u.members)

/-- All that units declare, each with the unit that it is in. -/
def placements (units : List SourceUnit) : List (UnitKey × TopLevel) :=
  Grouping.entries (units.map content)

theorem mem_placements_iff {units : List SourceUnit} {x : UnitKey × TopLevel} :
    x ∈ placements units ↔ ∃ u ∈ units, u.key = x.1 ∧ x.2 ∈ u.members := by
  obtain ⟨key, item⟩ := x
  simp only [placements, Grouping.entries, List.mem_flatMap, List.mem_map, exists_exists_and_eq_and,
    content, Prod.mk.injEq]
  constructor
  · rintro ⟨u, hu, m, hm, rfl, rfl⟩
    exact ⟨u, hu, rfl, hm⟩
  · rintro ⟨u, hu, rfl, hm⟩
    exact ⟨u, hu, item, hm, rfl, rfl⟩

end SourceUnit

open SourceUnit (content placements)
open Grouping (grouped)

/-! ### Plans -/

/-- The plan does what the decisions say. -/
structure Plan.Follows (ctx : Context) (c : Companion) (decisions : List Decision)
    (plan : List Action) : Prop where
  reported : Plan.reported plan = decisions.flatMap (·.log)
  submitted : (Plan.submitted plan).map content = grouped (decisions.flatMap (·.placed c))
  provenance : ∀ u ∈ Plan.submitted plan, u.provenance = ctx.provenance

/-! #### Wrappers -/

namespace Plan

/-- The unit of a wrapper, under the key that is claimed for it. -/
def wrapperUnit (ctx : Context) (d : Declaration) (c : Source.Class) : SourceUnit where
  key := wrapperKey d
  members := [.ofClass c]
  provenance := ctx.provenance
  nonempty := List.cons_ne_nil _ _

section wrapperUnit
variable {ctx : Context} {claimed : List (UnitKey × String)} {d : Declaration}
  {g : Generated Source.Class}

/-- A wrapper is called what its key says, and a unit with a wrapper in it is not refused. -/
theorem wrapperUnit?_of_wrapper (h : Synthesis.wrapper ctx d = .ok g) :
    wrapperUnit? ctx d g.item = some (wrapperUnit ctx d g.item) := by
  obtain ⟨-, -, properties, functions, -, -, rfl⟩ := Synthesis.wrapper_eq_ok_iff.mp h
  rfl

/-- A wrapper under a free key is submitted, and claims the key. -/
theorem wrappersFrom_of_wrapper (hfree : claimed.lookup (wrapperKey d) = none)
    (h : Synthesis.wrapper ctx d = .ok g) (ds : List Declaration) :
    wrappersFrom ctx claimed (d :: ds) =
      warnings d.name g.warnings ++ .submit (wrapperUnit ctx d g.item) ::
        wrappersFrom ctx ((wrapperKey d, d.name) :: claimed) ds := by
  simp only [wrappersFrom, hfree, h, wrapperUnit?_of_wrapper h]
  rw [List.append_assoc]
  rfl

end wrapperUnit

end Plan

namespace Companion

section wrappers
variable {ctx : Context} {claimed : List (UnitKey × String)} {before : List Declaration}
  {d : Declaration}

theorem claimant?_concat (key : UnitKey) :
    claimant? ctx (before ++ [d]) key =
      (claimant? ctx before key).or
        (if Plan.wrapperKey d == key && (Synthesis.wrapper ctx d).isOk then some d else none) := by
  rw [claimant?, List.find?_append, List.find?_singleton]
  rfl

theorem verdict_wrapper_of_claimed {first : Declaration}
    (h : claimant? ctx before (Plan.wrapperKey d) = some first) :
    verdict ctx before wrapper d = .error (Plan.clash d first.name) := by
  simp only [verdict, h]

theorem verdict_wrapper_of_free (h : claimant? ctx before (Plan.wrapperKey d) = none) :
    verdict ctx before wrapper d = wrapper.generate ctx d := by
  simp only [verdict, h]

/-- A wrapper is decided on where its unit has no claimant and the generator succeeds. -/
theorem verdict_wrapper_eq_ok_iff {g : Generated TopLevel} :
    verdict ctx before wrapper d = .ok g ↔
      claimant? ctx before (Plan.wrapperKey d) = none ∧ wrapper.generate ctx d = .ok g := by
  cases hclaimant : claimant? ctx before (Plan.wrapperKey d) with
  | none => simp [verdict_wrapper_of_free hclaimant]
  | some first => simp [verdict_wrapper_of_claimed hclaimant]

theorem isOk_wrapper_of_generate {g : Generated TopLevel} (h : wrapper.generate ctx d = .ok g) :
    (Synthesis.wrapper ctx d).isOk = true := by
  cases hwrapper : Synthesis.wrapper ctx d with
  | error refusal => simp [generate, hwrapper, Except.map] at h
  | ok c => rfl

/-- The table of claims names the claimant of each unit. -/
def Records (ctx : Context) (before : List Declaration) (claimed : List (UnitKey × String)) :
    Prop :=
  ∀ key, claimed.lookup key = (claimant? ctx before key).map (·.name)

/-- A declaration that gets no wrapper claims nothing. -/
theorem Records.skip (h : Records ctx before claimed)
    (hd : claimant? ctx before (Plan.wrapperKey d) ≠ none ∨
      (Synthesis.wrapper ctx d).isOk = false) :
    Records ctx (before ++ [d]) claimed := by
  intro key
  rw [h key, claimant?_concat]
  rcases hd with hclaimed | hrefused
  · by_cases hkey : Plan.wrapperKey d = key
    · rw [hkey] at hclaimed
      cases hclaimant : claimant? ctx before key with
      | none => exact absurd hclaimant hclaimed
      | some first => rfl
    · have hne : (Plan.wrapperKey d == key) = false := beq_eq_false_iff_ne.mpr hkey
      simp [hne]
  · simp [hrefused]

/-- A declaration that gets a wrapper claims a unit that was free. -/
theorem Records.claim (h : Records ctx before claimed)
    (hfree : claimant? ctx before (Plan.wrapperKey d) = none)
    (hd : (Synthesis.wrapper ctx d).isOk = true) :
    Records ctx (before ++ [d]) ((Plan.wrapperKey d, d.name) :: claimed) := by
  intro key
  rw [claimant?_concat, hd, Bool.and_true]
  by_cases hkey : Plan.wrapperKey d = key
  · subst hkey
    rw [List.lookup_cons_self, hfree]
    simp
  · have hne : (Plan.wrapperKey d == key) = false := beq_eq_false_iff_ne.mpr hkey
    have hne' : (key == Plan.wrapperKey d) = false := beq_eq_false_iff_ne.mpr (Ne.symm hkey)
    rw [List.lookup_cons, hne', hne, h key]
    simp

/-- A unit that holds a wrapper has no claimant before, and no two wrappers are in one unit. -/
theorem distinct_placed_wrappers (ctx : Context) (before ds : List Declaration) :
    (((ledgerFrom ctx wrapper before ds).flatMap (·.placed wrapper)).map Prod.fst).Nodup ∧
      ∀ x ∈ (ledgerFrom ctx wrapper before ds).flatMap (·.placed wrapper),
        claimant? ctx before x.1 = none := by
  induction ds generalizing before with
  | nil => exact ⟨List.nodup_nil, List.forall_mem_nil _⟩
  | cons d ds ih =>
    obtain ⟨hnodup, hlater⟩ := ih (before ++ [d])
    -- What is not claimed with the declaration is not claimed before it either.
    have hfree : ∀ x ∈ (ledgerFrom ctx wrapper (before ++ [d]) ds).flatMap (·.placed wrapper),
        claimant? ctx before x.1 = none := by
      intro x hx
      have hnone := hlater x hx
      rw [claimant?_concat, Option.or_eq_none_iff] at hnone
      exact hnone.1
    rw [ledgerFrom, List.flatMap_cons]
    cases hverdict : verdict ctx before wrapper d with
    | error refusal => exact ⟨hnodup, hfree⟩
    | ok g =>
      obtain ⟨hown, hgenerate⟩ := verdict_wrapper_eq_ok_iff.mp hverdict
      have hclaims : claimant? ctx (before ++ [d]) (Plan.wrapperKey d) = some d := by
        rw [claimant?_concat, hown, isOk_wrapper_of_generate hgenerate]
        simp
      refine ⟨List.nodup_cons.mpr ⟨?_, hnodup⟩, List.forall_mem_cons.mpr ⟨hown, hfree⟩⟩
      intro hmem
      obtain ⟨x, hx, hkey⟩ := List.mem_map.mp hmem
      have hnone := hlater x hx
      rw [show x.1 = Plan.wrapperKey d from hkey, hclaims] at hnone
      cases hnone

/-- One step per declaration: the table of claims decides as the claimant does, and is brought up
    to date. -/
theorem wrappersFrom_follows (h : Records ctx before claimed) (ds : List Declaration) :
    Plan.reported (Plan.wrappersFrom ctx claimed ds) =
        (ledgerFrom ctx wrapper before ds).flatMap (·.log) ∧
      (Plan.submitted (Plan.wrappersFrom ctx claimed ds)).map content =
        ((ledgerFrom ctx wrapper before ds).flatMap (·.placed wrapper)).map
          (fun x => (x.1, [x.2])) ∧
      ∀ u ∈ Plan.submitted (Plan.wrappersFrom ctx claimed ds), u.provenance = ctx.provenance := by
  induction ds generalizing claimed before with
  | nil => exact ⟨rfl, rfl, List.forall_mem_nil _⟩
  | cons d ds ih =>
    rw [ledgerFrom, List.flatMap_cons, List.flatMap_cons]
    cases hclaimant : claimant? ctx before (Plan.wrapperKey d) with
    | some first =>
      obtain ⟨hreported, hsubmitted, hprovenance⟩ :=
        ih (h.skip (Or.inl (by rw [hclaimant]; exact Option.some_ne_none first)))
      have hplan : Plan.wrappersFrom ctx claimed (d :: ds) =
          .report d.name (Plan.clash d first.name) :: Plan.wrappersFrom ctx claimed ds := by
        rw [Plan.wrappersFrom, h, hclaimant]
        rfl
      rw [hplan, verdict_wrapper_of_claimed hclaimant]
      exact ⟨congrArg (_ :: ·) hreported, hsubmitted, hprovenance⟩
    | none =>
      rw [verdict_wrapper_of_free hclaimant, generate]
      cases hwrapper : Synthesis.wrapper ctx d with
      | error refusal =>
        obtain ⟨hreported, hsubmitted, hprovenance⟩ :=
          ih (h.skip (Or.inr (by rw [hwrapper]; rfl)))
        have hplan : Plan.wrappersFrom ctx claimed (d :: ds) =
            .report d.name refusal :: Plan.wrappersFrom ctx claimed ds := by
          rw [Plan.wrappersFrom, h, hclaimant, hwrapper]
          rfl
        rw [hplan]
        exact ⟨congrArg (_ :: ·) hreported, hsubmitted, hprovenance⟩
      | ok c =>
        obtain ⟨hreported, hsubmitted, hprovenance⟩ :=
          ih (h.claim hclaimant (by rw [hwrapper]; rfl))
        have hplan : Plan.wrappersFrom ctx claimed (d :: ds) =
            Plan.warnings d.name c.warnings ++ .submit (Plan.wrapperUnit ctx d c.item) ::
              Plan.wrappersFrom ctx ((Plan.wrapperKey d, d.name) :: claimed) ds :=
          Plan.wrappersFrom_of_wrapper (by rw [h, hclaimant]; rfl) hwrapper ds
        rw [hplan, Plan.reported_append, Plan.reported_warnings, Plan.submitted_append,
          Plan.submitted_warnings, List.nil_append]
        refine ⟨?_, ?_, ?_⟩
        · exact congrArg (_ ++ ·) hreported
        · exact congrArg (_ :: ·) hsubmitted
        · exact List.forall_mem_cons.mpr ⟨rfl, hprovenance⟩

theorem wrappers_follow (ctx : Context) :
    Plan.Follows ctx wrapper (wrapper.ledger ctx) (wrapper.plan ctx) := by
  have hnone : Records ctx [] [] := fun key => rfl
  obtain ⟨hreported, hsubmitted, hprovenance⟩ :=
    wrappersFrom_follows hnone (Plan.marked ctx .loggable)
  refine ⟨hreported, ?_, hprovenance⟩
  rw [ledger, Grouping.grouped_of_nodup (distinct_placed_wrappers ctx [] _).1]
  exact hsubmitted

end wrappers

end Companion

/-! #### Extension functions -/

namespace Batch

theorem content_units (b : Batch) (provenance : Provenance) :
    (b.units provenance).map content =
      b.groups.map fun g => (⟨g.1, b.file⟩, g.2.map TopLevel.ofFunction) := by
  simp only [units_eq_pmap, List.map_pmap, content, List.pmap_eq_map]

theorem exists_group_of_mem_units {b : Batch} {provenance : Provenance} {u : SourceUnit}
    (h : u ∈ b.units provenance) :
    ∃ g ∈ b.groups, u.key = ⟨g.1, b.file⟩ ∧ u.members = g.2.map TopLevel.ofFunction ∧
      u.provenance = provenance := by
  rw [units_eq_pmap, List.mem_pmap] at h
  obtain ⟨g, hg, rfl⟩ := h
  exact ⟨g, hg, rfl, rfl, rfl⟩

end Batch

namespace Plan

section extensions
variable {ctx : Context} {generate : Extension}

/-- The functions that are generated for declarations, each with its namespace. -/
def functions (generate : Extension) (ctx : Context) (ds : List Declaration) :
    List (String × Source.Function) :=
  ds.flatMap fun d =>
    match generate ctx d with
    | .error _ => []
    | .ok g => [(d.scope, g.item)]

/-- The batch of a plan is that of calls, one for each function. -/
theorem foldl_addExtension_eq_ofCalls (file : String) (ds : List Declaration) :
    ds.foldl (addExtension generate ctx) (.fresh file) =
      Batch.ofCalls file (functions generate ctx ds) := by
  have hall (b : Batch) : ds.foldl (addExtension generate ctx) b =
      (functions generate ctx ds).foldl (fun b call => b.add call.1 call.2) b := by
    induction ds generalizing b with
    | nil => rfl
    | cons d ds ih =>
      rw [List.foldl_cons, ih, addExtension, functions, functions, List.flatMap_cons,
        List.foldl_append]
      cases generate ctx d with
      | error refusal => rfl
      | ok g => rfl
  exact hall (.fresh file)

/-- The units of the batch hold the functions, grouped by namespace. -/
theorem content_units_foldl_addExtension (file : String) (ds : List Declaration) :
    ((ds.foldl (addExtension generate ctx) (.fresh file)).units ctx.provenance).map content =
      grouped ((functions generate ctx ds).map fun x => (⟨x.1, file⟩, .ofFunction x.2)) := by
  have hinjective : Function.Injective fun scope => (⟨scope, file⟩ : UnitKey) :=
    fun a b h => congrArg UnitKey.scope h
  rw [Grouping.grouped_map hinjective, foldl_addExtension_eq_ofCalls, Batch.content_units,
    Batch.groups_ofCalls, Batch.file_ofCalls]

theorem submitted_extensionReports (d : Declaration) :
    submitted (extensionReports generate ctx d) = [] := by
  unfold extensionReports
  split
  · rfl
  · exact submitted_warnings _ _

theorem submitted_extensions (generate : Extension) (file : String) (directive : Directive)
    (ctx : Context) :
    submitted (extensions generate file directive ctx) =
      ((marked ctx directive).foldl (addExtension generate ctx) (.fresh file)).units
        ctx.provenance := by
  have hreports :
      submitted ((marked ctx directive).flatMap (extensionReports generate ctx)) = [] := by
    rw [submitted, List.flatMap_assoc, List.flatMap_eq_nil_iff]
    exact fun d _ => submitted_extensionReports d
  rw [extensions, submitted_append, submitted_submit, hreports, List.nil_append]

/-- All declarations are reported on before the first unit, and what is generated for them is
    grouped in the units. -/
theorem extensions_follow {c : Companion} {file : String}
    (hgenerate : ∀ d, c.generate ctx d =
      (generate ctx d).map fun g => ⟨.ofFunction g.item, g.warnings⟩)
    (hkey : ∀ d, c.key d = ⟨d.scope, file⟩) (directive : Directive) :
    Follows ctx c ((marked ctx directive).map fun d => ⟨d, c.generate ctx d⟩)
      (extensions generate file directive ctx) := by
  refine ⟨?_, ?_, ?_⟩
  · rw [extensions, reported_append, reported_submit, List.append_nil,
      reported, List.flatMap_assoc, List.flatMap_map]
    congr 1
    funext d
    simp only [extensionReports, Decision.log, hgenerate]
    cases generate ctx d with
    | error refusal => rfl
    | ok g => exact reported_warnings d.name g.warnings
  · rw [submitted_extensions, content_units_foldl_addExtension, functions, List.map_flatMap,
      List.flatMap_map]
    congr 2
    funext d
    simp only [Decision.placed, hgenerate, hkey]
    cases generate ctx d with
    | error refusal => rfl
    | ok g => rfl
  · intro u hu
    rw [submitted_extensions] at hu
    obtain ⟨g, -, -, -, hprovenance⟩ := Batch.exists_group_of_mem_units hu
    exact hprovenance

end extensions

end Plan

namespace Companion

/-- What a round does about a companion is what the ledger says. -/
theorem plan_follows (ctx : Context) (c : Companion) :
    Plan.Follows ctx c (c.ledger ctx) (c.plan ctx) := by
  cases c with
  | wrapper => exact wrappers_follow ctx
  | copy =>
    rw [ledger, ledgerFrom_eq_map (by decide)]
    exact Plan.extensions_follow (fun _ => rfl) (fun _ => rfl) .copy
  | niceString =>
    rw [ledger, ledgerFrom_eq_map (by decide)]
    exact Plan.extensions_follow (fun _ => rfl) (fun _ => rfl) .toNiceString

/-! ### Units of a plan -/

section units
variable {ctx : Context} {c : Companion}

theorem generate_eq_ok_of_verdict {before : List Declaration} {d : Declaration}
    {g : Generated TopLevel} (h : verdict ctx before c d = .ok g) : c.generate ctx d = .ok g := by
  cases c with
  | wrapper => exact (verdict_wrapper_eq_ok_iff.mp h).2
  | copy => exact h
  | niceString => exact h

theorem mem_ledgerFrom_iff {before ds : List Declaration} {x : Decision} :
    x ∈ ledgerFrom ctx c before ds ↔
      ∃ front back, ds = front ++ x.declaration :: back ∧
        x.verdict = verdict ctx (before ++ front) c x.declaration := by
  induction ds generalizing before with
  | nil => simp [ledgerFrom]
  | cons d ds ih =>
    rw [ledgerFrom, List.mem_cons, ih]
    constructor
    · rintro (rfl | ⟨front, back, rfl, hverdict⟩)
      · exact ⟨[], ds, rfl, by rw [List.append_nil]⟩
      · exact ⟨d :: front, back, rfl, by rw [hverdict, List.append_assoc, List.singleton_append]⟩
    · rintro ⟨front, back, hds, hverdict⟩
      cases front with
      | nil =>
        obtain ⟨rfl, rfl⟩ := List.cons.inj hds
        rw [List.append_nil] at hverdict
        exact Or.inl (by rw [← hverdict])
      | cons first front =>
        obtain ⟨rfl, rfl⟩ := List.cons.inj hds
        exact Or.inr ⟨front, back, rfl,
          by rw [hverdict, List.append_assoc, List.singleton_append]⟩

/-- The decisions are those about the marked declarations, each given the declarations before. -/
theorem mem_ledger_iff {x : Decision} :
    x ∈ c.ledger ctx ↔
      ∃ front back, Plan.marked ctx c.directive = front ++ x.declaration :: back ∧
        x.verdict = verdict ctx front c x.declaration :=
  mem_ledgerFrom_iff

/-- No two units of a companion have the same key. -/
theorem nodup_keys (ctx : Context) (c : Companion) :
    ((Plan.submitted (c.plan ctx)).map (·.key)).Nodup := by
  have h := Grouping.nodup_grouped ((c.ledger ctx).flatMap (·.placed c))
  rw [← (plan_follows ctx c).submitted, List.map_map] at h
  exact h

theorem mem_placements_plan_iff {x : UnitKey × TopLevel} :
    x ∈ placements (Plan.submitted (c.plan ctx)) ↔
      ∃ decision ∈ c.ledger ctx, x ∈ decision.placed c := by
  rw [placements, (plan_follows ctx c).submitted, Grouping.mem_entries_grouped, List.mem_flatMap]

/-- All that a unit holds is generated for a marked declaration, and the unit is the one that the
    companion of this declaration goes into. -/
theorem exists_of_mem_members {u : SourceUnit} (hu : u ∈ Plan.submitted (c.plan ctx))
    {item : TopLevel} (hitem : item ∈ u.members) :
    ∃ d ∈ Plan.marked ctx c.directive, ∃ g, c.generate ctx d = .ok g ∧ u.key = c.key d ∧
      item = g.item := by
  have hplaced : (u.key, item) ∈ placements (Plan.submitted (c.plan ctx)) :=
    SourceUnit.mem_placements_iff.mpr ⟨u, hu, rfl, hitem⟩
  obtain ⟨x, hx, hplaced⟩ := mem_placements_plan_iff.mp hplaced
  obtain ⟨front, back, hmarked, hverdict⟩ := mem_ledger_iff.mp hx
  have hmem : x.declaration ∈ Plan.marked ctx c.directive := by
    rw [hmarked]
    exact List.mem_append_right front List.mem_cons_self
  obtain ⟨g, hg, heq⟩ := Decision.mem_placed_iff.mp hplaced
  exact ⟨x.declaration, hmem, g, generate_eq_ok_of_verdict (hverdict ▸ hg), Prod.mk.inj heq⟩

/-- What is generated for a marked declaration is placed.  Only the name of a wrapper can stand in
    the way of that. -/
theorem mem_placements_of_generate (hc : c ≠ wrapper) {d : Declaration}
    (hd : d ∈ Plan.marked ctx c.directive) {g : Generated TopLevel}
    (hg : c.generate ctx d = .ok g) :
    (c.key d, g.item) ∈ placements (Plan.submitted (c.plan ctx)) := by
  refine mem_placements_plan_iff.mpr ⟨⟨d, c.generate ctx d⟩, ?_, ?_⟩
  · rw [ledger, ledgerFrom_eq_map hc]
    exact List.mem_map_of_mem hd
  · exact Decision.mem_placed_iff.mpr ⟨g, hg, rfl⟩

end units

end Companion

end CompanionSource
