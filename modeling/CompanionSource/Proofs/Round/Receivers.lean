import CompanionSource.Proofs.Round.Accounting
import CompanionSource.Proofs.Snapshot.Resolution

/-! # Names in generated code denote their declarations

    Generated source refers to a declaration by its **type path**, and the file it stands in has
    the **namespace** of the declaration.  These two are enough:

    - the qualified name is put together from them, so no two declarations share both;
    - the type path, written in the namespace, stands for the declaration.

    So the functions of one file extend different types, and a call finds one of them at most. -/

namespace CompanionSource

open Source (TopLevel)
open Synthesis (Context)

/-! ### What the items of a unit belong to -/

namespace Companion

variable {ctx : Context} {c : Companion}

/-- Items in one namespace belong to different types. -/
theorem pairwise_subject_placed (ctx : Context) (c : Companion) :
    ((c.ledger ctx).flatMap (·.placed c)).Pairwise fun x y =>
      x.1.scope = y.1.scope → x.2.subject? ≠ y.2.subject? := by
  rw [List.pairwise_flatMap]
  constructor
  · intro x _
    unfold Decision.placed
    cases x.verdict with
    | error refusal => exact List.Pairwise.nil
    | ok g => exact List.pairwise_singleton _ _
  · refine (nodup_ledger ctx c).imp_of_mem ?_
    intro x y hx hy hne p hp q hq hscope hsubject
    -- An item that belongs to two declarations would make them one.
    have hown := (owns_placed_iff hx hx hp).mpr rfl
    rw [Declaration.owns, hscope, hsubject] at hown
    exact hne ((owns_placed_iff hx hy hq).mp hown).symm

/-- The items of a unit belong to different types. -/
theorem pairwise_subject {u : SourceUnit} (hu : u ∈ Plan.submitted (c.plan ctx)) :
    u.members.Pairwise fun a b => a.subject? ≠ b.subject? := by
  have hcontent := List.mem_map_of_mem (f := SourceUnit.content) hu
  rw [(plan_follows ctx c).submitted] at hcontent
  obtain ⟨key, -, hkey⟩ := List.mem_map.mp hcontent
  have hmembers : Grouping.withKey key ((c.ledger ctx).flatMap (·.placed c)) = u.members :=
    congrArg Prod.snd hkey
  rw [← hmembers, Grouping.withKey, List.pairwise_map]
  refine ((pairwise_subject_placed ctx c).filter _).imp_of_mem ?_
  intro x y hx hy hapart
  have hx := of_decide_eq_true (List.mem_filter.mp hx).2
  have hy := of_decide_eq_true (List.mem_filter.mp hy).2
  exact hapart (by rw [hx, hy])

end Companion

/-- The function that an item is, if it is one. -/
def Source.TopLevel.function? : TopLevel → Option Source.Function
  | .ofClass _ => none
  | .ofFunction f => some f
  | .ofProperty _ => none

/-- The functions of a unit, in order. -/
def SourceUnit.functions (u : SourceUnit) : List Source.Function :=
  u.members.filterMap TopLevel.function?

/-- The functions of a unit extend different types. -/
theorem Plan.nodup_receivers {ctx : Context} {u : SourceUnit} (hu : u ∈ submitted (round ctx)) :
    (u.functions.map (·.receiver)).Nodup := by
  obtain ⟨c, hc⟩ := mem_submitted_round.mp hu
  rw [List.Nodup, List.pairwise_map, SourceUnit.functions, List.pairwise_filterMap]
  refine (Companion.pairwise_subject hc).imp ?_
  intro a b hsubject f hf f' hf' hreceiver
  cases a with
  | ofClass _ => cases hf
  | ofProperty _ => cases hf
  | ofFunction _ =>
    cases b with
    | ofClass _ => cases hf'
    | ofProperty _ => cases hf'
    | ofFunction _ =>
      cases hf
      cases hf'
      exact hsubject (congrArg (·.map (·.name)) hreceiver)

/-! ### Names -/

/-- **Denotation.**  A snapshot finds each declaration by its qualified name, and nothing else.  The
    qualified name is the type path in the namespace, the type path means the declaration there,
    and no other declaration has the same two.  So the functions of a unit have different
    receivers. -/
theorem Snapshot.names_denote (s : Snapshot) :
    (∀ name d, s.declaration? name = some d ↔ d ∈ s.declarations ∧ d.name = name) ∧
      (∀ d ∈ s.declarations,
        (d.scope = "" ∧ d.typePath = d.name ∨
          d.scope ≠ "" ∧ d.scope ++ "." ++ d.typePath = d.name) ∧
        ∀ type : TypeExpr, type.name = d.typePath → s.resolve? type d.scope = some d) ∧
      (∀ d ∈ s.declarations, ∀ e ∈ s.declarations, d ≠ e → d.scope = e.scope →
        d.typePath ≠ e.typePath) ∧
      ∀ settings start, ∀ u ∈ Plan.submitted (Plan.round (.of s settings start)),
        (u.functions.map (·.receiver)).Nodup := by
  refine ⟨fun name d => declaration?_eq_some_iff, ?_, ?_, fun settings start u hu =>
    Plan.nodup_receivers hu⟩
  · intro d hd
    constructor
    · have hname := qualify_typePath hd
      unfold Name.qualify at hname
      split at hname
      · next hempty => exact Or.inl ⟨String.isEmpty_iff.mp hempty, hname⟩
      · next hscope => exact Or.inr ⟨fun hempty => hscope (String.isEmpty_iff.mpr hempty), hname⟩
    · intro type htype
      rw [resolve?_eq_some_iff, htype]
      exact standsFor_typePath hd
  · intro d hd e he hne hscope hpath
    exact hne (eq_of_typePath hd he hscope hpath)

/-- A nested declaration whose type path is the qualified name of another one, and a third one with
    an empty namespace. -/
theorem Snapshot.names_denote_nested :
    let inner : Declaration := { name := "a.Outer.User", scope? := some "a", kind := .class_ }
    let other : Declaration := { name := "Outer.User", kind := .class_ }
    let root : Declaration := { name := "Outer.Post", scope? := some "", kind := .class_ }
    ∃ hsound,
      let s : Snapshot := ⟨[inner, other, root], hsound⟩
      s.declaration? "a.Outer.User" = some inner ∧
        (inner ∈ s.declarations ∧ inner.scope ++ "." ++ inner.typePath = inner.name ∧
          s.resolve? (.named "Outer.User") inner.scope = some inner) ∧
        (other ∈ s.declarations ∧ root ∈ s.declarations ∧ other ≠ root) ∧
        ∀ u ∈ Plan.submitted (Plan.round (.of s {} .newYear2024)),
          (u.functions.map (·.receiver)).Nodup := by
  intro inner other root
  have hsound : issues [inner, other, root] = [] := by decide
  obtain ⟨hfound, hnames, -, hreceivers⟩ := names_denote ⟨[inner, other, root], hsound⟩
  obtain ⟨hname, hresolve⟩ := hnames inner List.mem_cons_self
  refine ⟨hsound, (hfound _ _).mpr ⟨List.mem_cons_self, rfl⟩, ⟨List.mem_cons_self, ?_, ?_⟩,
    ⟨by simp, by simp, fun heq => absurd (congrArg (·.name) heq) (by decide)⟩, hreceivers _ _⟩
  · rcases hname with ⟨hempty, -⟩ | ⟨-, hname⟩
    · exact absurd hempty (by decide)
    · exact hname
  · exact hresolve _ (by decide)

end CompanionSource
