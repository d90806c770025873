import CompanionSource.Proofs.Round.Ledger

/-! # What a companion depends on

    A generator reads its declaration, the settings and the provenance of the round.  Of the other
    declarations it sees very little:

    - the generators of **wrappers** and **copies** do not look at them at all;
    - the generator of **nice strings** asks what the types in the constructor mean.

    So a companion is the same over another snapshot in which these types mean the same. -/

namespace CompanionSource

open Source (TopLevel)
open Synthesis (Context Generated TypedParameter)

/-- A parameter of the constructor has this type. -/
def Declaration.Takes (d : Declaration) (type : TypeExpr) : Prop :=
  ∃ ps, d.constructor? = some ps ∧ ∃ p ∈ ps, p.type = .resolved type

/-- In both snapshots the types in the constructor of the declaration mean the same. -/
def Snapshot.Agree (s s' : Snapshot) (d : Declaration) : Prop :=
  ∀ type, d.Takes type → s'.resolve? type d.scope = s.resolve? type d.scope

namespace Synthesis

variable {ctx : Context} {s : Snapshot} {d : Declaration}

/-- The fields that are gone by have types that stand in the constructor. -/
theorem takes_of_constructorFields {directive : Directive} {ts : List TypedParameter}
    (h : constructorFields directive d = .ok ts) {t : TypedParameter} (ht : t ∈ ts) :
    d.Takes t.type :=
  ⟨_, constructor?_of_constructorFields h, t.parameter, List.mem_map_of_mem ht,
    types_of_constructorFields h t ht⟩

theorem fieldValue_congr {scope : String} {t : TypedParameter}
    (h : s.resolve? t.type scope = ctx.snapshot.resolve? t.type scope) :
    fieldValue { ctx with snapshot := s } scope t = fieldValue ctx scope t := by
  have hnested : isNested { ctx with snapshot := s } scope t.type = isNested ctx scope t.type :=
    congrArg (fun e : Option Declaration => e.any (hasText ctx.settings.markerNamespace)) h
  rw [fieldValue, hnested]
  rfl

theorem niceString_congr (h : ctx.snapshot.Agree s d) :
    niceString { ctx with snapshot := s } d = niceString ctx d := by
  unfold niceString
  cases hfields : textFields d with
  | error refusal => rfl
  | ok fields =>
    obtain ⟨ts, hts, -, rfl⟩ := textFields_eq_ok_iff.mp hfields
    have hvalues : ∀ t ∈ ts.filter (·.parameter.isExposed),
        (t.parameter.name, fieldValue { ctx with snapshot := s } d.scope t) =
          (t.parameter.name, fieldValue ctx d.scope t) := by
      intro t ht
      have htakes := takes_of_constructorFields hts (List.mem_of_mem_filter ht)
      rw [fieldValue_congr (h t.type htakes)]
    have htemplate : niceTemplate { ctx with snapshot := s } d (ts.filter (·.parameter.isExposed)) =
        niceTemplate ctx d (ts.filter (·.parameter.isExposed)) := by
      rw [niceTemplate, niceTemplate, List.map_congr_left hvalues]
    simp only [htemplate]

end Synthesis

theorem Companion.generate_congr {ctx : Context} {s : Snapshot} {d : Declaration} (c : Companion)
    (h : ctx.snapshot.Agree s d) :
    c.generate { ctx with snapshot := s } d = c.generate ctx d := by
  cases c with
  | wrapper => rfl
  | copy => rfl
  | niceString => exact congrArg (Except.map _) (Synthesis.niceString_congr h)

end CompanionSource
