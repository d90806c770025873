import CompanionSource.Proofs.Round.Ledger

/-! # A round does not collide with itself

    An emitter may refuse a unit because it has taken one with the same key.  This never ends a
    round, whatever the declarations are named, because no key comes twice in its plan:

    - **among wrappers** the table of claims keeps the keys apart;
    - **among extension functions** each namespace has one unit;
    - **between companions** the names of the files differ, since no name of a wrapper is the
      fixed name of a file of extension functions.

    All that is emitted carries the provenance of the round. -/

namespace CompanionSource

open Source (TopLevel)
open Synthesis (Context Generated)

namespace Companion

/-! ### Files -/

/-- The name of a wrapper ends in its suffix. -/
theorem getLast?_wrapperName (d : Declaration) :
    (Synthesis.wrapperName d).toList.getLast? = some 'l' := by
  simp [Synthesis.wrapperName, String.toList_append]

/-- No two companions go into one file. -/
theorem file_ne {c c' : Companion} (h : c ≠ c') (d e : Declaration) : c.file d ≠ c'.file e := by
  have hwrapper : ∀ (x : Declaration) (file : String), file.toList.getLast? ≠ some 'l' →
      Synthesis.wrapperName x ≠ file := by
    intro x file hlast heq
    exact hlast (heq ▸ getLast?_wrapperName x)
  have hcopy : Synthesis.copyFile.toList.getLast? ≠ some 'l' := by decide
  have hniceString : Synthesis.niceStringFile.toList.getLast? ≠ some 'l' := by decide
  have hfixed : Synthesis.copyFile ≠ Synthesis.niceStringFile := by decide
  cases c with
  | wrapper =>
    cases c' with
    | wrapper => exact absurd rfl h
    | copy => exact hwrapper d _ hcopy
    | niceString => exact hwrapper d _ hniceString
  | copy =>
    cases c' with
    | wrapper => exact (hwrapper e _ hcopy).symm
    | copy => exact absurd rfl h
    | niceString => exact hfixed
  | niceString =>
    cases c' with
    | wrapper => exact (hwrapper e _ hniceString).symm
    | copy => exact hfixed.symm
    | niceString => exact absurd rfl h

/-- The key of a unit is that of some declaration. -/
theorem exists_key_of_mem {ctx : Context} {c : Companion} {u : SourceUnit}
    (hu : u ∈ Plan.submitted (c.plan ctx)) : ∃ d, u.key = c.key d := by
  obtain ⟨item, hitem⟩ := List.exists_mem_of_ne_nil u.members u.nonempty
  obtain ⟨d, -, g, -, hkey, -⟩ := exists_of_mem_members hu hitem
  exact ⟨d, hkey⟩

/-- The units of two companions have different keys, even in two rounds. -/
theorem key_ne_of_mem {ctx ctx' : Context} {c c' : Companion} (h : c ≠ c') {u v : SourceUnit}
    (hu : u ∈ Plan.submitted (c.plan ctx)) (hv : v ∈ Plan.submitted (c'.plan ctx')) :
    u.key ≠ v.key := by
  obtain ⟨d, hd⟩ := exists_key_of_mem hu
  obtain ⟨e, he⟩ := exists_key_of_mem hv
  rw [hd, he]
  intro heq
  exact file_ne h d e (congrArg UnitKey.file heq)

end Companion

/-! ### Whole rounds -/

namespace Plan

theorem submitted_round (ctx : Context) :
    submitted (round ctx) =
      submitted (Companion.wrapper.plan ctx) ++ submitted (Companion.copy.plan ctx) ++
        submitted (Companion.niceString.plan ctx) := by
  rw [round, submitted_append, submitted_append]
  rfl

theorem reported_round (ctx : Context) :
    reported (round ctx) =
      reported (Companion.wrapper.plan ctx) ++ reported (Companion.copy.plan ctx) ++
        reported (Companion.niceString.plan ctx) := by
  rw [round, reported_append, reported_append]
  rfl

/-- Each unit of a round belongs to one companion. -/
theorem mem_submitted_round {ctx : Context} {u : SourceUnit} :
    u ∈ submitted (round ctx) ↔ ∃ c : Companion, u ∈ submitted (c.plan ctx) := by
  rw [submitted_round, List.mem_append, List.mem_append, or_assoc]
  constructor
  · rintro (h | h | h)
    · exact ⟨.wrapper, h⟩
    · exact ⟨.copy, h⟩
    · exact ⟨.niceString, h⟩
  · intro h
    obtain ⟨c, hc⟩ := h
    cases c with
    | wrapper => exact Or.inl hc
    | copy => exact Or.inr (Or.inl hc)
    | niceString => exact Or.inr (Or.inr hc)

/-- No key comes twice in a round. -/
theorem nodup_keys_round (ctx : Context) : ((submitted (round ctx)).map (·.key)).Nodup := by
  have happart : ∀ c c' : Companion, c ≠ c' →
      List.Disjoint ((submitted (c.plan ctx)).map (·.key))
        ((submitted (c'.plan ctx)).map (·.key)) := by
    intro c c' hne k hk hk'
    obtain ⟨u, hu, rfl⟩ := List.mem_map.mp hk
    obtain ⟨v, hv, heq⟩ := List.mem_map.mp hk'
    exact Companion.key_ne_of_mem hne hu hv heq.symm
  rw [submitted_round, List.map_append, List.map_append]
  refine List.Nodup.append (List.Nodup.append ?_ ?_ ?_) ?_ ?_
  · exact Companion.nodup_keys ctx .wrapper
  · exact Companion.nodup_keys ctx .copy
  · exact happart .wrapper .copy (by decide)
  · exact Companion.nodup_keys ctx .niceString
  · rw [List.disjoint_append_left]
    exact ⟨happart .wrapper .niceString (by decide), happart .copy .niceString (by decide)⟩

end Plan

/-- The unit has something in it, and gives the provenance of a round at this moment.  So does
    each declaration in it, by its only annotation. -/
structure SourceUnit.IsMarked (settings : Settings) (moment : Moment) (u : SourceUnit) : Prop where
  filled : u.members ≠ []
  provenance : u.provenance =
    { generator := settings.generator
      moment
      comment := settings.originComment
      type := settings.provenanceType }
  marked : ∀ item ∈ u.members, item.annotations = [u.provenance.mark]

theorem Plan.isMarked_of_mem {snapshot : Snapshot} {settings : Settings} {start : Moment}
    {u : SourceUnit} (hu : u ∈ submitted (round (.of snapshot settings start))) :
    u.IsMarked settings (settings.timestamp.getD start) := by
  obtain ⟨c, hc⟩ := mem_submitted_round.mp hu
  have hprovenance := (Companion.plan_follows _ c).provenance u hc
  refine ⟨u.nonempty, hprovenance, ?_⟩
  intro item hitem
  obtain ⟨d, -, g, hg, -, rfl⟩ := Companion.exists_of_mem_members hc hitem
  rw [(Companion.item_of_generate hg).2, hprovenance]

/-- **No collision.**  With an emitter that refuses only what it was handed before, a round
    succeeds.  It has emitted units with distinct keys, none of them empty, and all of them with
    the provenance of the round. -/
theorem Round.run_never_collides {σ : Type} {e : Emitter σ} {state : σ} {settings : Settings}
    (snapshot : Snapshot) (start : Moment) (hsettings : settings.faults = [])
    (he : e.RefusesOnlyRepeats state) :
    ∃ report r units,
      run e snapshot settings start state = (.ok report, r) ∧
      r.emitter = e.after units state ∧
      report.units = units.map (·.key) ∧
      (units.map (·.key)).Nodup ∧
      report.moment = settings.timestamp.getD start ∧
      ∀ u ∈ units, u.IsMarked settings report.moment := by
  have hkeys := Plan.nodup_keys_round (.of snapshot settings start)
  obtain ⟨r, hrun, hdone⟩ := exists_run_eq_ok hsettings he hkeys
  refine ⟨_, r, _, hrun, hdone.emitter, hdone.taken, hkeys, rfl, ?_⟩
  intro u hu
  exact Plan.isMarked_of_mem hu

/-- Two declarations with wrappers of one name, one of them nested, and a declaration with two
    functions. -/
theorem Round.run_never_collides_clashing_wrappers :
    let loggable : Declared.Annotation := { name := "Loggable" }
    let declarations : List Declaration :=
      [{ name := "a.Api", kind := .interface, annotations := [loggable] },
        { name := "a.Outer.Api", scope? := some "a", kind := .interface,
          annotations := [loggable] },
        { name := "a.CopyExtension", kind := .class_,
          constructor? :=
            some [{ name := "name", type := .resolved (.named "String"), binding := .val }],
          annotations := [{ name := "Copy" }, { name := "ToNiceString" }] }]
    let settings : Settings := {}
    settings.faults = [] ∧ Memory.emitter.RefusesOnlyRepeats {} ∧
      ∃ hsound, ∃ report r units,
        run Memory.emitter ⟨declarations, hsound⟩ settings .newYear2024 {} = (.ok report, r) ∧
        r.emitter = Memory.emitter.after units {} ∧
        report.units = units.map (·.key) ∧
        (units.map (·.key)).Nodup ∧
        report.moment = settings.timestamp.getD .newYear2024 ∧
        ∀ u ∈ units, u.IsMarked settings report.moment := by
  intro loggable declarations settings
  have hsettings : settings.faults = [] := by decide
  have hsound : Snapshot.issues declarations = [] := by decide
  exact ⟨hsettings, Memory.refusesOnlyRepeats, hsound,
    run_never_collides ⟨declarations, hsound⟩ .newYear2024 hsettings Memory.refusesOnlyRepeats⟩

end CompanionSource
