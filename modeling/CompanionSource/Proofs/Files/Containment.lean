import CompanionSource.Proofs.Files.Tree
import CompanionSource.Proofs.Round.Collision

/-! # What a round writes, and where

    A round names its units after its declarations. So there are no empty segments in a namespace
    and no dots in the name of a file, and what is known of the paths of such units holds for all
    that a round writes:

    - a unit stays **below** the output directory exactly if none of its parts begins with a `/`;
    - two units that do stay there go to **different places**, unless they have the same names.

    A `/` in the name of a declaration can do harm in both ways. Without one, nothing is written
    elsewhere and nothing is written twice. -/

namespace CompanionSource

open Synthesis (Context)

/-! ### Names of declarations -/

namespace Snapshot

variable {s : Snapshot} {d : Declaration}

/-- No segment of a name is blank. -/
theorem not_isBlankText_of_mem_segments (hd : d ∈ s.declarations) {segment : String}
    (h : segment ∈ Name.segments d.name) : Text.isBlankText segment = false := by
  have hissues := (issues_eq_nil_iff.mp s.sound).2 d hd
  simp only [declarationIssues, List.append_eq_nil_iff, issueIf_eq_nil_iff, List.any_eq_false]
    at hissues
  simpa using hissues.1.1 segment h

/-- The name is the namespace and something more, unless the namespace is empty. -/
theorem scope_eq_empty_or_name_eq (hd : d ∈ s.declarations) :
    d.scope = "" ∨ ∃ rest, d.name = d.scope ++ "." ++ rest := by
  refine (s.within?_scope hd).imp_right ?_
  rintro ⟨rest, hrest⟩
  exact ⟨rest, Name.within?_eq_some_iff.mp hrest⟩

end Snapshot

/-! ### Keys of a round -/

namespace Companion

variable {ctx : Context} {c : Companion} {u : SourceUnit}

/-- The key of a unit is that of some declaration of the snapshot. -/
theorem exists_declaration_of_mem (hu : u ∈ Plan.submitted (c.plan ctx)) :
    ∃ d ∈ ctx.snapshot.declarations, u.key = c.key d := by
  obtain ⟨item, hitem⟩ := List.exists_mem_of_ne_nil u.members u.nonempty
  obtain ⟨d, hd, -, -, hkey, -⟩ := exists_of_mem_members hu hitem
  exact ⟨d, (Snapshot.mem_markedWith_iff.mp hd).1, hkey⟩

/-- The name of a file goes on from a segment of the name, or is fixed. -/
theorem mem_of_mem_file {d : Declaration} {x : Char} (h : x ∈ (c.file d).toList) :
    x.isAlpha ∨ ∃ segment ∈ Name.segments d.name, x ∈ segment.toList := by
  have hfixed (file : String) (hfile : ∀ y ∈ file.toList, y.isAlpha) (h : x ∈ file.toList) :
      x.isAlpha ∨ ∃ segment ∈ Name.segments d.name, x ∈ segment.toList := .inl (hfile x h)
  cases c with
  | wrapper =>
    have hparts : x ∈ d.simpleName.toList ∨ x ∈ "LoggerImpl".toList := by
      simpa [file, Synthesis.wrapperName, String.toList_append] using h
    rcases hparts with h | h
    · exact .inr ⟨_, Name.simple_mem_segments d.name, h⟩
    · exact hfixed _ (List.all_eq_true.mp (by decide)) h
  | copy => exact hfixed Synthesis.copyFile (List.all_eq_true.mp (by decide)) h
  | niceString => exact hfixed Synthesis.niceStringFile (List.all_eq_true.mp (by decide)) h

theorem isProper_key {s : Snapshot} {d : Declaration} (hd : d ∈ s.declarations) :
    (c.key d).IsProper := by
  constructor
  · refine (s.scope_eq_empty_or_name_eq hd).imp_right ?_
    rintro ⟨rest, hname⟩ segment hsegment rfl
    -- An empty segment of the namespace would be one of the name.
    have hmem : "" ∈ Name.segments d.name := by
      rw [hname, Name.segments_dot]
      exact List.mem_append_left _ hsegment
    exact absurd (s.not_isBlankText_of_mem_segments hd hmem) (by decide)
  · intro hdot
    rcases mem_of_mem_file hdot with hdot | ⟨segment, hsegment, hdot⟩
    · exact absurd hdot (by decide)
    · exact Name.dot_not_mem_of_mem_segments hsegment hdot

theorem isFlat_key {s : Snapshot} {d : Declaration} (hd : d ∈ s.declarations)
    (hflat : '/' ∉ d.name.toList) : (c.key d).IsFlat := by
  constructor
  · intro hslash
    rcases s.scope_eq_empty_or_name_eq hd with hempty | ⟨rest, hname⟩
    · have hscope : (c.key d).scope = "" := hempty
      simp [hscope] at hslash
    · refine hflat ?_
      rw [hname]
      simpa [String.toList_append] using .inl hslash
  · intro hslash
    rcases mem_of_mem_file hslash with hslash | ⟨segment, hsegment, hslash⟩
    · exact absurd hslash (by decide)
    · exact hflat (Name.mem_of_mem_segments hsegment hslash)

end Companion

namespace Plan

variable {ctx : Context} {u : SourceUnit}

theorem isProper_of_mem (hu : u ∈ submitted (round ctx)) : u.key.IsProper := by
  obtain ⟨c, hc⟩ := mem_submitted_round.mp hu
  obtain ⟨d, hd, hkey⟩ := Companion.exists_declaration_of_mem hc
  rw [hkey]
  exact Companion.isProper_key hd

theorem isFlat_of_mem (hflat : ∀ d ∈ ctx.snapshot.declarations, '/' ∉ d.name.toList)
    (hu : u ∈ submitted (round ctx)) : u.key.IsFlat := by
  obtain ⟨c, hc⟩ := mem_submitted_round.mp hu
  obtain ⟨d, hd, hkey⟩ := Companion.exists_declaration_of_mem hc
  rw [hkey]
  exact Companion.isFlat_key hd (hflat d hd)

end Plan

/-! ### Written units -/

namespace Files.Target

/-- The directory of a path is there, or it is the one that is named.  Either way no file changes,
    and no directory goes. -/
theorem makeParent_cases (t : Target) (path : String) (tree : Tree) :
    ∃ made, made.files = tree.files ∧
      (∀ p, tree.isDirectory p = true → made.isDirectory p = true) ∧
      (t.makeParent path tree = (.ok (), made) ∨ ∃ directory, parent? path = some directory ∧
        t.makeParent path tree = (.error (.unwritable directory), made)) := by
  unfold makeParent
  cases parent? path with
  | none => exact ⟨tree, rfl, fun p hp => hp, .inl rfl⟩
  | some directory =>
    by_cases hadmits : t.admits directory = true
    · obtain ⟨hfiles, hkept⟩ := tree.makeDirectories_keeps t.home directory
      simp only [hadmits, if_true]
      generalize tree.makeDirectories t.home directory = x at hfiles hkept ⊢
      obtain ⟨all, made⟩ := x
      refine ⟨made, hfiles, hkept, ?_⟩
      cases all with
      | true => exact .inl rfl
      | false => exact .inr ⟨directory, rfl, rfl⟩
    · simp only [hadmits]
      exact ⟨tree, rfl, fun p hp => hp, .inr ⟨directory, rfl, rfl⟩⟩

/-- A unit is written, or the path is named at which this failed: its own, or that of its directory.
    Then no file has changed, and no directory has gone. -/
theorem submit_cases (t : Target) (u : SourceUnit) (o : Output) :
    (∃ tree, t.emitter.submit u o = (.ok (), { tree, written := o.written ++ [t.path u] })) ∨
      ∃ path made, (path = t.path u ∨ parent? (t.path u) = some path) ∧
        made.files = o.tree.files ∧
        (∀ p, o.tree.isDirectory p = true → made.isDirectory p = true) ∧
        t.emitter.submit u o = (.error (.unwritable path), { o with tree := made }) := by
  obtain ⟨made, hfiles, hkept, hmade | ⟨directory, hparent, hmade⟩⟩ :=
    t.makeParent_cases (t.path u) o.tree
  · unfold emitter write
    simp only [hmade]
    cases (if t.admits (t.path u) = true then
        made.writeAt? t.home (t.path u) (u.text t.step) else none) with
    | none => exact .inr ⟨t.path u, made, .inl rfl, hfiles, hkept, rfl⟩
    | some tree => exact .inl ⟨tree, rfl⟩
  · unfold emitter write
    simp only [hmade]
    exact .inr ⟨directory, made, .inr hparent, hfiles, hkept, rfl⟩

/-- What is written at the end of a plan comes from units of the plan that were taken, in order. -/
theorem exists_perform_written (t : Target) (plan : List Action) (r : Round Output) :
    ∃ us : List SourceUnit, us.Sublist (Plan.submitted plan) ∧
      (Round.perform t.emitter plan r).2.units = r.units ++ us.map (·.key) ∧
      (Round.perform t.emitter plan r).2.emitter.written = r.emitter.written ++ us.map t.path := by
  induction plan generalizing r with
  | nil => exact ⟨[], List.Sublist.refl _, by simp [Round.perform], by simp [Round.perform]⟩
  | cons action plan ih =>
    rw [Plan.submitted_cons]
    cases action with
    | report symbol refusal =>
      have hreport := Round.adds_report r symbol refusal
      rw [Round.perform, Action.units, List.nil_append]
      obtain ⟨us, hus, hunits, hwritten⟩ := ih (r.report symbol refusal)
      rw [hreport.units] at hunits
      rw [hreport.emitter] at hwritten
      exact ⟨us, hus, hunits, hwritten⟩
    | warn symbol message =>
      rw [Round.perform, Action.units, List.nil_append]
      exact ih (r.warn symbol message)
    | submit unit =>
      rw [Round.perform]
      by_cases hhanded : unit.key ∈ r.handed
      · rw [Round.submit_of_handed hhanded]
        exact ⟨[], List.nil_sublist _, by simp, by simp⟩
      rcases t.submit_cases unit r.emitter with ⟨tree, hsubmit⟩ | ⟨_, _, -, -, -, hsubmit⟩
      · rw [Round.submit_of_taken hhanded hsubmit]
        obtain ⟨us, hus, hunits, hwritten⟩ := ih
          { r with
            handed := unit.key :: r.handed
            units := r.units ++ [unit.key]
            emitter := { tree, written := r.emitter.written ++ [t.path unit] } }
        refine ⟨unit :: us, hus.cons_cons unit, ?_, ?_⟩
        · rw [hunits]
          simp
        · rw [hwritten]
          simp
      · -- The round ends here, and no path has been added.
        rw [Round.submit_of_refused hhanded hsubmit]
        exact ⟨[], List.nil_sublist _, by simp, by simp⟩

end Files.Target

/-! ### Whole rounds -/

namespace Round

open Files (IsBelow Output Target)

/-- The round at its end is that after its plan, however it ends. -/
theorem exists_run_eq {σ : Type} (e : Emitter σ) {settings : Settings} (snapshot : Snapshot)
    (start : Moment) (state : σ) (hsettings : settings.faults = []) :
    ∃ outcome, run e snapshot settings start state =
      (outcome, (perform e (Plan.round (.of snapshot settings start)) { emitter := state }).2) := by
  cases hperform : perform e (Plan.round (.of snapshot settings start)) { emitter := state } with
  | mk verdict r =>
    cases verdict with
    | ok => exact ⟨_, run_of_perform_ok hsettings hperform⟩
    | error error => exact ⟨_, run_of_perform_error hsettings hperform⟩

/-- **Contained and apart.**  With a usable extension, a round writes the paths of its units, each
    key once.  A unit stays below the output directory, whatever that is, if and only if it is not
    anchored.  Two units that stay there go to the same place if and only if they have the same
    names, which without a `/` in them only one unit has. -/
theorem run_contained_iff (target : Target) {settings : Settings} (snapshot : Snapshot)
    (start : Moment) (o : Output) (hsettings : settings.faults = [])
    (hextension : target.extension = settings.fileExtension) :
    ∃ outcome r,
      run target.emitter snapshot settings start o = (outcome, r) ∧
      r.emitter.written = o.written ++ r.units.map target.pathOf ∧
      r.units.Nodup ∧
      (∀ k ∈ r.units, (∀ root, IsBelow (({ target with root } : Target).destination k)
        ({ target with root } : Target).place) ↔ ¬k.IsAnchored) ∧
      (∀ k ∈ r.units, ∀ k' ∈ r.units, ¬k.IsAnchored → ¬k'.IsAnchored →
        (target.destination k = target.destination k' ↔
          k.names target.extension = k'.names target.extension)) ∧
      ∀ k ∈ r.units, ∀ k' ∈ r.units, k.IsFlat → k'.IsFlat → k ≠ k' →
        target.destination k ≠ target.destination k' := by
  have hvalid : UnitKey.IsExtension target.extension := by
    rw [hextension]
    exact UnitKey.isExtension_of_settings hsettings
  obtain ⟨outcome, hrun⟩ := exists_run_eq target.emitter snapshot start o hsettings
  obtain ⟨us, hus, hunits, hwritten⟩ := target.exists_perform_written
    (Plan.round (.of snapshot settings start)) { emitter := o }
  rw [List.nil_append] at hunits
  -- The units that were taken are some of the planned ones, which declarations gave their names.
  have hproper : ∀ k ∈ us.map (·.key), k.IsProper := by
    intro k hk
    obtain ⟨u, hu, rfl⟩ := List.mem_map.mp hk
    exact Plan.isProper_of_mem (hus.subset hu)
  have hpaths : us.map target.path = (us.map (·.key)).map target.pathOf := by
    rw [List.map_map]
    refine List.map_congr_left fun u _ => ?_
    rw [target.path_eq u, Function.comp_apply]
  refine ⟨outcome, _, hrun, ?_⟩
  rw [hunits]
  refine ⟨hwritten.trans (by rw [hpaths]), ?_, ?_, ?_, ?_⟩
  · exact (Plan.nodup_keys_round (.of snapshot settings start)).sublist (hus.map (·.key))
  · exact fun k hk => Target.isBelow_iff (hproper k hk) hvalid
  · exact fun k hk k' hk' => Target.destination_eq_iff (hproper k hk) (hproper k' hk') hvalid
  · intro k hk k' hk' hflat hflat' hne hsame
    exact hne <|
      Target.eq_of_destination_eq (hproper k hk) (hproper k' hk') hvalid hflat hflat' hsame

/-- Two namespaces, one of them with a `/` in a segment, and an output directory in the home
    directory. -/
theorem run_contained_iff_two_namespaces :
    let parameter : Declared.ConstructorParameter :=
      { name := "name", type := .resolved (.named "String"), binding := .val }
    let copied (name : String) : Declaration :=
      { name
        kind := .class_
        constructor? := some [parameter]
        annotations := [{ name := "Copy" }] }
    let declarations : List Declaration := [copied "a.User", copied "b/c.Post"]
    let target : Target := { home := ["work"], root := "out", extension := "kt", step := 4 }
    let settings : Settings := {}
    settings.faults = [] ∧ target.extension = settings.fileExtension ∧
      ∃ hsound, ∃ outcome r,
        run target.emitter ⟨declarations, hsound⟩ settings .newYear2024 { tree := {} } =
          (outcome, r) ∧
        r.emitter.written = r.units.map target.pathOf ∧ r.units.Nodup ∧
        (∀ k ∈ r.units, (∀ root, IsBelow (({ target with root } : Target).destination k)
          ({ target with root } : Target).place) ↔ ¬k.IsAnchored) ∧
        (∀ k ∈ r.units, ∀ k' ∈ r.units, ¬k.IsAnchored → ¬k'.IsAnchored →
          (target.destination k = target.destination k' ↔
            k.names target.extension = k'.names target.extension)) ∧
        ∀ k ∈ r.units, ∀ k' ∈ r.units, k.IsFlat → k'.IsFlat → k ≠ k' →
          target.destination k ≠ target.destination k' := by
  intro parameter copied declarations target settings
  have hsettings : settings.faults = [] := by decide
  have hsound : Snapshot.issues declarations = [] := by decide
  exact ⟨hsettings, rfl, hsound,
    run_contained_iff target ⟨declarations, hsound⟩ .newYear2024 { tree := {} } hsettings rfl⟩

/-- A `/` in names.  The second unit overwrites the first, and the third is written outside the
    output directory. -/
theorem run_overwrites_and_escapes :
    let parameter : Declared.ConstructorParameter :=
      { name := "name", type := .resolved (.named "String"), binding := .val }
    let copied (name : String) : Declaration :=
      { name
        kind := .class_
        constructor? := some [parameter]
        annotations := [{ name := "Copy" }] }
    let declarations : List Declaration :=
      [copied "a/b.User", copied "a.b.Post", copied "a./c.Late"]
    let target : Target := { home := ["work"], root := "out", extension := "kt", step := 4 }
    ∃ hsound,
      let r := (run target.emitter ⟨declarations, hsound⟩ {} .newYear2024 { tree := {} }).2
      r.units = [⟨"a/b", "CopyExtension"⟩, ⟨"a.b", "CopyExtension"⟩, ⟨"a./c", "CopyExtension"⟩] ∧
      r.emitter.written =
        ["out/a/b/CopyExtension.kt", "out/a/b/CopyExtension.kt", "/c/CopyExtension.kt"] ∧
      r.emitter.tree.files.map Prod.fst =
        [["work", "out", "a", "b", "CopyExtension.kt"], ["c", "CopyExtension.kt"]] ∧
      ¬IsBelow (target.destination ⟨"a./c", "CopyExtension"⟩) target.place := by
  refine ⟨by decide +kernel, by decide +kernel, by decide +kernel, by decide +kernel, ?_⟩
  rintro ⟨hbegins, -⟩
  exact absurd hbegins (by decide +kernel)

end Round

end CompanionSource
