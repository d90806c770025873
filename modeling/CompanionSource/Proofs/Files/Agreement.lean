import CompanionSource.Proofs.Files.Containment
import CompanionSource.Proofs.Files.Tree

/-! # Files and memory agree

    Units in memory are told apart by their labels, and files by their places.  If no name has a `/`
    in it, both come to the same, and a round into an empty output directory goes as a round into
    memory.

    The invariant is what the tree holds after some units were **written**: the files of these units
    with their texts, the directories on the way to them, and what was there before.  Another unit
    can be written then, because

    - no other unit goes to its **place**;
    - no file is in its **way**, and no directory in its place: a name with a dot is that of a file,
      and the name of a directory has none. -/

namespace CompanionSource

/-! ### Plain keys -/

/-- The key of a unit with no `/` in its names. -/
structure UnitKey.IsPlain (k : UnitKey) : Prop where
  proper : k.IsProper
  flat : k.IsFlat

namespace UnitKey.IsPlain

open Files (Target)

variable {t : Target} {k k' : UnitKey} (hextension : IsExtension t.extension)

theorem names_eq (h : k.IsPlain) {extension : String} (hextension : IsExtension extension) :
    k.names extension = k.directories ++ [k.file ++ "." ++ extension] :=
  h.flat.names_eq hextension

/-- The label of a unit tells its key. -/
theorem eq_of_label_eq (h : k.IsPlain) (h' : k'.IsPlain) (heq : k.label = k'.label) : k = k' := by
  -- The only `/` in a label is the one between the namespace and the file.
  have hsplit {k : UnitKey} (h : k.IsPlain) :
      k.label.toList.splitOn '/' = [k.scope.toList, k.file.toList] := by
    have hchars : k.label.toList = k.scope.toList ++ '/' :: k.file.toList := by
      simp [label, String.toList_append]
    rw [hchars, List.splitOn_append_cons_self_of_not_mem h.flat.scope,
      List.splitOn_eq_singleton h.flat.file]
  have hparts := hsplit h
  rw [heq, hsplit h'] at hparts
  simp only [List.cons.injEq, String.toList_inj, and_true] at hparts
  cases k
  cases k'
  exact congrArg₂ UnitKey.mk hparts.1.symm hparts.2.symm

/-- Plain keys have different labels. -/
theorem nodup_labels {ks : List UnitKey} (hks : ∀ k ∈ ks, k.IsPlain) (hkeys : ks.Nodup) :
    (ks.map label).Nodup :=
  List.Nodup.map_on (fun k hk k' hk' => (hks k hk).eq_of_label_eq (hks k' hk')) hkeys

include hextension

theorem destination_eq (h : k.IsPlain) :
    t.destination k = t.place ++ (k.directories ++ [k.file ++ "." ++ t.extension]) := by
  rw [Target.destination_eq h.proper hextension h.flat.not_isAnchored, h.names_eq hextension]

theorem eq_of_destination_eq (h : k.IsPlain) (h' : k'.IsPlain)
    (heq : t.destination k = t.destination k') : k = k' :=
  Target.eq_of_destination_eq h.proper h'.proper hextension h.flat h'.flat heq

/-- Plain keys have different places. -/
theorem nodup_destinations {ks : List UnitKey} (hks : ∀ k ∈ ks, k.IsPlain) (hkeys : ks.Nodup) :
    (ks.map t.destination).Nodup :=
  List.Nodup.map_on (fun k hk k' hk' => (hks k hk).eq_of_destination_eq hextension (hks k' hk'))
    hkeys

/-- A unit goes below the output directory. -/
theorem isBelow (h : k.IsPlain) : Files.IsBelow (t.destination k) t.place := by
  rw [h.destination_eq hextension]
  exact ⟨List.prefix_append _ _, by simp⟩

/-- No unit goes where another one has a directory. -/
theorem destination_ne (h : k.IsPlain) {way : List String} (hway : way <+: k'.directories) :
    t.destination k ≠ t.place ++ way := by
  rw [h.destination_eq hextension]
  intro heq
  have hfile : k.file ++ "." ++ t.extension ∈ k'.directories := by
    refine hway.subset ?_
    rw [← List.append_cancel_left heq]
    simp
  have hdot := Name.dot_not_mem_of_mem_segments (List.mem_filter.mp hfile).1
  simp at hdot

end UnitKey.IsPlain

/-! ### Written units -/

namespace Files.Target

open UnitKey (IsExtension)

/-- The output directory is there, and nothing is in it. -/
structure IsReady (t : Target) (tree : Tree) : Prop where
  walk : tree.walk? (start t.home t.root) (steps t.root) = some t.place
  isDirectory : tree.isDirectory t.place = true
  noDirectory : ∀ p, IsBelow p t.place → tree.isDirectory p = false
  noFile : ∀ p, IsBelow p t.place → tree.file? p = none

/-- The output after these units were written, one after another, into this tree. -/
structure HasWritten (t : Target) (tree : Tree) (us : List SourceUnit) (o : Output) : Prop where
  written : o.written = us.map t.path
  file : ∀ p text, o.tree.file? p = some text ↔
    (∃ u ∈ us, t.destination u.key = p ∧ u.text t.step = text) ∨ tree.file? p = some text
  directory : ∀ p, o.tree.isDirectory p = true ↔ tree.isDirectory p = true ∨
    ∃ u ∈ us, ∃ way, way ≠ [] ∧ way <+: u.key.directories ∧ p = t.place ++ way

section written
variable {t : Target} {tree : Tree} {us : List SourceUnit} {o : Output} {u : SourceUnit}
  (hextension : IsExtension t.extension) (hready : t.IsReady tree)
  (hadmits : ∀ path, t.admits path = true)

theorem hasWritten_start (t : Target) (tree : Tree) : t.HasWritten tree [] { tree } :=
  ⟨rfl, by simp, by simp⟩

include hextension hready in
/-- There is no file in the way of a unit. -/
theorem HasWritten.way_free (h : t.HasWritten tree us o) (hus : ∀ v ∈ us, v.key.IsPlain)
    {k : UnitKey} {way : List String} (hsome : way ≠ []) (hway : way <+: k.directories) :
    o.tree.file? (t.place ++ way) = none := by
  refine Option.eq_none_iff_forall_ne_some.mpr fun text htext => ?_
  rcases (h.file _ _).mp htext with ⟨v, hv, hplace, -⟩ | hbefore
  · exact (hus v hv).destination_ne hextension hway hplace
  · rw [hready.noFile _ ⟨List.prefix_append _ _, by simpa using hsome⟩] at hbefore
    cases hbefore

include hextension hready in
/-- There is neither a file nor a directory in the place of a new unit. -/
theorem HasWritten.place_free (h : t.HasWritten tree us o) (hus : ∀ v ∈ us, v.key.IsPlain)
    (hu : u.key.IsPlain) (hnew : u.key ∉ us.map (·.key)) :
    o.tree.file? (t.destination u.key) = none ∧
      o.tree.isDirectory (t.destination u.key) = false := by
  have hbelow := hu.isBelow hextension
  constructor
  · refine Option.eq_none_iff_forall_ne_some.mpr fun text htext => ?_
    rcases (h.file _ _).mp htext with ⟨v, hv, hplace, -⟩ | hbefore
    · have hkey := (hus v hv).eq_of_destination_eq hextension hu hplace
      exact hnew (hkey ▸ List.mem_map_of_mem hv)
    · rw [hready.noFile _ hbelow] at hbefore
      cases hbefore
  · rw [← Bool.not_eq_true, h.directory, hready.noDirectory _ hbelow]
    rintro (hbefore | ⟨v, -, way, -, hway, hplace⟩)
    · cases hbefore
    · exact hu.destination_ne hextension hway hplace

include hadmits in
/-- A unit is written if its file can be put at its path. -/
theorem submit_of_put? {next : Tree}
    (hput : o.tree.put? t.home (t.path u) (u.text t.step) = some next) :
    t.emitter.submit u o = (.ok (), { tree := next, written := o.written ++ [t.path u] }) := by
  rw [Tree.put?, Option.bind_eq_some_iff] at hput
  obtain ⟨directory, hparent, hput⟩ := hput
  rw [Option.bind_eq_some_iff] at hput
  obtain ⟨made, hmade, hwrite⟩ := hput
  have hmakes : o.tree.makeDirectories t.home directory = (true, made) := by
    unfold Tree.makeDirectories? at hmade
    split at hmade
    · cases hmade
    · next heq => rw [heq, Option.some.inj hmade]
  unfold emitter write makeParent
  simp only [hparent, hadmits, if_true, hmakes, hwrite]

include hextension hready hadmits in
/-- A new unit is written, and is all that changes. -/
theorem HasWritten.submit (h : t.HasWritten tree us o) (hus : ∀ v ∈ us, v.key.IsPlain)
    (hu : u.key.IsPlain) (hnew : u.key ∉ us.map (·.key)) :
    ∃ next, t.emitter.submit u o = (.ok (), next) ∧ t.HasWritten tree (us ++ [u]) next := by
  obtain ⟨hstart, hsteps⟩ := steps_pathOf (t := t) hextension hu.flat.not_isAnchored
  rw [hu.names_eq hextension] at hsteps
  have hkept (q : Place) (hq : tree.isDirectory q = true) : o.tree.isDirectory q = true :=
    (h.directory q).mpr (.inl hq)
  have hroot : tree.walk? (start t.home (t.pathOf u.key)) (names t.root) = some t.place := by
    rw [hstart]
    exact Tree.walk?_names hready.walk
  have hleads := hu.proper.leads hextension
  rw [hu.names_eq hextension] at hleads
  obtain ⟨hfile, hdirectory⟩ := h.place_free hextension hready hus hu hnew
  -- The invariant speaks of the destination, and writing of the way to it and the name at its end.
  rw [hu.destination_eq hextension] at hfile hdirectory
  obtain ⟨made, hmade, hfiles, hdirectories⟩ := Tree.exists_put? hsteps hkept hroot
    hready.isDirectory hleads (fun way hsome hway => h.way_free hextension hready hus hsome hway)
    (u.text t.step) hdirectory hfile
  refine ⟨{ tree := made, written := o.written ++ [t.path u] }, ?_, ?_, ?_, ?_⟩
  · rw [← path_eq] at hmade
    exact submit_of_put? hadmits hmade
  · rw [h.written, List.map_append, List.map_singleton]
  · intro p text
    rw [← hu.destination_eq hextension] at hfiles hfile
    have hlast : ((∃ v ∈ us ++ [u], t.destination v.key = p ∧ v.text t.step = text) ∨
        tree.file? p = some text) ↔
        o.tree.file? p = some text ∨ (t.destination u.key = p ∧ u.text t.step = text) := by
      rw [h.file]
      simp only [List.mem_append, List.mem_singleton, or_and_right, exists_or, exists_eq_left]
      exact or_right_comm
    rw [hlast, hfiles]
    by_cases hp : p = t.destination u.key
    · simp [hp, hfile]
    · simp [hp, Ne.symm hp]
  · intro p
    rw [hdirectories, h.directory, or_assoc]
    simp only [List.mem_append, List.mem_singleton, or_and_right, exists_or, exists_eq_left]

include hextension hready hadmits in
/-- Units with distinct keys are all written. -/
theorem hasWritten_after (hus : ∀ v ∈ us, v.key.IsPlain) (hkeys : (us.map (·.key)).Nodup) :
    t.HasWritten tree us (t.emitter.after us { tree }) := by
  induction us using List.reverseRecOn with
  | nil => exact hasWritten_start t tree
  | append_singleton us u ih =>
    obtain ⟨hbefore, hu⟩ := List.forall_mem_append.mp hus
    rw [List.map_append, List.map_singleton, List.nodup_append] at hkeys
    have hnew : u.key ∉ us.map (·.key) := fun hmem => hkeys.2.2 _ hmem _ (by simp) rfl
    obtain ⟨next, hnext, hwritten⟩ := (ih hbefore hkeys.1).submit hextension hready hadmits hbefore
      (hu u List.mem_cons_self) hnew
    rw [Emitter.after_concat, hnext]
    exact hwritten

include hextension hready hadmits in
/-- The emitter of files takes units with distinct keys. -/
theorem takesAll (hus : ∀ v ∈ us, v.key.IsPlain) (hkeys : (us.map (·.key)).Nodup) :
    t.emitter.TakesAll { tree } us := by
  rintro before u later rfl
  obtain ⟨hbefore, hrest⟩ := List.forall_mem_append.mp hus
  rw [List.map_append, List.nodup_append] at hkeys
  have hnew : u.key ∉ before.map (·.key) := fun hmem => hkeys.2.2 _ hmem _ List.mem_cons_self rfl
  obtain ⟨next, hnext, -⟩ := (hasWritten_after hextension hready hadmits hbefore hkeys.1).submit
    hextension hready hadmits hbefore (hrest u List.mem_cons_self) hnew
  exact congrArg Prod.fst hnext

end written

end Files.Target

/-! ### Units in memory -/

namespace Memory

/-- Units with distinct keys are all kept. -/
theorem units_after {us : List SourceUnit} (hkeys : (us.map (·.key)).Nodup) :
    (emitter.after us {}).units = us := by
  induction us using List.reverseRecOn with
  | nil => rfl
  | append_singleton us u ih =>
    rw [List.map_append, List.map_singleton, List.nodup_append] at hkeys
    have hnew : u.key ∉ us.map (·.key) := fun hmem => hkeys.2.2 _ hmem _ (by simp) rfl
    have htaken : (emitter.submit u (emitter.after us {})).1 = .ok () :=
      refusesOnlyRepeats us u hnew
    rw [Emitter.after_concat]
    dsimp only [emitter] at htaken ⊢
    split at htaken
    · cases htaken
    · rename_i hfree
      rw [if_neg hfree]
      exact congrArg (· ++ [u]) (ih hkeys.1)

theorem lookup_put (entries : List (String × String)) (label text l : String) :
    (put entries label text).lookup l = if l = label then some text else entries.lookup l := by
  have hothers (hl : l ≠ label) :
      (entries.filter fun e => e.1 != label).lookup l = entries.lookup l := by
    induction entries with
    | nil => rfl
    | cons entry entries ih =>
      obtain ⟨key, value⟩ := entry
      rw [List.filter_cons, List.lookup_cons]
      by_cases hkey : key = label
      · have hne : (l == key) = false := by simpa [hkey] using hl
        rw [hne, if_neg (by simpa using hkey)]
        exact ih
      · rw [if_pos (by simpa using hkey), List.lookup_cons, ih]
  have hnone : (entries.filter fun e => e.1 != label).lookup label = none := by
    rw [List.lookup_eq_none_iff]
    intro entry hentry
    have hother : entry.1 ≠ label := by simpa using (List.mem_filter.mp hentry).2
    simpa using hother.symm
  rw [put, List.lookup_append]
  by_cases hl : l = label
  · simp [hl, hnone]
  · have hne : (l == label) = false := by simpa using hl
    simp [hl, hothers hl, List.lookup_cons, hne]

/-- With distinct labels, each unit is found by its own. -/
theorem lookup_sources {m : Memory}
    (hlabels : ((m.units.map (·.key)).map UnitKey.label).Nodup) (step : Nat) {u : SourceUnit}
    (hu : u ∈ m.units) :
    (sources step m).lookup u.key.label = some (u.text step) := by
  unfold sources
  generalize m.units = us at hlabels hu
  induction us using List.reverseRecOn with
  | nil => cases hu
  | append_singleton us v ih =>
    rw [List.map_append, List.map_append, List.nodup_append] at hlabels
    rw [List.foldl_concat, lookup_put]
    rcases List.mem_append.mp hu with hu | hu
    · have hother : u.key.label ≠ v.key.label :=
        hlabels.2.2 _ (List.mem_map_of_mem (List.mem_map_of_mem hu)) _ List.mem_cons_self
      rw [if_neg hother, ih hlabels.1 hu]
    · rw [List.mem_singleton.mp hu, if_pos rfl]

end Memory

/-! ### Whole rounds -/

namespace Round

open Files (IsBelow Target Tree)

/-- **Files and memory agree.**  With settings that can be used, no `/` in a declared name and
    nothing in the output directory, a round that writes files does not fail, and neither does a
    round that keeps its units in memory.  Both report the same.  The paths written are those of the
    units reported, in this order, and no two of them lead to one place.  Below the output directory
    there are then the files of these units and no others, each with the text that the memory has
    under its label.  Elsewhere no file has changed. -/
theorem run_files_as_memory (target : Target) {settings : Settings} (snapshot : Snapshot)
    (start : Moment) {tree : Tree} (hsettings : settings.faults = [])
    (hnames : ∀ d ∈ snapshot.declarations, '/' ∉ d.name.toList)
    (hextension : target.extension = settings.fileExtension)
    (hstep : target.step = settings.indentWidth) (hadmits : ∀ path, target.admits path = true)
    (hready : target.IsReady tree) :
    ∃ report r m,
      run target.emitter snapshot settings start { tree } = (.ok report, r) ∧
      run Memory.emitter snapshot settings start {} = (.ok report, m) ∧
      r.emitter.written = report.units.map target.pathOf ∧
      (report.units.map target.destination).Nodup ∧
      (∀ k ∈ report.units, IsBelow (target.destination k) target.place ∧
        ∃ text, r.emitter.tree.file? (target.destination k) = some text ∧
          (Memory.sources settings.indentWidth m.emitter).lookup k.label = some text) ∧
      (∀ p, IsBelow p target.place → (r.emitter.tree.file? p).isSome →
        ∃ k ∈ report.units, target.destination k = p) ∧
      ∀ p, ¬IsBelow p target.place → r.emitter.tree.file? p = tree.file? p := by
  have hvalid : UnitKey.IsExtension target.extension := by
    rw [hextension]
    exact UnitKey.isExtension_of_settings hsettings
  have hkeys := Plan.nodup_keys_round (.of snapshot settings start)
  have hplain (u : SourceUnit)
      (hu : u ∈ Plan.submitted (Plan.round (.of snapshot settings start))) : u.key.IsPlain :=
    ⟨Plan.isProper_of_mem hu, Plan.isFlat_of_mem hnames hu⟩
  have hplain' (k : UnitKey)
      (hk : k ∈ (Plan.submitted (Plan.round (.of snapshot settings start))).map (·.key)) :
      k.IsPlain := by
    obtain ⟨u, hu, rfl⟩ := List.mem_map.mp hk
    exact hplain u hu
  have htakes := Target.takesAll hvalid hready hadmits hplain hkeys
  obtain ⟨r, hrun, hdone⟩ := exists_run_of_takesAll hsettings htakes hkeys
  obtain ⟨m, hmemory, hkept⟩ := exists_run_eq_ok hsettings Memory.refusesOnlyRepeats hkeys
  -- Both emitters take every unit of the plan, so the plan is done to its end with both.
  rw [hkept.outcome_eq hdone] at hmemory
  have hunits : (r.outcome (.of snapshot settings start)).units = _ := hdone.taken
  have hmemoryUnits : m.emitter.units = _ := hkept.emitter ▸ Memory.units_after hkeys
  have hwritten := Target.hasWritten_after hvalid hready hadmits hplain hkeys
  rw [← hdone.emitter] at hwritten
  refine ⟨_, r, m, hrun, hmemory, ?_, ?_, ?_, ?_, ?_⟩
  · rw [hwritten.written, hunits, List.map_map]
    refine List.map_congr_left fun u _ => ?_
    rw [target.path_eq u, Function.comp_apply]
  · rw [hunits]
    exact UnitKey.IsPlain.nodup_destinations hvalid hplain' hkeys
  · intro k hk
    rw [hunits] at hk
    obtain ⟨u, hu, rfl⟩ := List.mem_map.mp hk
    refine ⟨(hplain u hu).isBelow hvalid, u.text target.step, ?_, ?_⟩
    · exact (hwritten.file _ _).mpr (.inl ⟨u, hu, rfl, rfl⟩)
    · rw [hstep]
      refine Memory.lookup_sources ?_ settings.indentWidth (hmemoryUnits ▸ hu)
      rw [hmemoryUnits]
      exact UnitKey.IsPlain.nodup_labels hplain' hkeys
  · intro p hbelow hsome
    obtain ⟨text, htext⟩ := Option.isSome_iff_exists.mp hsome
    rcases (hwritten.file _ _).mp htext with ⟨u, hu, hplace, -⟩ | hbefore
    · exact ⟨u.key, by rw [hunits]; exact List.mem_map_of_mem hu, hplace⟩
    · rw [hready.noFile p hbelow] at hbefore
      cases hbefore
  · intro p hbelow
    refine Option.ext fun text => ?_
    rw [hwritten.file]
    refine or_iff_right ?_
    rintro ⟨u, hu, rfl, -⟩
    exact hbelow ((hplain u hu).isBelow hvalid)

/-- A wrapper and two files of copies, one of them in a nested namespace, with a file beside the
    output directory. -/
theorem run_files_as_memory_nested_namespaces :
    let parameter : Declared.ConstructorParameter :=
      { name := "name", type := .resolved (.named "String"), binding := .val }
    let copied (name : String) : Declaration :=
      { name
        kind := .class_
        constructor? := some [parameter]
        annotations := [{ name := "Copy" }] }
    let declarations : List Declaration :=
      [copied "a.User", copied "a.b.Post",
        { name := "a.b.Api", kind := .interface, annotations := [{ name := "Loggable" }] }]
    let target : Target := { home := ["work"], root := "out", extension := "kt", step := 4 }
    let settings : Settings := {}
    let tree : Tree :=
      { directories := [["work"], ["work", "out"]], files := [(["work", "notes"], "kept")] }
    settings.faults = [] ∧ (∀ d ∈ declarations, '/' ∉ d.name.toList) ∧
      target.extension = settings.fileExtension ∧ target.step = settings.indentWidth ∧
      (∀ path, target.admits path = true) ∧ target.IsReady tree ∧
      ∃ hsound, ∃ report r m,
        run target.emitter ⟨declarations, hsound⟩ settings .newYear2024 { tree } =
          (.ok report, r) ∧
        run Memory.emitter ⟨declarations, hsound⟩ settings .newYear2024 {} = (.ok report, m) ∧
        r.emitter.written = report.units.map target.pathOf ∧
        (report.units.map target.destination).Nodup ∧
        (∀ k ∈ report.units, IsBelow (target.destination k) target.place ∧
          ∃ text, r.emitter.tree.file? (target.destination k) = some text ∧
            (Memory.sources settings.indentWidth m.emitter).lookup k.label = some text) ∧
        (∀ p, IsBelow p target.place → (r.emitter.tree.file? p).isSome →
          ∃ k ∈ report.units, target.destination k = p) ∧
        ∀ p, ¬IsBelow p target.place → r.emitter.tree.file? p = tree.file? p := by
  intro parameter copied declarations target settings tree
  have hsettings : settings.faults = [] := by decide
  have hnames : ∀ d ∈ declarations, '/' ∉ d.name.toList := by decide
  have hsound : Snapshot.issues declarations = [] := by decide
  have hready : target.IsReady tree := by
    have hplace : target.place = ["work", "out"] := by decide
    refine ⟨by decide, by decide, ?_, ?_⟩
    · rintro p ⟨⟨more, rfl⟩, hmore⟩
      rw [hplace] at hmore ⊢
      simpa [Tree.isDirectory, tree] using hmore
    · rintro p ⟨⟨more, rfl⟩, -⟩
      rw [hplace]
      simp [Tree.file?, tree, List.lookup_cons]
  exact ⟨hsettings, hnames, rfl, rfl, fun _ => rfl, hready, hsound,
    run_files_as_memory target ⟨declarations, hsound⟩ .newYear2024 hsettings hnames rfl rfl
      (fun _ => rfl) hready⟩

end Round

end CompanionSource
