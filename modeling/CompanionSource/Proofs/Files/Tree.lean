import CompanionSource.Proofs.Files.Path
import Mathlib.Data.List.Induction

/-! # What writing a file changes

    To write a file is to make the directories on the way to it and then to put it there.

    - **Directories** are made one step after another.  This changes no file, and it succeeds unless
      there is a file on the way.  Then it stops, and the directories before the file stay.
    - A **new file** adds its text at its place and changes no other file.  It can be put anywhere
      but at the place of a directory.
    - A path that can be **walked** has all its directories already, and making them changes
      nothing.  It can still be walked when more directories have come since. -/

namespace CompanionSource.Files.Tree

variable {t : Tree} {place : Place}

/-! ### By place -/

theorem isDirectory_iff : t.isDirectory place = true ↔ place = [] ∨ place ∈ t.directories := by
  simp [isDirectory]

/-- A directory can be made where there is no file. -/
theorem exists_makeDirectory? (hfree : t.file? place = none) :
    ∃ next, t.makeDirectory? place = some next ∧ next.files = t.files ∧
      ∀ p, next.isDirectory p = true ↔ t.isDirectory p = true ∨ p = place := by
  unfold makeDirectory?
  by_cases hdirectory : t.isDirectory place = true
  · refine ⟨t, by rw [if_pos hdirectory], rfl, fun p => ?_⟩
    constructor
    · exact .inl
    · rintro (hp | rfl)
      · exact hp
      · exact hdirectory
  · refine ⟨{ t with directories := place :: t.directories }, ?_, rfl, fun p => ?_⟩
    · rw [if_neg hdirectory, hfree]
      rfl
    · rw [isDirectory_iff, isDirectory_iff, List.mem_cons]
      tauto

/-- A new directory changes no file and no other directory. -/
theorem makeDirectory?_keeps {next : Tree} (h : t.makeDirectory? place = some next) :
    next.files = t.files ∧ ∀ p, t.isDirectory p = true → next.isDirectory p = true := by
  unfold makeDirectory? at h
  split at h
  · obtain rfl := Option.some.inj h
    exact ⟨rfl, fun p hp => hp⟩
  · split at h
    · cases h
    · obtain rfl := Option.some.inj h
      refine ⟨rfl, fun p hp => ?_⟩
      rw [isDirectory_iff] at hp ⊢
      exact hp.imp_right (List.mem_cons_of_mem place)

/-- A text can be put into a new file where there is no directory. -/
theorem write?_new (hdirectory : t.isDirectory place = false) (hfree : t.file? place = none)
    (text : String) :
    t.write? place text = some { t with files := t.files ++ [(place, text)] } := by
  rw [write?, hdirectory, hfree]
  rfl

/-- A new file is found at its place, and the others are where they were. -/
theorem file?_new (hfree : t.file? place = none) (text : String) (p : Place) :
    ({ t with files := t.files ++ [(place, text)] } : Tree).file? p =
      if p = place then some text else t.file? p := by
  rw [file?, List.lookup_append, ← file?]
  by_cases hp : p = place
  · simp [hp, hfree]
  · have hother : (p == place) = false := by simpa using hp
    simp [hp, List.lookup_cons, hother]

/-! ### Along a way -/

/-- As far as a way is made, no file changes, and no directory goes. -/
theorem makeAlong_keeps (t : Tree) (place : Place) (ns : List String) :
    (makeAlong place ns t).2.files = t.files ∧
      ∀ p, t.isDirectory p = true → (makeAlong place ns t).2.isDirectory p = true := by
  induction ns generalizing t place with
  | nil => exact ⟨rfl, fun p hp => hp⟩
  | cons n ns ih =>
    rw [makeAlong]
    cases hfirst : t.makeDirectory? (place.step n) with
    | none => exact ⟨rfl, fun p hp => hp⟩
    | some next =>
      obtain ⟨hfiles, hkept⟩ := makeDirectory?_keeps hfirst
      obtain ⟨hfiles', hkept'⟩ := ih next (place.step n)
      exact ⟨hfiles'.trans hfiles, fun p hp => hkept' p (hkept p hp)⟩

theorem makeDirectories_keeps (t : Tree) (home : Place) (path : String) :
    (t.makeDirectories home path).2.files = t.files ∧
      ∀ p, t.isDirectory p = true → (t.makeDirectories home path).2.isDirectory p = true :=
  makeAlong_keeps t (start home path) (moves path)

theorem makeAlong_append {next : Tree} {ns : List String} (more : List String)
    (h : makeAlong place ns t = (true, next)) :
    makeAlong place (ns ++ more) t = makeAlong (ns.foldl Place.step place) more next := by
  induction ns generalizing t place with
  | nil =>
    obtain rfl : t = next := congrArg Prod.snd h
    rfl
  | cons n ns ih =>
    rw [makeAlong] at h
    rw [List.cons_append, makeAlong]
    cases hfirst : t.makeDirectory? (place.step n) with
    | none => simp [hfirst] at h
    | some first => exact ih (by simpa [hfirst] using h)

/-- The way along names can be made if there is no file on it. -/
theorem exists_makeAlong {ns : List String} (hleads : ∀ n ∈ ns, n ≠ "." ∧ n ≠ "..")
    (hfree : ∀ front, front ≠ [] → front <+: ns → t.file? (place ++ front) = none) :
    ∃ next, makeAlong place ns t = (true, next) ∧ next.files = t.files ∧
      ∀ p, next.isDirectory p = true ↔
        t.isDirectory p = true ∨ ∃ front, front ≠ [] ∧ front <+: ns ∧ p = place ++ front := by
  induction ns generalizing t place with
  | nil =>
    refine ⟨t, rfl, rfl, fun p => ?_⟩
    simp
  | cons n ns ih =>
    -- The first directory is made, and the others are made behind it in a tree with the same files.
    obtain ⟨⟨hstays, hback⟩, hlater⟩ := List.forall_mem_cons.mp hleads
    have hstep : place.step n = place ++ [n] := by
      rw [Place.step, if_neg hstays, if_neg hback]
    obtain ⟨first, hfirst, hfiles, hdirectories⟩ :=
      exists_makeDirectory? (hfree [n] (by simp) (by simp))
    have hrest (front : List String) (hsome : front ≠ []) (hbegins : front <+: ns) :
        first.file? (place ++ [n] ++ front) = none := by
      rw [file?, hfiles, ← file?, List.append_assoc]
      exact hfree (n :: front) (by simp) (List.cons_prefix_cons.mpr ⟨rfl, hbegins⟩)
    obtain ⟨next, hnext, hfiles', hdirectories'⟩ := ih hlater hrest
    refine ⟨next, ?_, hfiles'.trans hfiles, fun p => ?_⟩
    · simp only [makeAlong, hstep, hfirst]
      exact hnext
    · rw [hdirectories', hdirectories, or_assoc]
      refine or_congr_right ?_
      constructor
      · rintro (rfl | ⟨front, -, hbegins, rfl⟩)
        · exact ⟨[n], by simp, by simp, rfl⟩
        · exact ⟨n :: front, by simp, List.cons_prefix_cons.mpr ⟨rfl, hbegins⟩, by simp⟩
      · rintro ⟨_ | ⟨m, front⟩, hsome, hbegins, rfl⟩
        · exact absurd rfl hsome
        · obtain ⟨rfl, hlater⟩ := List.cons_prefix_cons.mp hbegins
          by_cases hfront : front = []
          · exact .inl (by rw [hfront])
          · exact .inr ⟨front, hfront, hlater, by simp⟩

/-! ### Along what is there -/

/-- A walk goes through the place where its first part ends. -/
theorem exists_walk?_of_append {ns more : List String} {p : Place}
    (h : t.walk? place (ns ++ more) = some p) :
    ∃ q, t.walk? place ns = some q ∧ t.walk? q more = some p := by
  induction ns generalizing place with
  | nil => exact ⟨place, rfl, h⟩
  | cons n ns ih =>
    rw [List.cons_append, walk?] at h
    split at h
    · next hthere =>
      obtain ⟨q, hq, hmore⟩ := ih h
      have hthere' : (ns.isEmpty || t.isDirectory (place.step n)) = true := by
        rw [Bool.or_eq_true] at hthere ⊢
        refine hthere.imp_left fun hempty => ?_
        exact List.isEmpty_iff.mpr (List.append_eq_nil_iff.mp (List.isEmpty_iff.mp hempty)).1
      exact ⟨q, by rw [walk?, if_pos hthere', hq], hmore⟩
    · cases h

/-- The first step of a walk to a directory leads to one. -/
theorem isDirectory_step_of_walk? {n : String} {ns : List String} {p : Place}
    (h : t.walk? place (n :: ns) = some p) (hp : t.isDirectory p = true) :
    t.isDirectory (place.step n) = true ∧ t.walk? (place.step n) ns = some p := by
  rw [walk?] at h
  split at h
  · next hthere =>
    refine ⟨?_, h⟩
    rcases Bool.or_eq_true_iff.mp hthere with hempty | hdirectory
    · rw [List.isEmpty_iff.mp hempty] at h
      obtain rfl : place.step n = p := Option.some.inj h
      exact hp
    · exact hdirectory
  · cases h

section kept
variable {next : Tree} {ns : List String} {p : Place}
  (hkept : ∀ q, t.isDirectory q = true → next.isDirectory q = true)
  (h : t.walk? place ns = some p) (hp : t.isDirectory p = true)
include hkept h hp

/-- A walk to a directory can still be taken when more directories have come since, and goes on from
    there. -/
theorem walk?_append (more : List String) : next.walk? place (ns ++ more) = next.walk? p more := by
  induction ns generalizing place with
  | nil =>
    obtain rfl : place = p := Option.some.inj h
    rfl
  | cons n ns ih =>
    obtain ⟨hstep, hrest⟩ := isDirectory_step_of_walk? h hp
    rw [List.cons_append, walk?, hkept _ hstep, Bool.or_true, if_pos rfl]
    exact ih hrest

/-- Nothing is made along the moves of a walk to a directory. -/
theorem makeAlong_of_walk? :
    makeAlong place (ns.filter fun n => n != ".") next = (true, next) ∧
      (ns.filter fun n => n != ".").foldl Place.step place = p := by
  induction ns generalizing place with
  | nil =>
    obtain rfl : place = p := Option.some.inj h
    exact ⟨rfl, rfl⟩
  | cons n ns ih =>
    obtain ⟨hstep, hrest⟩ := isDirectory_step_of_walk? h hp
    obtain ⟨hmade, hend⟩ := ih hrest
    by_cases hstays : n = "."
    · have hplace : place.step n = place := by rw [Place.step, if_pos hstays]
      rw [hplace] at hmade hend
      rw [List.filter_cons_of_neg (by simp [hstays])]
      exact ⟨hmade, hend⟩
    · have hthere : next.makeDirectory? (place.step n) = some next := by
        rw [makeDirectory?, if_pos (hkept _ hstep)]
      rw [List.filter_cons_of_pos (by simp [hstays]), List.foldl_cons]
      simp only [makeAlong, hthere]
      exact ⟨hmade, hend⟩

end kept

/-- A file can be reached through directories on the way to it. -/
theorem walk?_of_directories {dirs : List String} {name : String}
    (hleads : ∀ n ∈ dirs ++ [name], n ≠ "." ∧ n ≠ "..")
    (hway : ∀ way, way ≠ [] → way <+: dirs → t.isDirectory (place ++ way) = true) :
    t.walk? place (dirs ++ [name]) = some (place ++ (dirs ++ [name])) := by
  have hstep (n : String) (hn : n ∈ dirs ++ [name]) (p : Place) : p.step n = p ++ [n] := by
    rw [Place.step, if_neg (hleads n hn).1, if_neg (hleads n hn).2]
  induction dirs generalizing place with
  | nil =>
    rw [List.nil_append, walk?, hstep name (by simp)]
    rfl
  | cons n dirs ih =>
    have hlater (way : List String) (hsome : way ≠ []) (hbegins : way <+: dirs) :
        t.isDirectory (place ++ [n] ++ way) = true := by
      rw [List.append_assoc]
      exact hway (n :: way) (by simp) (List.cons_prefix_cons.mpr ⟨rfl, hbegins⟩)
    have hfirst : t.isDirectory (place ++ [n]) = true := hway [n] (by simp) (by simp)
    rw [List.cons_append, walk?, hstep n (by simp), hfirst, Bool.or_true, if_pos rfl,
      ih (fun m hm => hleads m (List.mem_cons_of_mem n hm)) hlater
        (fun m hm => hstep m (List.mem_cons_of_mem n hm)), List.append_assoc]
    rfl

/-- A path is walked along its names. -/
theorem walk?_names {home : Place} {path : String} {p : Place}
    (h : t.walk? (start home path) (steps path) = some p) :
    t.walk? (start home path) (names path) = some p := by
  obtain ⟨q, hq, hstay⟩ := exists_walk?_of_append h
  rw [hq]
  split at hstay
  · simpa [walk?, Place.step] using hstay
  · simpa [walk?] using hstay

/-! ### By path -/

section way
variable {before : Tree} {home : Place} {path name : String} {front dirs : List String} {p : Place}
  (hsteps : steps path = front ++ (dirs ++ [name]))
  (hkept : ∀ q, before.isDirectory q = true → t.isDirectory q = true)
  (hfront : before.walk? (start home path) front = some p) (hp : before.isDirectory p = true)
  (hleads : ∀ n ∈ dirs ++ [name], n ≠ "." ∧ n ≠ "..")
  (hway : ∀ way, way ≠ [] → way <+: dirs → t.file? (p ++ way) = none)
include hsteps hkept hfront hp hleads hway

/-- The directory of a path can be made if there is no file on the way.  The first part of the path
    leads to a directory that is there, also if more directories have come since. -/
theorem exists_makeDirectories? :
    ∃ directory made, parent? path = some directory ∧
      t.makeDirectories? home directory = some made ∧ made.files = t.files ∧
      ∀ q, made.isDirectory q = true ↔
        t.isDirectory q = true ∨ ∃ way, way ≠ [] ∧ way <+: dirs ∧ q = p ++ way := by
  obtain ⟨made, hmade, hfiles, hdirectories⟩ :=
    exists_makeAlong (List.forall_mem_append.mp hleads).1 hway
  have hmoves : moves path = front.filter (fun n => n != ".") ++ dirs ++ [name] := by
    have hlater : (dirs ++ [name]).filter (fun n => n != ".") = dirs ++ [name] := by
      rw [List.filter_eq_self]
      exact fun n hn => by simpa using (hleads n hn).1
    rw [moves_eq, hsteps, List.filter_append, hlater, List.append_assoc]
  have hmoving : moves path ≠ [] := by simp [hmoves]
  obtain ⟨directory, hparent, habsolute, hdirectory⟩ := exists_parent? hmoving
  have hstart : start home directory = start home path := by rw [start, habsolute, start]
  -- The parent of the path leads along the first part, and then along the directories.
  obtain ⟨hthere, hend⟩ := makeAlong_of_walk? hkept hfront hp
  refine ⟨directory, made, hparent, ?_, hfiles, hdirectories⟩
  rw [makeDirectories?, makeDirectories, hdirectory, hmoves, List.dropLast_concat, hstart,
    makeAlong_append dirs hthere, hend, hmade]

/-- A new file can be put at the end of such a path if there is no directory in its place. -/
theorem exists_put? (text : String) (hdirectory : t.isDirectory (p ++ (dirs ++ [name])) = false)
    (hfree : t.file? (p ++ (dirs ++ [name])) = none) :
    ∃ next, t.put? home path text = some next ∧
      (∀ q, next.file? q = if q = p ++ (dirs ++ [name]) then some text else t.file? q) ∧
      ∀ q, next.isDirectory q = true ↔
        t.isDirectory q = true ∨ ∃ way, way ≠ [] ∧ way <+: dirs ∧ q = p ++ way := by
  obtain ⟨directory, made, hparent, hmade, hfiles, hdirectories⟩ :=
    exists_makeDirectories? hsteps hkept hfront hp hleads hway
  have hfree' : made.file? (p ++ (dirs ++ [name])) = none := by
    rw [file?, hfiles, ← file?, hfree]
  have hdirectory' : made.isDirectory (p ++ (dirs ++ [name])) = false := by
    rw [← Bool.not_eq_true, hdirectories, hdirectory]
    rintro (hfalse | ⟨way, -, hbegins, heq⟩)
    · cases hfalse
    · -- The place of the file is longer than the way to it.
      have hlength := hbegins.length_le
      have heq := congrArg List.length heq
      simp only [List.length_append, List.length_singleton] at heq
      omega
  have hwalk : made.walk? (start home path) (steps path) = some (p ++ (dirs ++ [name])) := by
    have hkept' (q : Place) (hq : before.isDirectory q = true) : made.isDirectory q = true :=
      (hdirectories q).mpr (.inl (hkept q hq))
    rw [hsteps, walk?_append hkept' hfront hp]
    refine walk?_of_directories hleads fun way hsome hbegins => ?_
    exact (hdirectories _).mpr (.inr ⟨way, hsome, hbegins, rfl⟩)
  refine ⟨{ made with files := made.files ++ [(p ++ (dirs ++ [name]), text)] }, ?_, ?_, ?_⟩
  · have hsome : (steps path).isEmpty = false := by simp [hsteps]
    rw [put?, hparent, Option.bind_some, hmade, Option.bind_some, writeAt?, hsome,
      if_neg Bool.false_ne_true, hwalk, Option.bind_some]
    exact write?_new hdirectory' hfree' text
  · intro q
    rw [file?_new hfree', file?, hfiles, ← file?]
  · exact hdirectories

end way

end CompanionSource.Files.Tree
