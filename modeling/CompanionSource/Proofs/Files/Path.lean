import CompanionSource.Files.Emitter
import CompanionSource.Proofs.Name
import CompanionSource.Proofs.Text
import CompanionSource.Settings

/-! # Where the paths of units lead

    A path leads to the place that its names lead to, one step after another.  The path of a unit is
    put together from **parts**: the segments of its namespace, and its file with the extension.

    - A part that begins with a `/` stands for itself, and nothing in front of it counts.  A unit
      with such a part is **anchored**: it goes to the same place, whatever the output directory is.
    - Otherwise a unit goes below the output directory, by the names on its parts.

    No part has the names `.` and `..` on it, because neither a segment nor a file has a dot in it.
    So a part never leads back.  But a part can have more than one name on it, and then two units
    can have the same names. -/

namespace CompanionSource.Files

/-! ### Names on a path -/

theorem pieces_of_not_mem {path : String} (h : '/' ∉ path.toList) : pieces path = [path] := by
  simp [pieces, List.splitOn_eq_singleton h]

theorem pieces_slash (front back : String) :
    pieces (front ++ "/" ++ back) = pieces front ++ pieces back := by
  have hchars : (front ++ "/" ++ back).toList = front.toList ++ '/' :: back.toList := by
    simp [String.toList_append]
  simp [pieces, hchars, List.splitOn_append_cons_self]

@[simp] theorem names_empty : names "" = [] := by
  decide

theorem names_slash (front back : String) :
    names (front ++ "/" ++ back) = names front ++ names back := by
  rw [names, pieces_slash, List.filter_append, names, names]

/-- A path without a `/` is a name. -/
theorem names_of_not_mem {path : String} (hsome : path ≠ "") (h : '/' ∉ path.toList) :
    names path = [path] := by
  simp [names, pieces_of_not_mem h, hsome]

/-- A name has characters of the path in it, but no `/`. -/
theorem name_of_mem_names {path name : String} (h : name ∈ names path) :
    '/' ∉ name.toList ∧ name.toList ⊆ path.toList := by
  obtain ⟨piece, hpiece, rfl⟩ := List.mem_map.mp (List.mem_filter.mp h).1
  rw [String.toList_ofList]
  exact Text.piece_of_mem_splitOn hpiece

/-- What has no `/` in it goes on with the last name. -/
theorem exists_names_append (front : String) {back : String} (hsome : back ≠ "")
    (hback : '/' ∉ back.toList) :
    ∃ before last, names (front ++ back) = before ++ [last ++ back] ∧
      ∀ n ∈ before, n ∈ names front := by
  by_cases hslash : '/' ∈ front.toList.reverse
  · -- The last `/` ends the names that stay as they are.
    obtain ⟨last, before, hsplit, hlast⟩ := List.eq_append_cons_of_mem hslash
    obtain rfl : front = String.ofList before.reverse ++ "/" ++ String.ofList last.reverse := by
      rw [List.reverse_eq_iff] at hsplit
      rw [← String.toList_inj, hsplit]
      simp
    have hname : '/' ∉ (String.ofList last.reverse ++ back).toList := by
      simp [hlast, hback]
    refine ⟨names (String.ofList before.reverse), String.ofList last.reverse, ?_, ?_⟩
    · rw [String.append_assoc, names_slash, names_of_not_mem (by simp [hsome]) hname]
    · rw [names_slash]
      exact fun n hn => List.mem_append_left _ hn
  · have hname : '/' ∉ (front ++ back).toList := by
      simpa [hback] using hslash
    refine ⟨[], front, ?_, List.forall_mem_nil _⟩
    rw [names_of_not_mem (by simp [hsome]) hname, List.nil_append]

theorem endsWithSlash_iff {path : String} :
    endsWithSlash path = true ↔ ∃ front, path = front ++ "/" := by
  rw [endsWithSlash, beq_iff_eq, List.getLast?_eq_some_iff]
  constructor
  · rintro ⟨front, hfront⟩
    exact ⟨String.ofList front, by rw [← String.toList_inj, hfront]; simp⟩
  · rintro ⟨front, rfl⟩
    exact ⟨front.toList, by simp⟩

/-- The steps of a path are its names, and perhaps one that stays. -/
theorem foldl_steps (place : Place) (path : String) :
    (steps path).foldl Place.step place = (names path).foldl Place.step place := by
  unfold steps
  split
  · simp [Place.step]
  · rw [List.append_nil]

/-- A path that does not end in a `/` has names for its steps. -/
theorem steps_eq_names {path : String} (h : endsWithSlash path = false) :
    steps path = names path := by
  rw [steps, h, if_neg Bool.false_ne_true, List.append_nil]

/-- Names that do not stay and do not lead back are added to a place. -/
theorem foldl_step {ns : List String} (h : ∀ n ∈ ns, n ≠ "." ∧ n ≠ "..") (place : Place) :
    ns.foldl Place.step place = place ++ ns := by
  induction ns generalizing place with
  | nil => simp
  | cons n ns ih =>
    obtain ⟨⟨hstays, hback⟩, hlater⟩ := List.forall_mem_cons.mp h
    rw [List.foldl_cons, ih hlater, Place.step, if_neg hstays, if_neg hback, List.append_assoc,
      List.singleton_append]

/-- Where a path that is given in the directory `home` leads. -/
def destination (home : Place) (path : String) : Place :=
  (steps path).foldl Place.step (start home path)

/-- A place lies below another one and is not the same. -/
def IsBelow (place root : Place) : Prop := root <+: place ∧ place ≠ root

/-! ### Joined paths -/

section join
variable {directory path : String}

theorem isAbsolute_append (hsome : directory ≠ "") :
    isAbsolute (directory ++ path) = isAbsolute directory := by
  obtain ⟨c, cs, hchars⟩ := List.exists_cons_of_ne_nil
    (show directory.toList ≠ [] by simpa using hsome)
  simp [isAbsolute, hchars]

theorem isAbsolute_join :
    isAbsolute (join directory path) = (isAbsolute path || isAbsolute directory) := by
  unfold join
  cases habsolute : isAbsolute path with
  | true => simp [habsolute]
  | false =>
    by_cases hempty : directory = ""
    · have hnone : isAbsolute "" = false := by decide
      simp [hempty, habsolute, hnone]
    · have hempty' : directory.isEmpty = false := by simpa [String.isEmpty_iff] using hempty
      rw [hempty', Bool.false_or, if_neg Bool.false_ne_true, Bool.false_or]
      split
      · exact isAbsolute_append hempty
      · rw [String.append_assoc, isAbsolute_append hempty]

theorem join_of_isAbsolute (h : isAbsolute path = true) : join directory path = path := by
  rw [join, h, Bool.true_or, if_pos rfl]

theorem names_join (h : isAbsolute path = false) :
    names (join directory path) = names directory ++ names path := by
  unfold join
  rw [h, Bool.false_or]
  split
  · rename_i hempty
    rw [String.isEmpty_iff.mp hempty, names_empty, List.nil_append]
  · split
    · rename_i hslash
      obtain ⟨front, rfl⟩ := endsWithSlash_iff.mp hslash
      have hfront := names_slash front ""
      rw [String.append_empty, names_empty, List.append_nil] at hfront
      rw [names_slash, hfront]
    · exact names_slash directory path

theorem endsWithSlash_append (hsome : path ≠ "") :
    endsWithSlash (directory ++ path) = endsWithSlash path := by
  obtain ⟨front, c, hchars⟩ : ∃ front c, path.toList = front ++ [c] :=
    ⟨_, _, (List.dropLast_concat_getLast (by simpa using hsome)).symm⟩
  simp [endsWithSlash, hchars]

/-- The end of a joined path is the end of what was joined to the directory. -/
theorem exists_join_eq (directory path : String) :
    ∃ front, join directory path = front ++ path := by
  unfold join
  split
  · exact ⟨"", by simp⟩
  · split
    · exact ⟨directory, rfl⟩
    · exact ⟨directory ++ "/", rfl⟩

/-- One part after another joined to a directory. -/
theorem foldl_join {parts : List String} (h : ∀ part ∈ parts, isAbsolute part = false)
    (directory : String) :
    isAbsolute (parts.foldl join directory) = isAbsolute directory ∧
      names (parts.foldl join directory) = names directory ++ parts.flatMap names := by
  induction parts generalizing directory with
  | nil => simp
  | cons part parts ih =>
    obtain ⟨hpart, hlater⟩ := List.forall_mem_cons.mp h
    obtain ⟨habsolute, hnames⟩ := ih hlater (join directory part)
    rw [List.foldl_cons, habsolute, hnames, isAbsolute_join, hpart, names_join hpart]
    simp

/-- A part that begins at the root makes a path of the whole that does. -/
theorem isAbsolute_foldl_join {parts : List String} (h : ∃ part ∈ parts, isAbsolute part = true)
    (directory : String) : isAbsolute (parts.foldl join directory) = true := by
  have hkept (parts : List String) (directory : String) (h : isAbsolute directory = true) :
      isAbsolute (parts.foldl join directory) = true := by
    induction parts generalizing directory with
    | nil => exact h
    | cons part parts ih => exact ih _ (by rw [isAbsolute_join, h, Bool.or_true])
  obtain ⟨part, hpart, habsolute⟩ := h
  obtain ⟨before, after, rfl⟩ := List.append_of_mem hpart
  rw [List.foldl_append, List.foldl_cons]
  exact hkept after _ (by rw [isAbsolute_join, habsolute, Bool.true_or])

end join

/-! ### Parents -/

theorem slash_not_mem_of_mem_pieces {path piece : String} (h : piece ∈ pieces path) :
    '/' ∉ piece.toList := by
  obtain ⟨cs, hcs, rfl⟩ := List.mem_map.mp h
  rw [String.toList_ofList]
  exact (Text.piece_of_mem_splitOn hcs).1

theorem intercalate_pieces (path : String) : "/".intercalate (pieces path) = path := by
  have hchars : (pieces path).map String.toList = path.toList.splitOn '/' := by
    simp [pieces, Function.comp_def]
  rw [← String.toList_inj, String.toList_intercalate, hchars]
  exact List.intercalate_splitOn '/'

theorem pieces_intercalate {ps : List String} (hsome : ps ≠ [])
    (h : ∀ piece ∈ ps, '/' ∉ piece.toList) : pieces ("/".intercalate ps) = ps := by
  induction ps with
  | nil => exact absurd rfl hsome
  | cons first others ih =>
    obtain ⟨hfirst, hothers⟩ := List.forall_mem_cons.mp h
    cases others with
    | nil => rw [String.intercalate_singleton, pieces_of_not_mem hfirst]
    | cons next others =>
      rw [String.intercalate_cons_cons, pieces_slash, pieces_of_not_mem hfirst,
        ih (List.cons_ne_nil _ _) hothers, List.singleton_append]

/-- Pieces begin at the root if the first one is empty and not the only one. -/
theorem isAbsolute_intercalate {first : String} (h : '/' ∉ first.toList) (others : List String) :
    isAbsolute ("/".intercalate (first :: others)) = (first.isEmpty && !others.isEmpty) := by
  have hfirst : isAbsolute first = false := by
    rw [isAbsolute, beq_eq_false_iff_ne]
    exact fun hhead => h (List.mem_of_mem_head? hhead)
  cases others with
  | nil => rw [String.intercalate_singleton, hfirst, List.isEmpty_nil, Bool.not_true, Bool.and_false]
  | cons next others =>
    rw [String.intercalate_cons_cons, String.append_assoc]
    by_cases hempty : first = ""
    · rw [hempty, String.empty_append, isAbsolute_append (by decide), List.isEmpty_cons]
      decide
    · rw [isAbsolute_append hempty, hfirst]
      simp [hempty]

theorem moves_eq (path : String) : moves path = (steps path).filter fun n => n != "." := by
  have hend : (if endsWithSlash path then ["."] else []).filter (fun n => n != ".") = [] := by
    split
    · rfl
    · rfl
  rw [steps, List.filter_append, hend, List.append_nil, names, List.filter_filter, moves]
  refine List.filter_congr fun piece _ => ?_
  rw [isIdle, Bool.not_or, Bool.and_comm]
  rfl

theorem mem_of_mem_dropIdleEnd {ps : List String} {piece : String} (h : piece ∈ dropIdleEnd ps) :
    piece ∈ ps :=
  List.mem_reverse.mp ((List.dropWhile_sublist isIdle).subset (List.mem_reverse.mp h))

/-- What is dropped at the end is idle. -/
theorem filter_dropIdleEnd (ps : List String) :
    (dropIdleEnd ps).filter (fun piece => !isIdle piece) = ps.filter fun piece => !isIdle piece := by
  have hsplit : ps = dropIdleEnd ps ++ (ps.reverse.takeWhile isIdle).reverse := by
    rw [dropIdleEnd, ← List.reverse_append, List.takeWhile_append_dropWhile, List.reverse_reverse]
  have hidle : (ps.reverse.takeWhile isIdle).reverse.filter (fun piece => !isIdle piece) = [] := by
    rw [List.filter_eq_nil_iff]
    intro piece hpiece
    simp [List.mem_takeWhile_imp (List.mem_reverse.mp hpiece)]
  have hmoves := congrArg (List.filter fun piece => !isIdle piece) hsplit
  rw [List.filter_append, hidle, List.append_nil] at hmoves
  exact hmoves.symm

/-- What is not dropped ends in a piece that is not idle. -/
theorem not_isIdle_of_dropIdleEnd {ps front : List String} {last : String}
    (h : dropIdleEnd ps = front ++ [last]) : isIdle last = false := by
  have hhead := List.head?_dropWhile_not isIdle ps.reverse
  rw [dropIdleEnd, List.reverse_eq_iff, List.reverse_append] at h
  rw [h] at hhead
  simpa using hhead

section ofPieces
variable {first : String} {others : List String}
  (h : ∀ piece ∈ first :: others, '/' ∉ piece.toList)
include h

theorem isAbsolute_ofPieces : isAbsolute (ofPieces first others) = first.isEmpty := by
  unfold ofPieces
  split
  · next hempty =>
    rw [(Bool.and_eq_true_iff.mp hempty).1]
    decide
  · next hsome =>
    rw [isAbsolute_intercalate (h first List.mem_cons_self)]
    -- If the first piece is empty, there are others.
    cases hfirst : first.isEmpty with
    | true => simpa [hfirst] using hsome
    | false => rfl

theorem moves_ofPieces :
    moves (ofPieces first others) = (first :: others).filter fun piece => !isIdle piece := by
  unfold ofPieces
  split
  · next hempty =>
    rw [Bool.and_eq_true, String.isEmpty_iff, List.isEmpty_iff] at hempty
    rw [hempty.1, hempty.2]
    decide
  · rw [moves, pieces_intercalate (List.cons_ne_nil _ _) h]

end ofPieces

/-- The parent of a path begins where the path does, and leads there without its last move. -/
theorem exists_parent? {path : String} (h : moves path ≠ []) :
    ∃ directory, parent? path = some directory ∧ isAbsolute directory = isAbsolute path ∧
      moves directory = (moves path).dropLast := by
  obtain ⟨first, others, hpieces⟩ : ∃ first others, pieces path = first :: others :=
    List.exists_cons_of_ne_nil (by simp [pieces, List.splitOn_ne_nil])
  have hslash : ∀ piece ∈ first :: others, '/' ∉ piece.toList := by
    rw [← hpieces]
    exact fun piece => slash_not_mem_of_mem_pieces
  have habsolute : isAbsolute path = (first.isEmpty && !others.isEmpty) := by
    rw [← intercalate_pieces path, hpieces, isAbsolute_intercalate (hslash first List.mem_cons_self)]
  have hmoves : moves path = (first :: dropIdleEnd others).filter fun piece => !isIdle piece := by
    rw [moves, hpieces, List.filter_cons, List.filter_cons, filter_dropIdleEnd]
  unfold parent?
  rw [hpieces]
  by_cases hnone : dropIdleEnd others = []
  · -- The first piece is all that leads anywhere.
    rw [hnone] at hmoves
    cases hfirst : isIdle first with
    | true => simp [hmoves, hfirst] at h
    | false =>
      have hempty : first.isEmpty = false := (Bool.or_eq_false_iff.mp hfirst).1
      refine ⟨"", by simp [hnone, hempty], ?_, ?_⟩
      · rw [habsolute, hempty, Bool.false_and]
        decide
      · have hstays : moves "" = [] := by decide
        simp [hmoves, hfirst, hstays]
  · obtain ⟨front, last, hlast⟩ : ∃ front last, dropIdleEnd others = front ++ [last] :=
      ⟨_, _, (List.dropLast_concat_getLast hnone).symm⟩
    have hslash' : ∀ piece ∈ first :: dropIdleEnd front, '/' ∉ piece.toList := by
      refine List.forall_mem_cons.mpr ⟨hslash first List.mem_cons_self, fun piece hpiece => ?_⟩
      have hfront : piece ∈ dropIdleEnd others := by
        rw [hlast]
        exact List.mem_append_left _ (mem_of_mem_dropIdleEnd hpiece)
      exact hslash piece (List.mem_cons_of_mem first (mem_of_mem_dropIdleEnd hfront))
    have hothers : others.isEmpty = false := by
      cases others with
      | nil => exact absurd rfl hnone
      | cons _ _ => rfl
    refine ⟨ofPieces first (dropIdleEnd front), by simp [hlast], ?_, ?_⟩
    · rw [isAbsolute_ofPieces hslash', habsolute, hothers, Bool.not_false, Bool.and_true]
    · have hmove := not_isIdle_of_dropIdleEnd hlast
      rw [moves_ofPieces hslash', hmoves, hlast, ← List.cons_append, List.filter_append]
      simp [hmove, List.filter_cons, filter_dropIdleEnd]

-- Pieces that lead nowhere are passed over at the end of a path, and are left inside it.
example : parent? "/out//a/./b.kt/" = some "/out//a" := by decide

end CompanionSource.Files

/-! ### Parts of a unit -/

namespace CompanionSource.UnitKey

open Files (isAbsolute join names)

variable {k : UnitKey} {extension : String}

/-- The parts of the namespace, which become directories. -/
def directories (k : UnitKey) : List String := (Name.segments k.scope).filter fun s => !s.isEmpty

/-- The parts that the path of a unit is put together from. -/
def parts (extension : String) (k : UnitKey) : List String :=
  k.directories ++ [k.file ++ "." ++ extension]

/-- The names that the path of a unit has on it. -/
def names (extension : String) (k : UnitKey) : List String :=
  (k.parts extension).flatMap Files.names

/-- A segment of the namespace begins with a `/`, or the name of the file does. -/
def IsAnchored (k : UnitKey) : Prop :=
  ∃ part ∈ Name.segments k.scope ++ [k.file], isAbsolute part = true

/-- No segment of the namespace is empty, and there is no dot in the name of the file. -/
structure IsProper (k : UnitKey) : Prop where
  scope : k.scope = "" ∨ ∀ s ∈ Name.segments k.scope, s ≠ ""
  file : '.' ∉ k.file.toList

/-- There is no `/` in the names. -/
structure IsFlat (k : UnitKey) : Prop where
  scope : '/' ∉ k.scope.toList
  file : '/' ∉ k.file.toList

theorem isAnchored_iff (extension : String) :
    k.IsAnchored ↔ ∃ part ∈ k.parts extension, isAbsolute part = true := by
  have hnone : isAbsolute "" = false := by decide
  have hfile : isAbsolute (k.file ++ "." ++ extension) = isAbsolute k.file := by
    by_cases hempty : k.file = ""
    · rw [hempty, hnone, String.empty_append, Files.isAbsolute_append (by decide)]
      decide
    · rw [String.append_assoc, Files.isAbsolute_append hempty]
  unfold IsAnchored parts directories
  simp only [List.mem_append, List.mem_singleton, or_and_right, exists_or, exists_eq_left, hfile,
    List.mem_filter]
  refine or_congr_left (exists_congr fun s => ?_)
  -- An empty segment becomes no part, but it does not begin with a `/` either.
  by_cases hempty : s = ""
  · simp [hempty, hnone]
  · simp [hempty]

theorem IsFlat.not_isAnchored (h : k.IsFlat) : ¬k.IsAnchored := by
  rintro ⟨part, hpart, habsolute⟩
  have hslash : '/' ∈ part.toList := by
    rw [isAbsolute, beq_iff_eq] at habsolute
    exact List.mem_of_mem_head? habsolute
  rcases List.mem_append.mp hpart with hpart | hpart
  · exact h.scope (Name.mem_of_mem_segments hpart hslash)
  · rw [List.mem_singleton.mp hpart] at hslash
    exact h.file hslash

/-! ### Extensions -/

/-- An extension that can be used: a text without dots and without `/`. -/
structure IsExtension (extension : String) : Prop where
  some : extension ≠ ""
  dot : '.' ∉ extension.toList
  slash : '/' ∉ extension.toList

theorem isExtension_of_settings {settings : Settings} (h : settings.faults = []) :
    IsExtension settings.fileExtension := by
  have hextension : Settings.isNoExtension settings.fileExtension = false := by
    simp only [Settings.faults, List.append_eq_nil_iff] at h
    simpa using h.2
  simp only [Settings.isNoExtension, Bool.or_eq_false_iff, List.any_eq_false] at hextension
  refine ⟨?_, fun h => ?_, fun h => ?_⟩
  · simpa [String.isEmpty_iff] using hextension.1
  · simpa using hextension.2 _ h
  · simpa using hextension.2 _ h

/-! ### Names of a unit -/

section proper
variable (hk : k.IsProper) (hextension : IsExtension extension)

include hk hextension in
/-- The file is the last name, and the only one with a dot in it. -/
theorem IsProper.exists_names_eq :
    ∃ before last, k.names extension = before ++ [last] ∧ (∀ n ∈ before, '.' ∉ n.toList) ∧
      ∃ front, last = front ++ ("." ++ extension) := by
  have hback : '/' ∉ ("." ++ extension).toList := by
    simpa using hextension.slash
  obtain ⟨before, last, hnames, hbefore⟩ := Files.exists_names_append k.file (by simp) hback
  refine ⟨k.directories.flatMap Files.names ++ before, last ++ ("." ++ extension), ?_, ?_, last,
    rfl⟩
  · rw [names, parts, List.flatMap_append, List.flatMap_singleton, String.append_assoc, hnames,
      List.append_assoc]
  · intro n hn
    rcases List.mem_append.mp hn with hn | hn
    · obtain ⟨s, hs, hn⟩ := List.mem_flatMap.mp hn
      have hdot := Name.dot_not_mem_of_mem_segments (List.mem_filter.mp hs).1
      exact fun h => hdot ((Files.name_of_mem_names hn).2 h)
    · exact fun h => hk.file ((Files.name_of_mem_names (hbefore n hn)).2 h)

include hk hextension in
/-- No name stays or leads back. -/
theorem IsProper.leads (n : String) (hn : n ∈ k.names extension) : n ≠ "." ∧ n ≠ ".." := by
  obtain ⟨before, last, hnames, hbefore, front, rfl⟩ := hk.exists_names_eq hextension
  rw [hnames] at hn
  rcases List.mem_append.mp hn with hn | hn
  · have hdot := hbefore n hn
    exact ⟨by rintro rfl; simp at hdot, by rintro rfl; simp at hdot⟩
  · -- The extension has a character that is no dot.
    obtain ⟨c, cs, hchars⟩ := List.exists_cons_of_ne_nil
      (show extension.toList ≠ [] by simpa using hextension.some)
    have hc : c ∈ n.toList := by
      rw [List.mem_singleton.mp hn]
      simp [hchars]
    have hdot : c ≠ '.' := by
      rintro rfl
      exact hextension.dot (by simp [hchars])
    exact ⟨by rintro rfl; simp [hdot] at hc, by rintro rfl; simp [hdot] at hc⟩

end proper

/-- Without a `/` in it, each part is a name. -/
theorem IsFlat.names_eq (h : k.IsFlat) (hextension : IsExtension extension) :
    k.names extension = k.parts extension := by
  have hpart : ∀ part ∈ k.parts extension, Files.names part = [part] := by
    intro part hpart
    rcases List.mem_append.mp hpart with hpart | hpart
    · obtain ⟨hsegment, hsome⟩ := List.mem_filter.mp hpart
      refine Files.names_of_not_mem (by simpa [String.isEmpty_iff] using hsome) ?_
      exact fun hslash => h.scope (Name.mem_of_mem_segments hsegment hslash)
    · rw [List.mem_singleton.mp hpart]
      refine Files.names_of_not_mem (by simp) ?_
      simpa using ⟨h.file, hextension.slash⟩
  rw [names, List.flatMap, List.map_congr_left hpart, ← List.flatMap, List.flatMap_singleton']

/-- The parts tell what the namespace and the file are. -/
theorem IsProper.eq_of_parts_eq {k' : UnitKey} (hk : k.IsProper) (hk' : k'.IsProper)
    (h : k.parts extension = k'.parts extension) : k = k' := by
  -- No segment is left out of the parts, so the namespace can be put together from them.
  have hscope {k : UnitKey} (hk : k.IsProper) :
      k.scope = ".".intercalate k.directories := by
    rcases hk.scope with hempty | hsome
    · rw [directories, hempty]
      decide
    · rw [directories, List.filter_eq_self.mpr, Name.intercalate_segments]
      intro s hs
      simpa [String.isEmpty_iff] using hsome s hs
  obtain ⟨hsegments, hfiles⟩ := List.append_inj' h rfl
  have hfile : k.file = k'.file := by
    have hchars := (List.cons.inj hfiles).1
    simpa using hchars
  have hscopes : k.scope = k'.scope := by
    rw [hscope hk, hscope hk', hsegments]
  cases k
  cases k'
  exact congrArg₂ UnitKey.mk hscopes hfile

end CompanionSource.UnitKey

/-! ### Destinations -/

namespace CompanionSource.Files.Target

open UnitKey (IsExtension)

variable {t : Target} {k k' : UnitKey}

/-- The path of a unit with a key. -/
def pathOf (t : Target) (k : UnitKey) : String := join t.root ((k.parts t.extension).foldl join "")

theorem path_eq (t : Target) (u : SourceUnit) : t.path u = t.pathOf u.key := by
  rw [path, pathOf, UnitKey.parts, List.foldl_append]
  rfl

/-- Where the output directory is. -/
def place (t : Target) : Place := Files.destination t.home t.root

/-- Where a unit with a key goes. -/
def destination (t : Target) (k : UnitKey) : Place := Files.destination t.home (t.pathOf k)

/-- An anchored unit goes where its own parts lead, from wherever paths are given. -/
theorem pathOf_of_isAnchored (h : k.IsAnchored) (root : String) :
    ({ t with root } : Target).pathOf k = t.pathOf k := by
  have habsolute := isAbsolute_foldl_join ((UnitKey.isAnchored_iff t.extension).mp h) ""
  rw [pathOf, pathOf, join_of_isAbsolute habsolute, join_of_isAbsolute habsolute]

theorem destination_of_isAnchored (h : k.IsAnchored) (root : String) :
    ({ t with root } : Target).destination k = t.destination k :=
  congrArg (Files.destination t.home) (pathOf_of_isAnchored h root)

/-- The path of a unit ends in the extension, so it does not end in a `/`. -/
theorem endsWithSlash_pathOf (hextension : IsExtension t.extension) (k : UnitKey) :
    endsWithSlash (t.pathOf k) = false := by
  obtain ⟨front, hfront⟩ := exists_join_eq t.root ((k.parts t.extension).foldl join "")
  obtain ⟨back, hback⟩ :=
    exists_join_eq (k.directories.foldl join "") (k.file ++ "." ++ t.extension)
  rw [UnitKey.parts, List.foldl_append, List.foldl_cons, List.foldl_nil] at hfront
  rw [pathOf, UnitKey.parts, List.foldl_append, List.foldl_cons, List.foldl_nil, hfront, hback,
    ← String.append_assoc, ← String.append_assoc, endsWithSlash_append hextension.some,
    endsWithSlash, beq_eq_false_iff_ne]
  exact fun hlast => hextension.slash (List.mem_of_getLast? hlast)

/-- The path of any other unit goes on from that of the output directory with its names. -/
theorem steps_pathOf (hextension : IsExtension t.extension) (hfree : ¬k.IsAnchored) :
    start t.home (t.pathOf k) = start t.home t.root ∧
      steps (t.pathOf k) = Files.names t.root ++ k.names t.extension := by
  have hparts : ∀ part ∈ k.parts t.extension, isAbsolute part = false := by
    intro part hpart
    rw [← Bool.not_eq_true]
    exact fun habsolute => hfree ((UnitKey.isAnchored_iff _).mpr ⟨part, hpart, habsolute⟩)
  obtain ⟨habsolute, hnames⟩ := foldl_join hparts ""
  have hnone : isAbsolute "" = false := by decide
  rw [hnone] at habsolute
  rw [names_empty, List.nil_append, ← UnitKey.names] at hnames
  constructor
  · rw [start, start, pathOf, isAbsolute_join, habsolute, Bool.false_or]
  · rw [steps_eq_names (endsWithSlash_pathOf hextension k), pathOf, names_join habsolute, hnames]

/-- It goes below the output directory by its names. -/
theorem destination_eq (hk : k.IsProper) (hextension : IsExtension t.extension)
    (hfree : ¬k.IsAnchored) : t.destination k = t.place ++ k.names t.extension := by
  obtain ⟨hstart, hsteps⟩ := steps_pathOf hextension hfree
  rw [destination, Files.destination, hstart, hsteps, List.foldl_append,
    foldl_step (hk.leads hextension), ← foldl_steps]
  rfl

/-- A unit stays below the output directory, whatever that is, exactly if it is not anchored. -/
theorem isBelow_iff (hk : k.IsProper) (hextension : IsExtension t.extension) :
    (∀ root, IsBelow (({ t with root } : Target).destination k) ({ t with root } : Target).place) ↔
      ¬k.IsAnchored := by
  constructor
  · intro hbelow hanchored
    -- Where the unit goes could be the output directory itself.
    have hplace : ({ t with root := t.pathOf k } : Target).place = t.destination k := by
      rw [place, destination]
    have hsame : ({ t with root := t.pathOf k } : Target).destination k = t.destination k :=
      destination_of_isAnchored hanchored (t.pathOf k)
    exact (hbelow (t.pathOf k)).2 (hsame.trans hplace.symm)
  · intro hfree root
    obtain ⟨before, last, hnames, -⟩ := hk.exists_names_eq hextension
    have hdestination := destination_eq (t := { t with root }) hk hextension hfree
    rw [hdestination]
    refine ⟨List.prefix_append _ _, ?_⟩
    simp [hnames]

/-- Two units that are not anchored go to one place exactly if they have the same names. -/
theorem destination_eq_iff (hk : k.IsProper) (hk' : k'.IsProper)
    (hextension : IsExtension t.extension) (hfree : ¬k.IsAnchored) (hfree' : ¬k'.IsAnchored) :
    t.destination k = t.destination k' ↔ k.names t.extension = k'.names t.extension := by
  rw [destination_eq hk hextension hfree, destination_eq hk' hextension hfree',
    List.append_cancel_left_eq]

/-- Two units without a `/` in their names go to different places. -/
theorem eq_of_destination_eq (hk : k.IsProper) (hk' : k'.IsProper)
    (hextension : IsExtension t.extension) (hflat : k.IsFlat) (hflat' : k'.IsFlat)
    (h : t.destination k = t.destination k') : k = k' := by
  rw [destination_eq_iff hk hk' hextension hflat.not_isAnchored hflat'.not_isAnchored,
    hflat.names_eq hextension, hflat'.names_eq hextension] at h
  exact hk.eq_of_parts_eq hk' h

end CompanionSource.Files.Target
