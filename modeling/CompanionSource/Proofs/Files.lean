import CompanionSource.Files.Emitter
import CompanionSource.Proofs.Round.Dates

/-! # Files, whatever their texts

    Whether a file can be written depends on what lies where: on the directories, and on the places
    of the files.  It does not depend on the texts in the files, nor on the text to be written.  So
    an emitter of files overlooks the dates in its units. -/

namespace CompanionSource.Files

namespace Tree

/-! ### Shapes -/

/-- The trees have the same directories, and files at the same places. -/
structure SameShape (t t' : Tree) : Prop where
  directories : t'.directories = t.directories
  places : t'.files.map Prod.fst = t.files.map Prod.fst

theorem isSome_file?_iff {t : Tree} {place : Place} :
    (t.file? place).isSome ↔ place ∈ t.files.map Prod.fst := by
  rw [file?, List.lookup_isSome_iff, List.mem_map]
  constructor
  · intro h
    obtain ⟨f, hf, hplace⟩ := h
    exact ⟨f, hf, (beq_iff_eq.mp hplace).symm⟩
  · intro h
    obtain ⟨f, hf, hplace⟩ := h
    exact ⟨f, hf, beq_iff_eq.mpr hplace.symm⟩

namespace SameShape

variable {t t' : Tree} (h : SameShape t t')
include h

theorem isDirectory (place : Place) : t'.isDirectory place = t.isDirectory place := by
  rw [Tree.isDirectory, h.directories, Tree.isDirectory]

theorem isFile (place : Place) : (t'.file? place).isSome = (t.file? place).isSome := by
  rw [Bool.eq_iff_iff, isSome_file?_iff, isSome_file?_iff, h.places]

/-! ### By place -/

theorem makeDirectory? (place : Place) :
    Option.Rel SameShape (t.makeDirectory? place) (t'.makeDirectory? place) := by
  unfold Tree.makeDirectory?
  rw [h.isDirectory, h.isFile]
  split
  · exact .some h
  · split
    · exact .none
    · exact .some ⟨congrArg (place :: ·) h.directories, h.places⟩

theorem write? (place : Place) (text text' : String) :
    Option.Rel SameShape (t.write? place text) (t'.write? place text') := by
  -- A file that is there keeps its place.
  have hkept (files : List (Place × String)) (text : String) :
      (files.map fun f => if f.1 = place then (place, text) else f).map Prod.fst
        = files.map Prod.fst := by
    rw [List.map_map]
    refine List.map_congr_left fun f _ => ?_
    by_cases hplace : f.1 = place
    · simp [hplace]
    · simp [hplace]
  unfold Tree.write?
  rw [h.isDirectory, h.isFile]
  split
  · exact .none
  · split
    · refine .some ⟨h.directories, ?_⟩
      rw [hkept, hkept, h.places]
    · refine .some ⟨h.directories, ?_⟩
      rw [List.map_append, List.map_append, h.places]
      rfl

/-! ### By path -/

/-- The way to a place can be made in both trees or in neither, and stays of one shape if it cannot
    be made to its end. -/
theorem makeAlong (place : Place) (names : List String) :
    (Tree.makeAlong place names t').1 = (Tree.makeAlong place names t).1 ∧
      SameShape (Tree.makeAlong place names t).2 (Tree.makeAlong place names t').2 := by
  induction names generalizing t t' place with
  | nil => exact ⟨rfl, h⟩
  | cons name names ih =>
    have hfirst := h.makeDirectory? (place.step name)
    unfold Tree.makeAlong
    generalize t.makeDirectory? (place.step name) = next at hfirst ⊢
    generalize t'.makeDirectory? (place.step name) = next' at hfirst ⊢
    cases hfirst with
    | some hnext => exact ih hnext (place.step name)
    | none => exact ⟨rfl, h⟩

theorem makeDirectories (home : Place) (path : String) :
    (t'.makeDirectories home path).1 = (t.makeDirectories home path).1 ∧
      SameShape (t.makeDirectories home path).2 (t'.makeDirectories home path).2 :=
  h.makeAlong (start home path) (moves path)

theorem walk? (place : Place) (names : List String) :
    t'.walk? place names = t.walk? place names := by
  induction names generalizing place with
  | nil => rfl
  | cons name names ih => rw [Tree.walk?, Tree.walk?, h.isDirectory, ih]

theorem writeAt? (home : Place) (path text text' : String) :
    Option.Rel SameShape (t.writeAt? home path text) (t'.writeAt? home path text') := by
  unfold Tree.writeAt?
  rw [h.walk?]
  split
  · exact .none
  · cases t.walk? (start home path) (steps path) with
    | none => exact .none
    | some place => exact h.write? place text text'

end SameShape

end Tree

/-! ### Emitters of files -/

namespace Target

/-- The directory of a path can be made in both trees or in neither. -/
theorem makeParent_sameShape (target : Target) (path : String) {t t' : Tree}
    (h : Tree.SameShape t t') :
    (target.makeParent path t').1 = (target.makeParent path t).1 ∧
      Tree.SameShape (target.makeParent path t).2 (target.makeParent path t').2 := by
  unfold makeParent
  cases parent? path with
  | none => exact ⟨rfl, h⟩
  | some directory =>
    by_cases hadmits : target.admits directory = true
    · obtain ⟨hall, hmade⟩ := h.makeDirectories target.home directory
      simp only [hadmits, if_true]
      generalize t.makeDirectories target.home directory = x at hall hmade ⊢
      generalize t'.makeDirectories target.home directory = x' at hall hmade ⊢
      obtain ⟨all, made⟩ := x
      obtain ⟨all', made'⟩ := x'
      obtain rfl : all' = all := hall
      cases all' with
      | true => exact ⟨rfl, hmade⟩
      | false => exact ⟨rfl, hmade⟩
    · simp only [hadmits]
      exact ⟨rfl, h⟩

/-- Of two outputs with trees of one shape, both take a unit or neither does, whatever its date. -/
theorem submit_dated (target : Target) (unit : SourceUnit) (m m' : Moment) {o o' : Output}
    (h : Tree.SameShape o.tree o'.tree) :
    (target.emitter.submit (unit.dated m) o).1 = (target.emitter.submit (unit.dated m') o').1 ∧
      Tree.SameShape (target.emitter.submit (unit.dated m) o).2.tree
        (target.emitter.submit (unit.dated m') o').2.tree := by
  have hpath (m : Moment) : target.path (unit.dated m) = target.path unit := by
    unfold path SourceUnit.relativePath Source.File.relativePath
    rfl
  unfold emitter write
  simp only [hpath]
  obtain ⟨hverdict, hmade⟩ := target.makeParent_sameShape (target.path unit) h
  generalize target.makeParent (target.path unit) o.tree = x at hverdict hmade ⊢
  generalize target.makeParent (target.path unit) o'.tree = x' at hverdict hmade ⊢
  obtain ⟨verdict, made⟩ := x
  obtain ⟨verdict', made'⟩ := x'
  obtain rfl : verdict' = verdict := hverdict
  cases verdict' with
  | error e => exact ⟨rfl, hmade⟩
  | ok _ =>
    by_cases hadmits : target.admits (target.path unit) = true
    · simp only [hadmits, if_true]
      have hwrite := hmade.writeAt? target.home (target.path unit)
        ((unit.dated m).text target.step) ((unit.dated m').text target.step)
      dsimp only at hwrite
      generalize made.writeAt? target.home (target.path unit) ((unit.dated m).text target.step) = next
        at hwrite ⊢
      generalize made'.writeAt? target.home (target.path unit) ((unit.dated m').text target.step) =
        next' at hwrite ⊢
      cases hwrite with
      | some hnext => exact ⟨rfl, hnext⟩
      | none => exact ⟨rfl, hmade⟩
    · simp only [hadmits]
      exact ⟨rfl, hmade⟩

/-- **Files overlook dates.**  What an emitter of files takes does not depend on the dates in the
    units. -/
theorem overlooksDates (target : Target) (o : Output) : target.emitter.OverlooksDates o := by
  have hstart : Tree.SameShape o.tree o.tree := ⟨rfl, rfl⟩
  refine Emitter.overlooksDates_of_relation
    (R := fun o o' : Output => Tree.SameShape o.tree o'.tree) hstart ?_
  intro unit m m' o o' h
  exact target.submit_dated unit m m' h

end Target

end CompanionSource.Files
