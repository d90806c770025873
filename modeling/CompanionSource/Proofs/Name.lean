import CompanionSource.Proofs.Text
import CompanionSource.TypeExpr.Basic

/-! # Dotted names

    A name is its segments with dots between them, and this in one way only.

    - **Segments**: what stands before the first dot is the first segment, and the others are
      those of what stands behind it.
    - **Written names**: a segment stands bare or between backticks, and bare only if it has the
      shape of an identifier.
    - **Scopes**: a name goes on from what stands before its last segment, and the name as seen
      from a scope gives back the name.
    - **Types**: a property of names is lifted to all the names in a type. -/

namespace CompanionSource.Name

/-! ### Segments -/

theorem intercalate_segments (name : String) : ".".intercalate (segments name) = name := by
  have hchars : (segments name).map String.toList = name.toList.splitOn '.' := by
    simp [segments, Function.comp_def]
  rw [← String.toList_inj, String.toList_intercalate, hchars]
  exact List.intercalate_splitOn '.'

theorem segments_ne_nil (name : String) : segments name ≠ [] := by
  simp [segments]

/-- A name without a dot is its only segment. -/
theorem segments_eq_singleton {name : String} (h : '.' ∉ name.toList) : segments name = [name] := by
  simp [segments, List.splitOn_eq_singleton h]

/-- A dot stands between the segments in front of it and those behind it. -/
theorem segments_dot (front back : String) :
    segments (front ++ "." ++ back) = segments front ++ segments back := by
  have hchars : (front ++ "." ++ back).toList = front.toList ++ '.' :: back.toList := by
    simp [String.toList_append]
  simp [segments, hchars, List.splitOn_append_cons_self]

/-- The first dot ends the first segment. -/
theorem segments_append {first : String} (h : '.' ∉ first.toList) (others : String) :
    segments (first ++ "." ++ others) = first :: segments others := by
  rw [segments_dot, segments_eq_singleton h, List.singleton_append]

/-- The characters of a segment are among those of the name. -/
theorem mem_of_mem_segments {name segment : String} {c : Char} (hsegment : segment ∈ segments name)
    (hc : c ∈ segment.toList) : c ∈ name.toList := by
  obtain ⟨piece, hpiece, rfl⟩ := List.mem_map.mp hsegment
  rw [String.toList_ofList] at hc
  exact (Text.piece_of_mem_splitOn hpiece).2 hc

theorem dot_not_mem_of_mem_segments {name segment : String} (h : segment ∈ segments name) :
    '.' ∉ segment.toList := by
  obtain ⟨piece, hpiece, rfl⟩ := List.mem_map.mp h
  rw [String.toList_ofList]
  exact (Text.piece_of_mem_splitOn hpiece).1

theorem simple_mem_segments (name : String) : simple name ∈ segments name := by
  rw [simple, List.getLastD_eq_getLast?, List.getLast?_eq_some_getLast (segments_ne_nil name)]
  exact List.getLast_mem _

/-- The last segment of a member of a scope is the member. -/
theorem simple_qualify (scope : String) {member : String} (h : '.' ∉ member.toList) :
    simple (qualify scope member) = member := by
  unfold qualify
  split
  · rw [simple, segments_eq_singleton h]
    rfl
  · rw [simple, segments_dot, segments_eq_singleton h, List.getLastD_concat]

/-! ### Written names -/

/-- A name stands between backticks, or bare if it has the shape of an identifier. -/
theorem written_cases (name : String) :
    written name = "`" ++ name ++ "`" ∨ written name = name ∧ isPlain name := by
  unfold written
  split
  · exact .inl rfl
  · next hbare =>
    simp only [Bool.or_eq_true, not_or, Bool.not_eq_true, Bool.not_eq_false'] at hbare
    exact .inr ⟨rfl, hbare.2⟩

/-- An identifier as it stands bare: its first character, and those that go on with it. -/
def IsBare (word : List Char) : Prop :=
  ∃ first more, word = first :: more ∧ Text.startsName first ∧ ∀ c ∈ more, Text.continuesName c

/-- A bare identifier goes on with itself at every character. -/
theorem IsBare.continues {word : List Char} (h : IsBare word) :
    ∀ c ∈ word, Text.continuesName c := by
  obtain ⟨first, more, rfl, hfirst, hmore⟩ := h
  exact List.forall_mem_cons.mpr ⟨Text.continuesName_of_startsName hfirst, hmore⟩

theorem IsBare.not_mem {word : List Char} (h : IsBare word) {c : Char}
    (hc : Text.continuesName c = false) : c ∉ word := by
  intro hmem
  rw [h.continues c hmem] at hc
  cases hc

theorem isPlain_iff {name : String} : isPlain name ↔ IsBare name.toList := by
  unfold isPlain
  cases name.toList <;> simp [IsBare, and_assoc]

theorem continuesName_of_isPlain {name : String} (h : isPlain name) :
    ∀ c ∈ name.toList, Text.continuesName c :=
  (isPlain_iff.mp h).continues

theorem not_mem_of_isPlain {name : String} (h : isPlain name) {c : Char}
    (hc : Text.continuesName c = false) : c ∉ name.toList :=
  (isPlain_iff.mp h).not_mem hc

/-! ### Scopes -/

theorem within?_eq_some_iff {scope name rest : String} :
    within? scope name = some rest ↔ name = scope ++ "." ++ rest := by
  have htext : name = scope ++ "." ++ rest ↔
      name.toList = scope.toList ++ '.' :: rest.toList := by
    rw [← String.toList_inj]
    simp [String.toList_append]
  rw [htext, ← Text.afterChars_eq_some_iff, within?]
  split
  · next tail htail => simp [htail, ← String.toList_inj]
  · next hnot =>
    simp only [reduceCtorEq, false_iff]
    exact hnot rest.toList

/-- A name goes on from what stands before its last segment, unless that is nothing. -/
theorem qualifier_eq_empty_or_within? (name : String) :
    qualifier name = "" ∨ ∃ rest, within? (qualifier name) name = some rest := by
  obtain ⟨front, last, hsegments⟩ : ∃ front last, segments name = front ++ [last] :=
    ⟨_, _, (List.dropLast_concat_getLast (segments_ne_nil name)).symm⟩
  have hqualifier : qualifier name = ".".intercalate front := by
    rw [qualifier, hsegments, List.dropLast_concat]
  rw [hqualifier]
  by_cases hfront : front = []
  · left
    rw [hfront, String.intercalate_nil]
  · right
    refine ⟨last, within?_eq_some_iff.mpr ?_⟩
    have hwhole := intercalate_segments name
    rw [hsegments, String.intercalate_append_of_ne_nil hfront (List.cons_ne_nil _ _),
      String.intercalate_singleton] at hwhole
    exact hwhole.symm

/-- A name that goes on from the scope is the scope and the name as seen from there. -/
theorem qualify_relativeTo {scope name : String}
    (h : scope = "" ∨ ∃ rest, within? scope name = some rest) :
    qualify scope (relativeTo scope name) = name := by
  unfold qualify relativeTo
  by_cases hempty : scope.isEmpty = true
  · simp [hempty]
  · rcases h with rfl | ⟨rest, hrest⟩
    · exact absurd rfl hempty
    · simp only [hempty, Bool.false_eq_true, if_false, hrest, Option.getD_some]
      exact (within?_eq_some_iff.mp hrest).symm

end CompanionSource.Name

/-! ### Names in types -/

/-- Every name in the type has the property. -/
inductive CompanionSource.TypeExpr.EveryName (p : String → Prop) : TypeExpr → Prop
  | mk {name : String} {arguments : List (TypeArgument TypeExpr)} {nullable : Bool}
      (hname : p name) (harguments : ∀ v t, .of v t ∈ arguments → EveryName p t) :
      EveryName p ⟨name, arguments, nullable⟩
