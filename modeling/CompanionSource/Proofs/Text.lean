import CompanionSource.Text.Pieces
import Mathlib.Data.List.TakeWhile

/-! # Pieces and pairs of characters

    What the functions on texts do to two characters side by side.

    - A **piece** between separators has no separator in it.
    - A **pair** of characters stands on one side of any third character.
    - A **mark** stands in one place of a text when no other place has its characters. -/

namespace CompanionSource.Text

/-! ### Pieces -/

/-- A piece has characters of the text in it, but no separator. -/
theorem piece_of_mem_splitOn {sep : Char} {piece cs : List Char} (h : piece ∈ cs.splitOn sep) :
    sep ∉ piece ∧ piece ⊆ cs := by
  induction cs generalizing piece with
  | nil =>
    obtain rfl : piece = [] := by simpa using h
    exact ⟨List.not_mem_nil, List.nil_subset _⟩
  | cons c cs ih =>
    obtain ⟨first, more, hcs⟩ := List.exists_cons_of_ne_nil (List.splitOn_ne_nil sep cs)
    rw [hcs] at ih
    rw [List.splitOn_cons_eq_if_modifyHead, hcs] at h
    have hlater (h : piece ∈ first :: more) : sep ∉ piece ∧ piece ⊆ c :: cs :=
      (ih h).imp_right (List.subset_cons_of_subset c)
    by_cases hsep : sep = c
    · rw [if_pos (by simp [hsep])] at h
      rcases List.mem_cons.mp h with rfl | h
      · exact ⟨List.not_mem_nil, List.nil_subset _⟩
      · exact hlater h
    · rw [if_neg (by simpa using Ne.symm hsep), List.modifyHead_cons] at h
      rcases List.mem_cons.mp h with rfl | h
      · obtain ⟨hfirst, hsubset⟩ := ih List.mem_cons_self
        exact ⟨by simpa [hsep] using hfirst, List.cons_subset_cons c hsubset⟩
      · exact hlater (List.mem_cons_of_mem _ h)

/-- A text is what is left of it at the front, and blanks. -/
theorem exists_dropBlankEnd_append (cs : List Char) :
    ∃ blanks, cs = dropBlankEnd cs ++ blanks ∧ ∀ c ∈ blanks, isBlank c := by
  refine ⟨(cs.reverse.takeWhile isBlank).reverse, ?_, ?_⟩
  · rw [dropBlankEnd, ← List.reverse_append, List.takeWhile_append_dropWhile, List.reverse_reverse]
  · intro c hc
    exact List.mem_takeWhile_imp (List.mem_reverse.mp hc)

/-- A text is blanks in front of and behind what trimming leaves of it. -/
theorem exists_trimChars_append (cs : List Char) :
    ∃ front behind, cs = front ++ trimChars cs ++ behind ∧
      (∀ c ∈ front, isBlank c) ∧ ∀ c ∈ behind, isBlank c := by
  obtain ⟨behind, hbehind, hblank⟩ := exists_dropBlankEnd_append (skipBlanks cs)
  refine ⟨cs.takeWhile isBlank, behind, ?_, fun c hc => List.mem_takeWhile_imp hc, hblank⟩
  rw [trimChars, List.append_assoc, ← hbehind, skipBlanks, List.takeWhile_append_dropWhile]

/-- What holds of the texts and of the separator holds of the texts with the separator between
    them, if it is kept when texts are put together. -/
theorem intercalate_induction {p : String → Prop} (hempty : p "")
    (happend : ∀ front back, p front → p back → p (front ++ back)) {separator : String}
    (hseparator : p separator) {texts : List String} (h : ∀ text ∈ texts, p text) :
    p (separator.intercalate texts) := by
  induction texts with
  | nil => exact hempty
  | cons first others ih =>
    obtain ⟨hfirst, hothers⟩ := List.forall_mem_cons.mp h
    cases others with
    | nil => simpa using hfirst
    | cons second others =>
      rw [String.intercalate_cons_cons]
      exact happend _ _ (happend _ _ hfirst hseparator) (ih hothers)

/-! ### Pairs -/

section pairs
variable {a b c : Char} {xs ys : List Char}

theorem pair_infix_cons_iff {d : Char} :
    [a, b] <:+: c :: d :: xs ↔ (c = a ∧ d = b) ∨ [a, b] <:+: d :: xs := by
  rw [List.infix_cons_iff, List.cons_prefix_cons, List.cons_prefix_cons]
  simp [eq_comm]

theorem not_pair_infix_of_not_mem (h : a ∉ xs) : ¬[a, b] <:+: xs :=
  fun hpair => h (hpair.mem (by simp))

/-- A pair stands on one side of any other character. -/
theorem pair_infix_append_cons_iff (ha : c ≠ a) (hb : c ≠ b) :
    [a, b] <:+: xs ++ c :: ys ↔ [a, b] <:+: xs ∨ [a, b] <:+: ys := by
  induction xs with
  | nil => simp [List.infix_cons_iff, ha.symm]
  | cons x xs ih =>
    cases xs with
    | nil =>
      rw [List.cons_append, List.nil_append, pair_infix_cons_iff]
      simp [List.infix_cons_iff, ha.symm, hb]
    | cons y xs =>
      rw [List.cons_append, List.cons_append, pair_infix_cons_iff, ← List.cons_append, ih,
        pair_infix_cons_iff, or_assoc]

/-- No pair of other characters stands in blanks, or begins there. -/
theorem pair_infix_blank_append_iff (ha : ¬isBlank a) (hb : ¬isBlank b)
    (hblank : ∀ x ∈ xs, isBlank x) : [a, b] <:+: xs ++ ys ↔ [a, b] <:+: ys := by
  induction xs with
  | nil => rfl
  | cons x xs ih =>
    have hx := hblank x List.mem_cons_self
    have hxa : x ≠ a := fun h => ha (h ▸ hx)
    have hxb : x ≠ b := fun h => hb (h ▸ hx)
    have hnil : ¬[a, b] <:+: [] := by simp
    rw [← ih fun y hy => hblank y (List.mem_cons_of_mem _ hy), List.cons_append,
      ← List.nil_append (x :: _), pair_infix_append_cons_iff hxa hxb, or_iff_right hnil]

end pairs

/-! ### Places of a mark -/

/-- The mark stands in the text behind `front` and nowhere else. -/
def StandsOnlyBehind (front mark text : List Char) : Prop :=
  ∀ before, before ++ mark <+: text ↔ before = front

/-- A pair that has not come up stands only where it comes up, if it does not again. -/
theorem standsOnlyBehind_iff {a b : Char} {front behind : List Char} (hne : a ≠ b)
    (hfront : ¬[a, b] <:+: front) :
    StandsOnlyBehind front [a, b] (front ++ a :: b :: behind) ↔ ¬[a, b] <:+: b :: behind := by
  constructor
  · rintro honly ⟨before, after, hbehind⟩
    have hagain : front ++ (a :: before) ++ [a, b] <+: front ++ a :: b :: behind := by
      refine ⟨after, ?_⟩
      rw [← hbehind]
      simp
    have hlength := congrArg List.length ((honly _).mp hagain)
    simp at hlength
  · intro hbehind before
    constructor
    · rintro ⟨after, htext⟩
      rw [List.append_assoc, List.append_eq_append_iff] at htext
      rcases htext with ⟨more, rfl, hmore⟩ | ⟨more, rfl, hmore⟩
      · -- A pair that begins in `front` stands in it, or ends where the next one begins.
        rcases more with _ | ⟨x, _ | ⟨y, more⟩⟩
        · simp
        · obtain ⟨rfl, hsecond⟩ := List.cons.inj hmore
          exact absurd (List.cons.inj hsecond).1.symm hne
        · obtain ⟨rfl, hsecond⟩ := List.cons.inj hmore
          obtain ⟨rfl, -⟩ := List.cons.inj hsecond
          exact absurd ⟨before, more, by simp⟩ hfront
      · rcases more with _ | ⟨x, more⟩
        · simp
        · obtain ⟨rfl, hrest⟩ := List.cons.inj hmore
          exact absurd ⟨more, after, by simpa using hrest.symm⟩ hbehind
    · rintro rfl
      exact ⟨behind, by simp⟩

end CompanionSource.Text
