import CompanionSource.Proofs.Source.TemplateReading
import CompanionSource.Proofs.TypeExpr.RoundTrip

/-! # Marks at the top

    A text is **split** at the marks that stand at the top: in no brackets, and outside backticks.

    What the splitter does not part, and behind which it stands as it stood in front, is **whole**.
    A printed name is whole, since the marks in it stand between backticks.  A printed type is
    whole: the commas that part its arguments stand in its brackets, and so one level deeper. -/

namespace CompanionSource.Source

/-! ### Splitting at the top -/

/-- Where a character of a text stands. -/
structure Nesting where
  /-- The number of brackets it stands in. -/
  depth : Nat := 0
  /-- It stands between backticks. -/
  quoted : Bool := false
  deriving DecidableEq

namespace Nesting

/-- In no brackets, and outside backticks. -/
def top : Nesting := {}

/-- Where the next character stands.  Between backticks a bracket is like any other character. -/
def past (n : Nesting) (c : Char) : Nesting :=
  if c = '`' then { n with quoted := !n.quoted }
  else if n.quoted then n
  else if c = '<' then { n with depth := n.depth + 1 }
  else if c = '>' then { n with depth := n.depth - 1 }
  else n

/-- The pieces of a text between the marks at the top. -/
def pieces (mark : Char) : Nesting → List Char → List (List Char)
  | _, [] => [[]]
  | n, c :: cs =>
    if c = mark ∧ n = top then [] :: pieces mark n cs
    else (pieces mark (n.past c) cs).modifyHead (c :: ·)

/-- The splitter does not part the code, and stands behind it as it stood in front of it. -/
def Whole (mark : Char) (n : Nesting) (code : String) : Prop :=
  ∀ cs, pieces mark n (code.toList ++ cs) = (pieces mark n cs).modifyHead (code.toList ++ ·)

section whole
variable {mark : Char} {n : Nesting} {code : String}

theorem whole_empty : Whole mark n "" := by
  intro cs
  exact (congrFun List.modifyHead_id _).symm

theorem Whole.append {code' : String} (h : Whole mark n code) (h' : Whole mark n code') :
    Whole mark n (code ++ code') := by
  intro cs
  rw [String.toList_append, List.append_assoc, h, h', List.modifyHead_modifyHead]
  simp [Function.comp_def]

theorem whole_intercalate {separator : String} (hseparator : Whole mark n separator)
    {codes : List String} (h : ∀ code ∈ codes, Whole mark n code) :
    Whole mark n (separator.intercalate codes) :=
  Text.intercalate_induction whole_empty (fun _ _ hfront hback => hfront.append hback)
    hseparator h

/-- A character that is no mark at the top begins the first piece. -/
theorem pieces_cons {c : Char} (h : ¬(c = mark ∧ n = top)) (cs : List Char) :
    pieces mark n (c :: cs) = (pieces mark (n.past c) cs).modifyHead (c :: ·) := by
  rw [pieces, if_neg h]

/-- Characters that neither part a text nor change where the next ones stand. -/
theorem whole_of_forall (h : ∀ c ∈ code.toList, n.past c = n ∧ ¬(c = mark ∧ n = top)) :
    Whole mark n code := by
  obtain ⟨chars, rfl⟩ : ∃ chars, code = String.ofList chars := ⟨code.toList, by simp⟩
  rw [String.toList_ofList] at h
  intro cs
  rw [String.toList_ofList]
  induction chars with
  | nil => exact (congrFun List.modifyHead_id _).symm
  | cons c chars ih =>
    obtain ⟨⟨hpast, hmark⟩, hmore⟩ := List.forall_mem_cons.mp h
    rw [List.cons_append, pieces_cons hmark, hpast, ih hmore, List.modifyHead_modifyHead]
    rfl

theorem whole_of_all (h : code.toList.all fun c => n.past c = n ∧ ¬(c = mark ∧ n = top)) :
    Whole mark n code :=
  whole_of_forall fun c hc => of_decide_eq_true (List.all_eq_true.mp h c hc)

/-- What is whole inside is whole with the characters that lead there and back. -/
theorem whole_enclosed {inner : Nesting} {front back : String} {first last : Char}
    (hfront : front.toList = [first]) (hback : back.toList = [last])
    (hfirst : ¬(first = mark ∧ n = top)) (hlast : ¬(last = mark ∧ inner = top))
    (hinner : n.past first = inner) (houter : inner.past last = n) (h : Whole mark inner code) :
    Whole mark n (front ++ code ++ back) := by
  intro cs
  have hchars : (front ++ code ++ back).toList ++ cs = first :: (code.toList ++ last :: cs) := by
    simp [String.toList_append, hfront, hback]
  rw [hchars, pieces_cons hfirst, hinner, h, pieces_cons hlast, houter,
    List.modifyHead_modifyHead, List.modifyHead_modifyHead]
  simp [Function.comp_def, String.toList_append, hfront, hback]

/-- What is whole is the only piece of it. -/
theorem Whole.pieces_eq (h : Whole mark top code) :
    pieces mark top code.toList = [code.toList] := by
  have hpieces := h []
  rw [List.append_nil] at hpieces
  rw [hpieces]
  simp [pieces]

/-- What is whole is the piece in front of a mark. -/
theorem Whole.pieces_append (h : Whole mark top code) (cs : List Char) :
    pieces mark top (code.toList ++ mark :: cs) = code.toList :: pieces mark top cs := by
  rw [h, pieces, if_pos ⟨rfl, rfl⟩, List.modifyHead_cons, List.append_nil]

end whole

/-! ### Names and types stay whole -/

section whole
variable {mark : Char} {depth : Nat} {code : String}

/-- The marks that stand between entries, and between the name and the bound of an entry. -/
def marks : List Char := [',', ':']

/-- The characters that change where the next ones stand. -/
def turns : List Char := ['`', '<', '>']

theorem past_of_not_mem {n : Nesting} {c : Char} (h : c ∉ turns) : n.past c = n := by
  simp only [turns, List.mem_cons, List.not_mem_nil, or_false, not_or] at h
  simp [past, h]

/-- What changes where the next characters stand is no mark. -/
theorem not_mark {n : Nesting} (hmark : mark ∈ marks) {c : Char} (hc : c ∈ turns) :
    ¬(c = mark ∧ n = top) := by
  rintro ⟨rfl, -⟩
  have hdisjoint : marks.all (· ∉ turns) := by decide
  exact of_decide_eq_true (List.all_eq_true.mp hdisjoint c hmark) hc

/-- Characters of no meaning to the splitter stay whole anywhere. -/
theorem whole_of_not_mem {n : Nesting} (hmark : mark ∈ marks)
    (h : code.toList.all (· ∉ turns ++ marks)) : Whole mark n code := by
  refine whole_of_forall ?_
  intro c hc
  have hnone : c ∉ turns ++ marks := of_decide_eq_true (List.all_eq_true.mp h c hc)
  constructor
  · exact past_of_not_mem fun hmem => hnone (List.mem_append_left marks hmem)
  · rintro ⟨rfl, -⟩
    exact hnone (List.mem_append_right turns hmark)

/-- A comma in brackets does not part a text. -/
theorem whole_comma : Whole mark { depth := depth + 1 } ", " := by
  have hnone : ", ".toList.all (· ∉ turns) := by decide
  refine whole_of_forall ?_
  intro c hc
  constructor
  · exact past_of_not_mem (of_decide_eq_true (List.all_eq_true.mp hnone c hc))
  · simp [top]

/-- Between backticks nothing but a backtick has a meaning. -/
theorem whole_quoted (hmark : mark ∈ marks) {name : String} (h : IsUnquoted name) :
    Whole mark { depth } ("`" ++ name ++ "`") := by
  -- No place between backticks is the top, so nothing in the name parts it.
  have hname : Whole mark { depth, quoted := true } name := by
    refine whole_of_forall ?_
    intro c hc
    have hquote : c ≠ '`' := fun heq => h (heq ▸ hc)
    simp [past, hquote, top]
  exact whole_enclosed rfl rfl (not_mark hmark (by decide)) (not_mark hmark (by decide)) rfl rfl
    hname

/-- What is whole in brackets is whole with its brackets. -/
theorem whole_bracketed (hmark : mark ∈ marks) (h : Whole mark { depth := depth + 1 } code) :
    Whole mark { depth } ("<" ++ code ++ ">") :=
  whole_enclosed rfl rfl (not_mark hmark (by decide)) (not_mark hmark (by decide)) rfl rfl h

/-- A written name stays whole, bare or between backticks. -/
theorem whole_written (hmark : mark ∈ marks) {name : String} (h : IsUnquoted name) :
    Whole mark { depth } (Name.written name) := by
  rcases Name.written_cases name with hquoted | ⟨hbare, hplain⟩
  · rw [hquoted]
    exact whole_quoted hmark h
  · rw [hbare]
    refine whole_of_not_mem hmark (List.all_eq_true.mpr ?_)
    intro c hc
    rw [decide_eq_true_iff]
    intro hmem
    -- No identifier goes on with a character that has a meaning.
    have hnone : Text.continuesName c = false := by
      refine Text.not_continuesName_of_mem ?_
      simp only [turns, marks, List.cons_append, List.nil_append, List.mem_cons,
        List.not_mem_nil, or_false] at hmem
      rcases hmem with rfl | rfl | rfl | rfl | rfl <;> simp
    exact Name.not_mem_of_isPlain hplain hnone hc

theorem whole_writtenDotted (hmark : mark ∈ marks) {name : String} (h : Name.AreWritable name) :
    Whole mark { depth } (Name.writtenDotted name) := by
  refine whole_intercalate (whole_of_not_mem hmark (by decide)) ?_
  intro code hcode
  obtain ⟨segment, hsegment, rfl⟩ := List.mem_map.mp hcode
  exact whole_written hmark (h segment hsegment).2

/-- A printed type stays whole. -/
theorem whole_text (hmark : mark ∈ marks) {t : TypeExpr} (h : t.WellNamed) :
    Whole mark { depth } t.text := by
  induction h generalizing depth with
  | @mk name arguments nullable hname _ ih =>
    -- The arguments stand one level deeper than the type, where commas do not part a text.
    have harguments : ∀ code ∈ TypeExpr.argumentTexts arguments,
        Whole mark { depth := depth + 1 } code := by
      rw [TypeExpr.argumentTexts_eq_map, List.forall_mem_map]
      intro a ha
      cases a with
      | star =>
        show Whole mark { depth := depth + 1 } "*"
        exact whole_of_not_mem hmark (by decide)
      | of variance t =>
        have ht : Whole mark { depth := depth + 1 } t.text := ih variance t ha
        cases variance with
        | none => exact ht
        | some v =>
          have hword : Whole mark { depth := depth + 1 } (v.word ++ " ") := by
            cases v <;> exact whole_of_not_mem hmark (by decide)
          exact hword.append ht
    rw [TypeExpr.text]
    refine ((whole_writtenDotted hmark hname).append ?_).append ?_
    · split
      · exact whole_empty
      · exact whole_bracketed hmark (whole_intercalate whole_comma harguments)
    · split
      · exact whole_of_not_mem hmark (by decide)
      · exact whole_empty

end whole

end Nesting

end CompanionSource.Source
