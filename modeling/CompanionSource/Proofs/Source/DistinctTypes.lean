import CompanionSource.Proofs.Source.TemplateReading
import CompanionSource.Proofs.TypeExpr.RoundTrip

/-! # Types told apart

    Two types of the same text are the same type, if no name in them has a backtick.  The names
    need not be names that can be read: a segment may be empty.

    Each step says that a text tells what it is the text of, and where it ends, whatever stands
    behind it:

    - a **segment** ends at its second backtick, or where its characters stop to continue it;
    - a **list** of texts with separators ends where no separator stands behind a text;
    - a **type** is its name, its arguments and its question mark, one after another. -/

namespace CompanionSource

open Source (IsUnquoted)

/-! ### Segments -/

namespace Name

theorem exists_cons_of_isPlain {name : String} (h : isPlain name) :
    ∃ c cs, name.toList = c :: cs ∧ Text.startsName c := by
  obtain ⟨c, cs, hchars, hstarts, -⟩ := isPlain_iff.mp h
  exact ⟨c, cs, hchars, hstarts⟩

/-- A written name begins with a backtick or with the first character of an identifier. -/
theorem exists_cons_written (name : String) :
    ∃ c cs, (written name).toList = c :: cs ∧ (c = '`' ∨ Text.startsName c) := by
  rcases written_cases name with hquoted | ⟨hbare, hplain⟩
  · exact ⟨'`', _, by simp [hquoted, String.toList_append]; rfl, .inl rfl⟩
  · obtain ⟨c, cs, hchars, hstarts⟩ := exists_cons_of_isPlain hplain
    exact ⟨c, cs, by rw [hbare, hchars], .inr hstarts⟩

/-- What can follow a segment: nothing that continues it. -/
def EndsSegment (rest : List Char) : Prop :=
  ∀ c ∈ rest.head?, ¬Text.continuesName c

/-- The longest front of characters of one sort is told by the whole text. -/
theorem front_append_inj {p : Char → Bool} {front front' rest rest' : List Char}
    (h : ∀ c ∈ front, p c) (h' : ∀ c ∈ front', p c) (hrest : ∀ c ∈ rest.head?, ¬p c)
    (hrest' : ∀ c ∈ rest'.head?, ¬p c) (heq : front ++ rest = front' ++ rest') :
    front = front' ∧ rest = rest' := by
  induction front generalizing front' with
  | nil =>
    cases front' with
    | nil => exact ⟨rfl, heq⟩
    | cons c cs =>
      have hhead : c ∈ rest.head? := by
        rw [← List.nil_append rest, heq]
        rfl
      exact absurd (h' c List.mem_cons_self) (hrest c hhead)
  | cons c cs ih =>
    cases front' with
    | nil =>
      have hhead : c ∈ rest'.head? := by
        rw [← List.nil_append rest', ← heq]
        rfl
      exact absurd (h c List.mem_cons_self) (hrest' c hhead)
    | cons c' cs' =>
      obtain ⟨rfl, htail⟩ := List.cons.inj heq
      obtain ⟨rfl, hrest⟩ := ih (fun d hd => h d (List.mem_cons_of_mem _ hd))
        (fun d hd => h' d (List.mem_cons_of_mem _ hd)) htail
      exact ⟨rfl, hrest⟩

/-- Between backticks a name never is what is bare somewhere else. -/
theorem quoted_ne_bare {name bare : String} {rest rest' : List Char} (h : isPlain bare) :
    ("`" ++ name ++ "`").toList ++ rest ≠ bare.toList ++ rest' := by
  obtain ⟨c, cs, hchars, hstarts⟩ := exists_cons_of_isPlain h
  intro heq
  rw [hchars] at heq
  have hc : '`' = c := by simpa [String.toList_append] using congrArg List.head? heq
  exact TypeExpr.Parser.ne_backtick_of_startsName hstarts hc.symm

/-- What is written for a name tells the name, and where it ends. -/
theorem written_append_inj {name name' : String} {rest rest' : List Char}
    (h : IsUnquoted name) (h' : IsUnquoted name') (hrest : EndsSegment rest)
    (hrest' : EndsSegment rest')
    (heq : (written name).toList ++ rest = (written name').toList ++ rest') :
    name = name' ∧ rest = rest' := by
  rcases written_cases name with hwritten | ⟨hwritten, hplain⟩ <;>
    rcases written_cases name' with hwritten' | ⟨hwritten', hplain'⟩ <;>
    rw [hwritten, hwritten'] at heq
  · -- The second backtick ends the name, because the name has none itself.
    have hclosed {n : String} (hn : IsUnquoted n) : ∀ c ∈ n.toList, (c != '`') = true := by
      intro c hc
      rw [bne_iff_ne]
      rintro rfl
      exact hn hc
    have hinside : name.toList ++ '`' :: rest = name'.toList ++ '`' :: rest' := by
      simpa [String.toList_append] using heq
    obtain ⟨hname, hbehind⟩ := front_append_inj (hclosed h) (hclosed h')
      (by rintro c ⟨⟩; decide) (by rintro c ⟨⟩; decide) hinside
    exact ⟨String.toList_inj.mp hname, List.tail_eq_of_cons_eq hbehind⟩
  · exact absurd heq (quoted_ne_bare hplain')
  · exact absurd heq.symm (quoted_ne_bare hplain)
  · obtain ⟨hname, hrest⟩ := front_append_inj (continuesName_of_isPlain hplain)
      (continuesName_of_isPlain hplain') hrest hrest' heq
    exact ⟨String.toList_inj.mp hname, hrest⟩

end Name

/-! ### Separated texts -/

/-- What stands behind the first of some texts: a separator and the others, or the rest at
    once. -/
def behindFirst (separator : String) (others : List String) (rest : List Char) : List Char :=
  if others.isEmpty then rest
  else separator.toList ++ ((separator.intercalate others).toList ++ rest)

theorem toList_intercalate_cons_append (separator first : String) (others : List String)
    (rest : List Char) :
    (separator.intercalate (first :: others)).toList ++ rest =
      first.toList ++ behindFirst separator others rest := by
  cases others with
  | nil => simp [behindFirst]
  | cons second others =>
    simp [behindFirst, String.intercalate_cons_cons, String.toList_append]

section separated
variable {α : Type} {code : α → String} {separator : String} {c : Char}
  {Ends : List Char → Prop} {rest rest' : List Char}

/-- Texts with separators between them tell what they are the texts of, if each of them does, and
    no separator stands behind the last one. -/
theorem intercalate_append_inj (hseparator : separator.toList.head? = some c)
    (hends : ∀ rest, Ends (separator.toList ++ rest)) {xs ys : List α} (hxs : xs ≠ [])
    (hys : ys ≠ [])
    (hcode : ∀ x ∈ xs, ∀ y ∈ ys, ∀ {rest rest'}, Ends rest → Ends rest' →
      (code x).toList ++ rest = (code y).toList ++ rest' → x = y ∧ rest = rest')
    (hrest : Ends rest) (hrest' : Ends rest') (hlast : rest.head? ≠ some c)
    (hlast' : rest'.head? ≠ some c)
    (heq : (separator.intercalate (xs.map code)).toList ++ rest =
      (separator.intercalate (ys.map code)).toList ++ rest') :
    xs = ys ∧ rest = rest' := by
  have hbehind (others : List String) {rest : List Char} (hrest : Ends rest) :
      Ends (behindFirst separator others rest) := by
    unfold behindFirst
    split
    · exact hrest
    · exact hends _
  -- A separator stands behind a first text exactly if others do.
  have hhead (first : String) (others : List String) (rest : List Char) :
      (behindFirst separator (first :: others) rest).head? = some c := by
    show (separator.toList ++ _).head? = some c
    rw [List.head?_append, hseparator]
    rfl
  induction xs generalizing ys with
  | nil => exact absurd rfl hxs
  | cons x xs ih =>
    obtain ⟨y, ys, rfl⟩ := List.exists_cons_of_ne_nil hys
    rw [List.map_cons, List.map_cons, toList_intercalate_cons_append,
      toList_intercalate_cons_append] at heq
    obtain ⟨rfl, hothers⟩ := hcode x List.mem_cons_self y List.mem_cons_self (hbehind _ hrest)
      (hbehind _ hrest') heq
    cases xs with
    | nil =>
      cases ys with
      | nil => exact ⟨rfl, hothers⟩
      | cons y' ys => exact absurd ((congrArg List.head? hothers).trans (hhead _ _ _)) hlast
    | cons x' xs =>
      cases ys with
      | nil => exact absurd ((congrArg List.head? hothers).symm.trans (hhead _ _ _)) hlast'
      | cons y' ys =>
        obtain ⟨htail, hrest⟩ := ih (List.cons_ne_nil _ _) (List.cons_ne_nil _ _)
          (fun x hx y hy => hcode x (List.mem_cons_of_mem _ hx) y (List.mem_cons_of_mem _ hy))
          (List.append_cancel_left hothers)
        exact ⟨congrArg _ htail, hrest⟩

end separated

/-! ### Dotted names -/

namespace TypeExpr.Parser

open Name (EndsSegment)

variable {rest rest' : List Char}

/-- A dotted name tells its segments. -/
theorem writtenDotted_append_inj {name name' : String} (h : IsUnquoted name)
    (h' : IsUnquoted name') (hrest : EndsName rest) (hrest' : EndsName rest')
    (heq : (Name.writtenDotted name).toList ++ rest =
      (Name.writtenDotted name').toList ++ rest') : name = name' ∧ rest = rest' := by
  have hsegment {n segment : String} (hn : IsUnquoted n) (hmem : segment ∈ Name.segments n) :
      IsUnquoted segment := fun hc => hn (Name.mem_of_mem_segments hmem hc)
  have hdot (rest : List Char) : EndsSegment (".".toList ++ rest) := by
    rintro c ⟨⟩
    decide
  obtain ⟨hsegments, hrest⟩ := intercalate_append_inj rfl hdot (Name.segments_ne_nil name)
    (Name.segments_ne_nil name')
    (fun segment hmem segment' hmem' =>
      Name.written_append_inj (hsegment h hmem) (hsegment h' hmem'))
    hrest.not_continues hrest'.not_continues hrest.head?_ne_dot hrest'.head?_ne_dot heq
  refine ⟨?_, hrest⟩
  rw [← Name.intercalate_segments name, hsegments, Name.intercalate_segments]

/-! ### Types -/

/-- A printed type begins with a segment, and behind that stands a mark or nothing. -/
theorem exists_written_text (t : TypeExpr) (hrest : EndsType rest) :
    ∃ segment behind, t.text.toList ++ rest = (Name.written segment).toList ++ behind ∧
      ∀ c ∈ behind.head?, c = '.' ∨ c ∈ ['<', '?', ',', '>'] := by
  obtain ⟨first, others, hsegments⟩ := List.exists_cons_of_ne_nil (Name.segments_ne_nil t.name)
  refine ⟨first, behindFirst "." (others.map Name.written) (behindName t ++ rest), ?_, ?_⟩
  · rw [toList_text, Name.writtenDotted, hsegments, List.map_cons, List.append_assoc,
      toList_intercalate_cons_append]
  · intro c hc
    unfold behindFirst at hc
    split at hc
    · exact .inr (endsName_behindName t hrest c hc)
    · left
      simpa [eq_comm] using hc

/-- What stands behind a first segment does not continue it. -/
theorem endsSegment_of_mark {behind : List Char}
    (h : ∀ c ∈ behind.head?, c = '.' ∨ c ∈ ['<', '?', ',', '>']) : EndsSegment behind := by
  intro c hc
  rcases h c hc with rfl | hmark
  · decide
  · simp [not_continuesName_of_endsName hmark]

theorem isPlain_word (v : Variance) : Name.isPlain v.word = true := by
  cases v <;> decide

theorem toList_projected_append (v : Variance) (t : TypeExpr) (rest : List Char) :
    (argumentText (.of (some v) t)).toList ++ rest =
      v.word.toList ++ ' ' :: (t.text.toList ++ rest) := by
  simp [argumentText, String.toList_append]

/-- No type begins with a star, and no projection does. -/
theorem star_ne_argumentText (v : Option Variance) (t : TypeExpr) (hrest' : EndsType rest') :
    (argumentText .star).toList ++ rest ≠ (argumentText (.of v t)).toList ++ rest' := by
  intro heq
  have hhead : (argumentText (.of v t)).toList ++ rest' = '*' :: rest := heq.symm
  cases v with
  | some v =>
    rw [toList_projected_append] at hhead
    cases v <;> simp [Variance.word] at hhead
  | none =>
    obtain ⟨segment, behind, htext, -⟩ := exists_written_text t hrest'
    obtain ⟨c, cs, hchars, hstarts⟩ := Name.exists_cons_written segment
    have hc : c = '*' := by
      rw [argumentText, htext, hchars] at hhead
      exact (List.cons.inj hhead).1
    subst hc
    revert hstarts
    decide

/-- The word of a projection and a space are not the beginning of a type. -/
theorem projected_ne_plain (v : Variance) (t t' : TypeExpr) (hrest' : EndsType rest') :
    (argumentText (.of (some v) t)).toList ++ rest ≠
      (argumentText (.of none t')).toList ++ rest' := by
  obtain ⟨segment, behind, htext, hmark⟩ := exists_written_text t' hrest'
  intro heq
  rw [toList_projected_append, argumentText, htext] at heq
  rcases Name.written_cases segment with hquoted | ⟨hbare, hplain⟩
  · rw [hquoted] at heq
    exact absurd heq.symm (Name.quoted_ne_bare (isPlain_word v))
  · -- The word would be the segment, but a space does not stand behind a segment.
    rw [hbare] at heq
    obtain ⟨-, hbehind⟩ := Name.front_append_inj
      (Name.continuesName_of_isPlain (isPlain_word v)) (Name.continuesName_of_isPlain hplain)
      (by rintro c ⟨⟩; decide) (endsSegment_of_mark hmark) heq
    have hspace : ' ' ∈ behind.head? := by
      rw [← hbehind]
      rfl
    have hspace := hmark ' ' hspace
    revert hspace
    decide

theorem projected_append_inj {v v' : Variance} {t t' : TypeExpr}
    (heq : (argumentText (.of (some v) t)).toList ++ rest =
      (argumentText (.of (some v') t')).toList ++ rest') :
    v = v' ∧ t.text.toList ++ rest = t'.text.toList ++ rest' := by
  rw [toList_projected_append, toList_projected_append] at heq
  obtain ⟨hword, hbehind⟩ := Name.front_append_inj
    (Name.continuesName_of_isPlain (isPlain_word v))
    (Name.continuesName_of_isPlain (isPlain_word v')) (by rintro c ⟨⟩; decide)
    (by rintro c ⟨⟩; decide) heq
  refine ⟨?_, List.tail_eq_of_cons_eq hbehind⟩
  cases v <;> cases v' <;> first | rfl | cases hword

/-- An argument tells itself, if the types in it do. -/
theorem argumentText_append_inj {a a' : TypeArgument TypeExpr} (hrest : EndsType rest)
    (hrest' : EndsType rest')
    (h : ∀ v t v' t', a = .of v t → a' = .of v' t' → 
      t.text.toList ++ rest = t'.text.toList ++ rest' → t = t' ∧ rest = rest')
    (heq : (argumentText a).toList ++ rest = (argumentText a').toList ++ rest') :
    a = a' ∧ rest = rest' := by
  cases a with
  | star =>
    cases a' with
    | star => exact ⟨rfl, List.append_cancel_left heq⟩
    | of v' t' => exact absurd heq (star_ne_argumentText v' t' hrest')
  | of v t =>
    cases a' with
    | star => exact absurd heq.symm (star_ne_argumentText v t hrest)
    | of v' t' =>
      have htype := h v t v' t' rfl rfl
      cases v with
      | none =>
        cases v' with
        | none =>
          obtain ⟨rfl, hrest⟩ := htype heq
          exact ⟨rfl, hrest⟩
        | some v' => exact absurd heq.symm (projected_ne_plain v' t' t hrest)
      | some v =>
        cases v' with
        | none => exact absurd heq (projected_ne_plain v t t' hrest')
        | some v' =>
          obtain ⟨rfl, htext⟩ := projected_append_inj heq
          obtain ⟨rfl, hrest⟩ := htype htext
          exact ⟨rfl, hrest⟩

/-- A question mark, or none, tells what it says. -/
theorem question_append_inj {nullable nullable' : Bool} (hrest : EndsType rest)
    (hrest' : EndsType rest')
    (heq : (if nullable then "?" else "").toList ++ rest =
      (if nullable' then "?" else "").toList ++ rest') : nullable = nullable' ∧ rest = rest' := by
  have hmark {rest : List Char} (hrest : EndsType rest) : rest.head? ≠ some '?' := by
    intro hmark
    have hmem := hrest '?' hmark
    revert hmem
    decide
  cases nullable <;> cases nullable'
  · exact ⟨rfl, heq⟩
  · exact absurd (congrArg List.head? heq) (hmark hrest)
  · exact absurd (congrArg List.head? heq).symm (hmark hrest')
  · exact ⟨rfl, List.append_cancel_left heq⟩

/-- No bracket opens behind the arguments. -/
theorem head?_question_ne (nullable : Bool) (hrest : EndsType rest) :
    ((if nullable then "?" else "").toList ++ rest).head? ≠ some '<' := by
  cases nullable with
  | false =>
    intro hopen
    have hmem := hrest '<' hopen
    revert hmem
    decide
  | true => simp

/-- What stands behind the name of a type with arguments. -/
theorem behindName_cons (name : String) (a : TypeArgument TypeExpr)
    (as : List (TypeArgument TypeExpr)) (nullable : Bool) (rest : List Char) :
    behindName ⟨name, a :: as, nullable⟩ ++ rest =
      '<' :: ((", ".intercalate ((a :: as).map argumentText)).toList
        ++ '>' :: ((if nullable then "?" else "").toList ++ rest)) := by
  simp [behindName, String.toList_append]

theorem endsType_comma (rest : List Char) : EndsType (", ".toList ++ rest) := by
  rintro c ⟨⟩
  decide

theorem endsType_close (rest : List Char) : EndsType ('>' :: rest) := by
  rintro c ⟨⟩
  decide

/-- What stands behind the name of a type tells its arguments, if each of them tells itself, and
    whether the type is nullable. -/
theorem behindName_append_inj {name : String} {arguments arguments' : List (TypeArgument TypeExpr)}
    {nullable nullable' : Bool}
    (h : ∀ a ∈ arguments, ∀ a' ∈ arguments', ∀ {rest rest'}, EndsType rest → EndsType rest' →
      (argumentText a).toList ++ rest = (argumentText a').toList ++ rest' → a = a' ∧ rest = rest')
    (hrest : EndsType rest) (hrest' : EndsType rest')
    (heq : behindName ⟨name, arguments, nullable⟩ ++ rest =
      behindName ⟨name, arguments', nullable'⟩ ++ rest') :
    arguments = arguments' ∧ nullable = nullable' ∧ rest = rest' := by
  cases arguments with
  | nil =>
    cases arguments' with
    | nil => exact ⟨rfl, question_append_inj hrest hrest' heq⟩
    | cons a' as' =>
      rw [behindName_cons] at heq
      exact absurd (congrArg List.head? heq) (head?_question_ne nullable hrest)
  | cons a as =>
    cases arguments' with
    | nil =>
      rw [behindName_cons] at heq
      exact absurd (congrArg List.head? heq).symm (head?_question_ne nullable' hrest')
    | cons a' as' =>
      rw [behindName_cons, behindName_cons] at heq
      have hcomma : ", ".toList.head? = some ',' := rfl
      obtain ⟨harguments, hclose⟩ := intercalate_append_inj hcomma endsType_comma
        (List.cons_ne_nil a as) (List.cons_ne_nil a' as') h (endsType_close _) (endsType_close _)
        (by simp) (by simp) (List.tail_eq_of_cons_eq heq)
      exact ⟨harguments, question_append_inj hrest hrest' (List.tail_eq_of_cons_eq hclose)⟩

/-- A printed type tells itself, and where it ends. -/
theorem text_append_inj {t t' : TypeExpr} (h : t.EveryName IsUnquoted)
    (h' : t'.EveryName IsUnquoted) (hrest : EndsType rest) (hrest' : EndsType rest')
    (heq : t.text.toList ++ rest = t'.text.toList ++ rest') : t = t' ∧ rest = rest' := by
  induction h generalizing t' rest rest' with
  | @mk name arguments nullable hname _ ih =>
    cases h' with
    | @mk name' arguments' nullable' hname' harguments' =>
      rw [toList_text, toList_text, List.append_assoc, List.append_assoc] at heq
      obtain ⟨rfl, hbehind⟩ := writtenDotted_append_inj hname hname'
        (endsName_behindName _ hrest) (endsName_behindName _ hrest') heq
      -- The types in the arguments are told by the induction hypothesis.
      have hargument : ∀ a ∈ arguments, ∀ a' ∈ arguments', ∀ {rest rest'}, EndsType rest →
          EndsType rest' → (argumentText a).toList ++ rest = (argumentText a').toList ++ rest' →
            a = a' ∧ rest = rest' := by
        intro a ha a' ha' rest rest' hrest hrest'
        refine argumentText_append_inj hrest hrest' ?_
        rintro v t v' t' rfl rfl
        exact ih v t ha (harguments' v' t' ha') hrest hrest'
      obtain ⟨rfl, rfl, hrest⟩ := behindName_append_inj hargument hrest hrest' hbehind
      exact ⟨rfl, hrest⟩

end TypeExpr.Parser

/-- **Types are told apart.**  No two types have the same text, if no name in them has a
    backtick. -/
theorem TypeExpr.eq_of_text_eq {t t' : TypeExpr} (h : t.EveryName IsUnquoted)
    (h' : t'.EveryName IsUnquoted) (heq : t.text = t'.text) : t = t' := by
  have hnothing : Parser.EndsType [] := by rintro c ⟨⟩
  exact (Parser.text_append_inj h h' hnothing hnothing (by rw [heq])).1

end CompanionSource
