import CompanionSource.Source.Member
import CompanionSource.Proofs.Source.Printing
import CompanionSource.Proofs.Text
import Mathlib.Data.List.Infix

/-! # Documentation comments

    Documentation goes into a block comment, so it must not have the marks of one in it.

    - The mark that **closes** a comment is broken up wherever it stands in the documentation, and
      none comes about where lines are put together.  So the comment has it once, at its end.
    - The mark that **opens** a comment is left alone.  It comes out again unless its slash was
      broken up together with a star in front of it.

    Comments nest: a mark that opens another one needs a mark to close it.  So the comment is closed
    at its end exactly if the documentation **opens** none. -/

namespace CompanionSource.Source

open Text (isBlank trimChars dropBlankEnd replacePair)

/-! ### Reading comments -/

/-- What follows a comment, read from inside it: `depth` comments are open around the innermost
    one. -/
def pastDepth : Nat → List Char → Option (List Char)
  | depth, '/' :: '*' :: cs => pastDepth (depth + 1) cs
  | 0, '*' :: '/' :: cs => some cs
  | depth + 1, '*' :: '/' :: cs => pastDepth depth cs
  | depth, _ :: cs => pastDepth depth cs
  | _, [] => none

/-- What follows the comment that a text begins with. -/
def pastComment : List Char → Option (List Char)
  | '/' :: '*' :: cs => pastDepth 0 cs
  | _ => none

theorem pastDepth_cons {depth : Nat} {c d : Char} {cs : List Char} (hopens : ¬(c = '/' ∧ d = '*'))
    (hcloses : ¬(c = '*' ∧ d = '/')) :
    pastDepth depth (c :: d :: cs) = pastDepth depth (d :: cs) := by
  rw [pastDepth]
  · rintro rest rfl ⟨⟩
    exact hopens ⟨rfl, rfl⟩
  · rintro rest rfl rfl ⟨⟩
    exact hcloses ⟨rfl, rfl⟩
  · rintro _ rest rfl rfl ⟨⟩
    exact hcloses ⟨rfl, rfl⟩

/-- Inside a comment a text that closes nothing is passed over.  It leaves comments open if and only
    if it opens some. -/
theorem pastDepth_append {cs : List Char} (hcloses : ¬['*', '/'] <:+: cs) :
    ∃ opened, (opened = 0 ↔ ¬['/', '*'] <:+: cs) ∧ ∀ depth rest,
      pastDepth depth (cs ++ ' ' :: rest) = pastDepth (depth + opened) rest := by
  have hblank (depth : Nat) (rest : List Char) :
      pastDepth depth (' ' :: rest) = pastDepth depth rest := by
    cases rest with
    | nil => simp [pastDepth]
    | cons d rest => exact pastDepth_cons (by simp) (by simp)
  -- The text closes nothing, so going through it pair by pair only those that open count.
  induction cs using Text.replacePair.induct '/' '*' with
  | case1 => exact ⟨0, by simp, fun depth rest => hblank depth rest⟩
  | case2 c =>
    refine ⟨0, by simp [List.infix_cons_iff], fun depth rest => ?_⟩
    rw [List.cons_append, List.nil_append, pastDepth_cons (by simp) (by simp), hblank]
    rfl
  | case3 c d cs hpair ih =>
    obtain ⟨rfl, rfl⟩ := hpair
    rw [Text.pair_infix_cons_iff, not_or] at hcloses
    obtain ⟨opened, -, hopened⟩ := ih fun h => hcloses.2 (List.infix_cons h)
    refine ⟨opened + 1, by simp [List.infix_cons_iff], fun depth rest => ?_⟩
    rw [List.cons_append, List.cons_append, pastDepth, hopened, Nat.add_right_comm]
    rfl
  | case4 c d cs hpair ih =>
    rw [Text.pair_infix_cons_iff, not_or] at hcloses
    obtain ⟨opened, hzero, hopened⟩ := ih hcloses.2
    refine ⟨opened, ?_, fun depth rest => ?_⟩
    · rw [hzero, Text.pair_infix_cons_iff, or_iff_right hpair]
    · rw [List.cons_append, List.cons_append, pastDepth_cons hpair hcloses.1, ← List.cons_append,
        hopened]

/-! ### Broken up marks -/

/-- A text with the marks that close a comment broken up. -/
def brokenUp (cs : List Char) : List Char := replacePair '*' '/' "*&#47;".toList cs

section broken
variable {c d : Char} {cs : List Char}

@[simp] theorem brokenUp_nil : brokenUp [] = [] := by
  rw [brokenUp, replacePair]

@[simp] theorem brokenUp_singleton : brokenUp [c] = [c] := by
  rw [brokenUp, replacePair]

theorem brokenUp_mark : brokenUp ('*' :: '/' :: cs) = "*&#47;".toList ++ brokenUp cs := by
  rw [brokenUp, replacePair, if_pos ⟨rfl, rfl⟩, brokenUp]

theorem brokenUp_cons (h : ¬(c = '*' ∧ d = '/')) :
    brokenUp (c :: d :: cs) = c :: brokenUp (d :: cs) := by
  rw [brokenUp, replacePair, if_neg h, brokenUp]

/-- Breaking up marks leaves the first character of a text. -/
theorem exists_brokenUp_cons (c : Char) (cs : List Char) :
    ∃ more, brokenUp (c :: cs) = c :: more := by
  cases cs with
  | nil => exact ⟨[], brokenUp_singleton⟩
  | cons d cs =>
    by_cases hpair : c = '*' ∧ d = '/'
    · obtain ⟨rfl, rfl⟩ := hpair
      exact ⟨_, brokenUp_mark⟩
    · exact ⟨_, brokenUp_cons hpair⟩

theorem mem_brokenUp (h : c ∈ brokenUp cs) : c ∈ "*&#47;".toList ∨ c ∈ cs := by
  induction cs using Text.replacePair.induct '*' '/' with
  | case1 => simp at h
  | case2 d => exact .inr (by simpa using h)
  | case3 d e cs hpair ih =>
    obtain ⟨rfl, rfl⟩ := hpair
    rw [brokenUp_mark, List.mem_append] at h
    rcases h with h | h
    · exact .inl h
    · exact (ih h).imp_right fun h => List.mem_cons_of_mem _ (List.mem_cons_of_mem _ h)
  | case4 d e cs hpair ih =>
    rw [brokenUp_cons hpair] at h
    rcases List.mem_cons.mp h with rfl | h
    · exact .inr List.mem_cons_self
    · exact (ih h).imp_right (List.mem_cons_of_mem _)

/-- What stands for a broken up mark ends apart from what follows it. -/
theorem pair_infix_broken_iff {a b : Char} (ha : ';' ≠ a) (hb : ';' ≠ b)
    (hmark : ¬[a, b] <:+: "*&#47".toList) :
    [a, b] <:+: "*&#47;".toList ++ cs ↔ [a, b] <:+: cs := by
  have hsplit : "*&#47;".toList ++ cs = "*&#47".toList ++ ';' :: cs := rfl
  rw [hsplit, Text.pair_infix_append_cons_iff ha hb, or_iff_right hmark]

/-- No mark that closes a comment is left, and none comes about. -/
theorem not_closes_brokenUp (cs : List Char) : ¬['*', '/'] <:+: brokenUp cs := by
  induction cs using Text.replacePair.induct '*' '/' with
  | case1 => simp
  | case2 c => simp [List.infix_cons_iff]
  | case3 c d cs hpair ih =>
    obtain ⟨rfl, rfl⟩ := hpair
    rwa [brokenUp_mark, pair_infix_broken_iff (by decide) (by decide) (by decide)]
  | case4 c d cs hpair ih =>
    -- The next character stays, so what was no mark does not become one.
    obtain ⟨more, hmore⟩ := exists_brokenUp_cons d cs
    rw [hmore] at ih
    rw [brokenUp_cons hpair, hmore, Text.pair_infix_cons_iff, not_or]
    exact ⟨hpair, ih⟩

end broken

/-! ### Documentation that opens comments -/

/-- A text opens a comment: a slash that is not behind a star stands in front of a star. -/
def Opens (cs : List Char) : Prop :=
  ∃ before after, cs = before ++ '/' :: '*' :: after ∧ before.getLast? ≠ some '*'

section opens
variable {c d : Char} {cs xs ys : List Char}

@[simp] theorem not_opens_nil : ¬Opens [] := by
  rintro ⟨before, after, h, -⟩
  simp at h

@[simp] theorem not_opens_singleton : ¬Opens [c] := by
  rintro ⟨_ | ⟨x, before⟩, after, h, -⟩ <;> simp at h

/-- What a text ends in does not depend on what is in front of its last part. -/
private theorem getLast?_ne_of_append (front : List Char) {before : List Char}
    (h : (front ++ before).getLast? ≠ some c) : before.getLast? ≠ some c := by
  intro hlast
  rw [List.getLast?_append, hlast] at h
  exact h rfl

private theorem append_getLast?_ne (front : List Char) {before : List Char} (hd : d ≠ c)
    (h : before.getLast? ≠ some c) : (front ++ d :: before).getLast? ≠ some c := by
  cases hlast : before.getLast? with
  | none => simp [List.getLast?_append, List.getLast?_cons, hlast, hd]
  | some x => simpa [List.getLast?_append, List.getLast?_cons, hlast] using h

theorem opens_broken_iff : Opens ('*' :: '/' :: cs) ↔ Opens cs := by
  constructor
  · rintro ⟨_ | ⟨x, _ | ⟨y, before⟩⟩, after, htext, hlast⟩
    · exact absurd (List.cons.inj htext).1 (by decide)
    · -- The slash is behind the star.
      obtain ⟨rfl, -⟩ := List.cons.inj htext
      exact absurd rfl hlast
    · obtain ⟨rfl, hrest⟩ := List.cons.inj htext
      obtain ⟨rfl, rfl⟩ := List.cons.inj hrest
      exact ⟨before, after, rfl, getLast?_ne_of_append ['*', '/'] hlast⟩
  · rintro ⟨before, after, rfl, hlast⟩
    exact ⟨'*' :: '/' :: before, after, rfl, append_getLast?_ne ['*'] (by decide) hlast⟩

theorem opens_cons_iff (h : ¬(c = '*' ∧ d = '/')) :
    Opens (c :: d :: cs) ↔ (c = '/' ∧ d = '*') ∨ Opens (d :: cs) := by
  constructor
  · rintro ⟨_ | ⟨x, before⟩, after, htext, hlast⟩
    · obtain ⟨rfl, hrest⟩ := List.cons.inj htext
      exact .inl ⟨rfl, (List.cons.inj hrest).1⟩
    · obtain ⟨rfl, hrest⟩ := List.cons.inj htext
      exact .inr ⟨before, after, hrest, getLast?_ne_of_append [c] hlast⟩
  · rintro (⟨rfl, rfl⟩ | ⟨before, after, hrest, hlast⟩)
    · exact ⟨[], cs, rfl, by simp⟩
    · refine ⟨c :: before, after, by rw [hrest, List.cons_append], ?_⟩
      cases before with
      | nil =>
        obtain ⟨rfl, -⟩ := List.cons.inj hrest
        simpa using h
      | cons x before =>
        rw [List.getLast?_cons_cons]
        exact hlast

/-- A blank, or a line break, stands apart from what a text opens in front of it and behind it. -/
theorem opens_append_cons_iff (hslash : c ≠ '/') (hstar : c ≠ '*') :
    Opens (xs ++ c :: ys) ↔ Opens xs ∨ Opens ys := by
  constructor
  · rintro ⟨before, after, htext, hlast⟩
    -- The mark begins in the first part or behind it.
    rcases List.append_eq_append_iff.mp htext with ⟨more, rfl, hmore⟩ | ⟨more, rfl, hmore⟩
    · rcases more with _ | ⟨x, more⟩
      · exact absurd (List.cons.inj hmore).1 hslash
      · obtain ⟨rfl, rfl⟩ := List.cons.inj hmore
        rw [List.append_cons] at hlast
        exact .inr ⟨more, after, rfl, getLast?_ne_of_append _ hlast⟩
    · rcases more with _ | ⟨x, _ | ⟨y, more⟩⟩
      · exact absurd (List.cons.inj hmore).1.symm hslash
      · obtain ⟨-, hsecond⟩ := List.cons.inj hmore
        exact absurd (List.cons.inj hsecond).1.symm hstar
      · obtain ⟨rfl, hsecond⟩ := List.cons.inj hmore
        obtain ⟨rfl, -⟩ := List.cons.inj hsecond
        exact .inl ⟨before, more, rfl, hlast⟩
  · rintro (⟨before, after, rfl, hlast⟩ | ⟨before, after, rfl, hlast⟩)
    · exact ⟨before, after ++ c :: ys, by simp, hlast⟩
    · exact ⟨xs ++ c :: before, after, by simp, append_getLast?_ne xs hstar hlast⟩

theorem not_opens_of_isBlank (h : ∀ x ∈ xs, isBlank x) : ¬Opens xs := by
  rintro ⟨before, after, rfl, -⟩
  exact absurd (h '/' (by simp)) (by decide)

private theorem ne_marks_of_isBlank (h : isBlank c) : c ≠ '/' ∧ c ≠ '*' :=
  ⟨by rintro rfl; exact absurd h (by decide), by rintro rfl; exact absurd h (by decide)⟩

theorem opens_append_blank_iff (h : ∀ x ∈ ys, isBlank x) : Opens (xs ++ ys) ↔ Opens xs := by
  cases ys with
  | nil => simp
  | cons y ys =>
    obtain ⟨hslash, hstar⟩ := ne_marks_of_isBlank (h y List.mem_cons_self)
    rw [opens_append_cons_iff hslash hstar, or_iff_left]
    exact not_opens_of_isBlank fun x hx => h x (List.mem_cons_of_mem _ hx)

theorem opens_blank_append_iff (h : ∀ x ∈ xs, isBlank x) : Opens (xs ++ ys) ↔ Opens ys := by
  rcases List.eq_nil_or_concat xs with rfl | ⟨front, x, rfl⟩
  · simp
  · rw [List.concat_eq_append] at h ⊢
    obtain ⟨hslash, hstar⟩ := ne_marks_of_isBlank (h x (by simp))
    rw [List.append_assoc, List.singleton_append, opens_append_cons_iff hslash hstar, or_iff_right]
    exact not_opens_of_isBlank fun y hy => h y (List.mem_append_left _ hy)

theorem opens_dropBlankEnd_iff : Opens (dropBlankEnd cs) ↔ Opens cs := by
  obtain ⟨blanks, hcs, hblank⟩ := Text.exists_dropBlankEnd_append cs
  conv => rhs; rw [hcs]
  exact (opens_append_blank_iff hblank).symm

theorem opens_trimChars_iff : Opens (trimChars cs) ↔ Opens cs := by
  obtain ⟨front, behind, hcs, hfront, hbehind⟩ := Text.exists_trimChars_append cs
  conv => rhs; rw [hcs]
  rw [opens_append_blank_iff hbehind, opens_blank_append_iff hfront]

/-- What a text opens, it opens in one of its lines. -/
theorem opens_splitOn_iff : (∃ piece ∈ cs.splitOn '\n', Opens piece) ↔ Opens cs := by
  have hlines (pieces : List (List Char)) :
      (∃ piece ∈ pieces, Opens piece) ↔ Opens (['\n'].intercalate pieces) := by
    induction pieces with
    | nil => simp
    | cons first others ih =>
      cases others with
      | nil => simp
      | cons second others =>
        rw [List.intercalate_cons_cons, List.append_assoc, List.singleton_append,
          opens_append_cons_iff (by decide) (by decide), ← ih]
        simp
  rw [hlines, List.intercalate_splitOn]

/-- A mark that opens a comment is left, once the marks that close one are broken up, exactly if the
    text opens a comment. -/
theorem opens_brokenUp_iff : ['/', '*'] <:+: brokenUp cs ↔ Opens cs := by
  induction cs using Text.replacePair.induct '*' '/' with
  | case1 => simp
  | case2 c => simp [List.infix_cons_iff]
  | case3 c d cs hpair ih =>
    obtain ⟨rfl, rfl⟩ := hpair
    rw [brokenUp_mark, opens_broken_iff, ← ih]
    exact pair_infix_broken_iff (by decide) (by decide) (by decide)
  | case4 c d cs hpair ih =>
    obtain ⟨more, hmore⟩ := exists_brokenUp_cons d cs
    rw [brokenUp_cons hpair, opens_cons_iff hpair, ← ih, hmore, Text.pair_infix_cons_iff]

instance : Decidable (Opens cs) := decidable_of_iff _ opens_brokenUp_iff

end opens

/-! ### The comment on a page -/

/-- The blanks that a line of a page begins with. -/
def Page.margin (p : Page) : List Char := List.replicate (p.step * p.depth) ' '

/-- The blanks that the next text on a page begins with. -/
def Page.lead (p : Page) : List Char := if p.atLineStart then p.margin else []

/-- A line of a documentation comment with the blanks in front of it. -/
def docRow (margin piece : List Char) : List Char :=
  margin ++ ((docLine piece).text.toList ++ ['\n'])

/-- The lines between the first and the last line of a documentation comment. -/
def docRows (margin : List Char) (pieces : List (List Char)) : List Char :=
  pieces.flatMap (docRow margin)

/-- What stands between the marks of a documentation comment, up to the blank at its end. -/
def docInner (margin : List Char) (doc : String) : List Char :=
  '*' :: '\n' :: (docRows margin ((trimChars doc.toList).splitOn '\n') ++ margin)

/-- A documentation comment from mark to mark. -/
def docComment (margin : List Char) (doc : String) : List Char :=
  '/' :: '*' :: (docInner margin doc ++ [' ', '*', '/'])

/-- What a documentation comment adds to a page. -/
def Page.docBlock (p : Page) (doc : String) : List Char :=
  p.lead ++ (docComment p.margin doc ++ ['\n'])

/-- A line that breaks off nowhere is written behind the blanks that are due. -/
theorem Page.putLine_unbroken (p : Page) {l : Line} (hdepth : l.depth = 0) (hsome : l.text ≠ "")
    (hline : '\n' ∉ l.text.toList) :
    p.putLine l = { p with
      text := p.text ++ String.ofList (p.lead ++ (l.text.toList ++ ['\n']))
      atLineStart := true } := by
  have hsome' : l.text.isEmpty = false := by simpa [String.isEmpty_iff] using hsome
  rw [putLine, line, write_of_not_mem _ hline, hdepth, lead, margin]
  cases hstart : p.atLineStart <;> simp [put, newline, hsome', ← String.toList_inj]

/-- What a line of a documentation comment comes to: a star, and the text of the line if it has
    one. -/
theorem toList_docLine (piece : List Char) :
    (docLine piece).text.toList = [' ', '*'] ∧ brokenUp (dropBlankEnd piece) = [] ∨
      (docLine piece).text.toList = ' ' :: '*' :: ' ' :: brokenUp (dropBlankEnd piece) := by
  unfold docLine
  split
  · rename_i hnone
    exact .inl ⟨rfl, hnone⟩
  · exact .inr (by simp [brokenUp])

theorem newline_not_mem_docLine {piece : List Char} (h : '\n' ∉ piece) :
    '\n' ∉ (docLine piece).text.toList := by
  have hbroken : '\n' ∉ brokenUp (dropBlankEnd piece) := by
    intro hmem
    rcases mem_brokenUp hmem with hmem | hmem
    · exact absurd hmem (by decide)
    · obtain ⟨blanks, hpiece, -⟩ := Text.exists_dropBlankEnd_append piece
      rw [hpiece] at h
      exact h (List.mem_append_left _ hmem)
  rcases toList_docLine piece with ⟨htext, -⟩ | htext
  · rw [htext]
    decide
  · simpa [htext] using hbroken

theorem depth_docLine (piece : List Char) : (docLine piece).depth = 0 := by
  unfold docLine
  split <;> rfl

theorem docLine_ne_empty (piece : List Char) : (docLine piece).text ≠ "" := by
  rw [Ne, ← String.toList_inj]
  rcases toList_docLine piece with ⟨htext, -⟩ | htext <;> simp [htext]

theorem putLines_docLine (p : Page) (hstart : p.atLineStart = true) {pieces : List (List Char)}
    (hpieces : ∀ piece ∈ pieces, '\n' ∉ piece) :
    p.putLines (pieces.map docLine) =
      { p with text := p.text ++ String.ofList (docRows p.margin pieces) } := by
  induction pieces generalizing p with
  | nil => simp [docRows, Page.putLines]
  | cons piece pieces ih =>
    have hpiece := newline_not_mem_docLine (hpieces piece List.mem_cons_self)
    have hothers := fun other h => hpieces other (List.mem_cons_of_mem _ h)
    rw [List.map_cons, Page.putLines_cons,
      p.putLine_unbroken (depth_docLine piece) (docLine_ne_empty piece) hpiece, ih _ rfl hothers]
    simp [Page.lead, Page.margin, docRows, docRow, hstart, String.append_assoc]

theorem docLines_eq {doc : String} (hdoc : Text.trim doc ≠ "") :
    docLines (some doc) = { text := "/**" } ::
      (((trimChars doc.toList).splitOn '\n').map docLine ++ [{ text := " */" }]) := by
  rw [docLines, Option.getD_some]
  split
  · rename_i hnone
    rw [Text.trim, hnone] at hdoc
    exact absurd rfl hdoc
  · rfl

/-- A documentation comment is written as it is laid out here. -/
theorem putLines_docLines (p : Page) {doc : String} (hdoc : Text.trim doc ≠ "") :
    p.putLines (docLines (some doc)) =
      { p with text := p.text ++ String.ofList (p.docBlock doc), atLineStart := true } := by
  have hpieces (piece : List Char) (h : piece ∈ (trimChars doc.toList).splitOn '\n') :
      '\n' ∉ piece := (Text.piece_of_mem_splitOn h).1
  rw [docLines_eq hdoc, Page.putLines_cons, p.putLine_unbroken rfl (by decide) (by decide),
    Page.putLines_append, putLines_docLine _ rfl hpieces, Page.putLines_cons,
    Page.putLine_unbroken _ rfl (by decide) (by decide)]
  simp [Page.putLines, Page.docBlock, docComment, docInner, Page.lead, Page.margin,
    ← String.toList_inj]

section marks
variable {a b : Char} {margin xs : List Char}

theorem pair_infix_docRow_append_iff (ha : ¬isBlank a) (hb : ¬isBlank b)
    (hmargin : ∀ c ∈ margin, isBlank c) (piece : List Char) :
    [a, b] <:+: docRow margin piece ++ xs ↔
      [a, b] <:+: brokenUp (dropBlankEnd piece) ∨ [a, b] <:+: xs := by
  have apart (c : Char) (hc : isBlank c) (front behind : List Char) :
      [a, b] <:+: front ++ c :: behind ↔ [a, b] <:+: front ∨ [a, b] <:+: behind :=
    Text.pair_infix_append_cons_iff (fun h => ha (h ▸ hc)) (fun h => hb (h ▸ hc))
  have hstar : ¬[a, b] <:+: ['*'] := by simp [List.infix_cons_iff]
  have hnone : ¬[a, b] <:+: [] := by simp
  have htext : [a, b] <:+: (docLine piece).text.toList ↔
      [a, b] <:+: brokenUp (dropBlankEnd piece) := by
    rcases toList_docLine piece with ⟨htext, hempty⟩ | htext
    · rw [htext, hempty]
      simpa [hnone, hstar] using apart ' ' (by decide) [] ['*']
    · have hfirst := apart ' ' (by decide) [] ('*' :: ' ' :: brokenUp (dropBlankEnd piece))
      have hsecond := apart ' ' (by decide) ['*'] (brokenUp (dropBlankEnd piece))
      rw [or_iff_right hnone] at hfirst
      rw [or_iff_right hstar] at hsecond
      rw [htext]
      exact hfirst.trans hsecond
  rw [docRow, List.append_assoc, Text.pair_infix_blank_append_iff ha hb hmargin,
    List.append_assoc, List.singleton_append, apart '\n' (by decide), htext]

theorem pair_infix_docRows_append_iff (ha : ¬isBlank a) (hb : ¬isBlank b)
    (hmargin : ∀ c ∈ margin, isBlank c) (pieces : List (List Char)) :
    [a, b] <:+: docRows margin pieces ++ xs ↔
      (∃ piece ∈ pieces, [a, b] <:+: brokenUp (dropBlankEnd piece)) ∨ [a, b] <:+: xs := by
  induction pieces with
  | nil => simp [docRows]
  | cons piece pieces ih =>
    rw [docRows] at ih
    rw [docRows, List.flatMap_cons, List.append_assoc,
      pair_infix_docRow_append_iff ha hb hmargin, ih]
    simp [or_assoc]

theorem pair_infix_docInner_append_iff (ha : ¬isBlank a) (hb : ¬isBlank b)
    (hmargin : ∀ c ∈ margin, isBlank c) (doc : String) :
    [a, b] <:+: docInner margin doc ++ xs ↔
      (∃ piece ∈ (trimChars doc.toList).splitOn '\n',
        [a, b] <:+: brokenUp (dropBlankEnd piece)) ∨ [a, b] <:+: xs := by
  have hstar : ¬[a, b] <:+: ['*'] := by simp [List.infix_cons_iff]
  have hsplit : docInner margin doc ++ xs = ['*'] ++ '\n' ::
      (docRows margin ((trimChars doc.toList).splitOn '\n') ++ (margin ++ xs)) := by
    simp [docInner]
  rw [hsplit, Text.pair_infix_append_cons_iff (by rintro rfl; exact ha (by decide))
    (by rintro rfl; exact hb (by decide)), or_iff_right hstar,
    pair_infix_docRows_append_iff ha hb hmargin, Text.pair_infix_blank_append_iff ha hb hmargin]

theorem closes_docInner_append_iff (hmargin : ∀ c ∈ margin, isBlank c) (doc : String)
    (xs : List Char) :
    ['*', '/'] <:+: docInner margin doc ++ xs ↔ ['*', '/'] <:+: xs := by
  rw [pair_infix_docInner_append_iff (by decide) (by decide) hmargin, or_iff_right]
  rintro ⟨piece, -, hpiece⟩
  exact not_closes_brokenUp _ hpiece

theorem opens_docInner_append_iff (hmargin : ∀ c ∈ margin, isBlank c) (doc : String)
    (xs : List Char) :
    ['/', '*'] <:+: docInner margin doc ++ xs ↔ Opens doc.toList ∨ ['/', '*'] <:+: xs := by
  rw [pair_infix_docInner_append_iff (by decide) (by decide) hmargin]
  simp only [opens_brokenUp_iff, opens_dropBlankEnd_iff, opens_splitOn_iff, opens_trimChars_iff]

end marks

theorem Page.isBlank_of_mem_margin {p : Page} {c : Char} (h : c ∈ p.margin) : isBlank c := by
  obtain ⟨-, rfl⟩ := List.mem_replicate.mp h
  decide

theorem Page.isBlank_of_mem_lead {p : Page} {c : Char} (h : c ∈ p.lead) : isBlank c := by
  rw [lead] at h
  split at h
  · exact isBlank_of_mem_margin h
  · cases h

/-- The mark that closes the comment stands at the end of the block. -/
theorem closes_docBlock (p : Page) (doc : String) :
    ∃ front, p.docBlock doc = front ++ "*/\n".toList ∧
      Text.StandsOnlyBehind front "*/".toList (p.docBlock doc) := by
  have hblock : p.docBlock doc =
      p.lead ++ '/' :: '*' :: (docInner p.margin doc ++ [' ']) ++ '*' :: '/' :: ['\n'] := by
    simp [Page.docBlock, docComment]
  refine ⟨_, hblock, ?_⟩
  -- The mark has not come up before: not in the blanks, in the opening mark or in the lines.
  have hfront : ¬['*', '/'] <:+: p.lead ++ '/' :: '*' :: (docInner p.margin doc ++ [' ']) := by
    have hlead : ∀ c ∈ p.lead, isBlank c := fun _ h => Page.isBlank_of_mem_lead h
    have hmargin : ∀ c ∈ p.margin, isBlank c := fun _ h => Page.isBlank_of_mem_margin h
    rw [Text.pair_infix_blank_append_iff (by decide) (by decide) hlead, docInner, List.cons_append,
      Text.pair_infix_cons_iff, Text.pair_infix_cons_iff, ← List.cons_append, ← docInner,
      closes_docInner_append_iff hmargin]
    simp [List.infix_cons_iff]
  rw [hblock]
  exact (Text.standsOnlyBehind_iff (by decide) hfront).mpr (by simp [List.infix_cons_iff])

/-- The mark that opens the comment stands at the start of the block, and at other places too if the
    documentation opens a comment. -/
theorem opens_docBlock_iff (p : Page) (doc : String) :
    Text.StandsOnlyBehind p.lead "/*".toList (p.docBlock doc) ↔ ¬Opens doc.toList := by
  have hlead : ¬['/', '*'] <:+: p.lead :=
    Text.not_pair_infix_of_not_mem fun h => absurd (Page.isBlank_of_mem_lead h) (by decide)
  have hblock : p.docBlock doc =
      p.lead ++ '/' :: '*' :: (docInner p.margin doc ++ [' ', '*', '/', '\n']) := by
    simp [Page.docBlock, docComment]
  have hbehind : ['/', '*'] <:+: '*' :: (docInner p.margin doc ++ [' ', '*', '/', '\n']) ↔
      Opens doc.toList := by
    rw [docInner, List.cons_append, Text.pair_infix_cons_iff, ← List.cons_append, ← docInner,
      opens_docInner_append_iff fun _ h => Page.isBlank_of_mem_margin h]
    simp [List.infix_cons_iff]
  rw [hblock, ← hbehind]
  exact Text.standsOnlyBehind_iff (by decide) hlead

/-- The comment is over at its end exactly if the documentation opens none. -/
theorem pastComment_docComment_iff (p : Page) (doc : String) :
    (∀ rest, pastComment (docComment p.margin doc ++ rest) = some rest) ↔ ¬Opens doc.toList := by
  have hmargin : ∀ c ∈ p.margin, isBlank c := fun _ h => Page.isBlank_of_mem_margin h
  have hcloses : ¬['*', '/'] <:+: docInner p.margin doc := by
    simpa using closes_docInner_append_iff hmargin doc []
  have hopens : ['/', '*'] <:+: docInner p.margin doc ↔ Opens doc.toList := by
    simpa using opens_docInner_append_iff hmargin doc []
  obtain ⟨opened, hzero, hopened⟩ := pastDepth_append hcloses
  have hread (rest : List Char) : pastComment (docComment p.margin doc ++ rest) =
      pastDepth opened ('*' :: '/' :: rest) := by
    simpa [docComment, pastComment] using hopened 0 ('*' :: '/' :: rest)
  rw [← hopens, ← hzero]
  cases opened with
  | zero => simp [hread, pastDepth]
  | succ opened =>
    -- A comment is still open, so with nothing behind it the text ends inside it.
    have hnone : pastComment (docComment p.margin doc ++ []) = none := by
      rw [hread, pastDepth, pastDepth]
    refine iff_of_false (fun h => ?_) (Nat.succ_ne_zero opened)
    rw [h] at hnone
    cases hnone

/-- **Documentation and the marks of its comment.**  The block is closed where it ends and nowhere
    else.  It is opened where it begins and nowhere else exactly if the documentation opens no
    comment, and exactly then the comment, with whatever follows it, is over at its end. -/
theorem documentation_contained_iff (p : Page) {doc : String} (hdoc : Text.trim doc ≠ "") :
    p.putLines (docLines (some doc)) =
        { p with text := p.text ++ String.ofList (p.docBlock doc), atLineStart := true } ∧
      (∃ front, p.docBlock doc = front ++ "*/\n".toList ∧
        Text.StandsOnlyBehind front "*/".toList (p.docBlock doc)) ∧
      (Text.StandsOnlyBehind p.lead "/*".toList (p.docBlock doc) ↔ ¬Opens doc.toList) ∧
      ((∀ rest, pastComment (docComment p.margin doc ++ rest) = some rest) ↔
        ¬Opens doc.toList) :=
  ⟨putLines_docLines p hdoc, closes_docBlock p doc, opens_docBlock_iff p doc,
    pastComment_docComment_iff p doc⟩

/-- Documentation with marks that close a comment, one of them in front of a star. -/
theorem documentation_contained_closing_marks :
    let page : Page := { imports := .empty }
    let doc := "ends */ or */* here"
    Text.trim doc ≠ "" ∧
    page.putLines (docLines (some doc)) =
      { page with text := String.ofList (page.docBlock doc), atLineStart := true } ∧
    (∃ front, page.docBlock doc = front ++ "*/\n".toList ∧
      Text.StandsOnlyBehind front "*/".toList (page.docBlock doc)) ∧
    Text.StandsOnlyBehind page.lead "/*".toList (page.docBlock doc) ∧
    ∀ rest, pastComment (docComment page.margin doc ++ rest) = some rest := by
  intro page doc
  have hdoc : Text.trim doc ≠ "" := mt Text.trim_eq_empty_iff.mp (by decide)
  have hopens : ¬Opens doc.toList := by decide +kernel
  obtain ⟨hlines, hcloses, hstarts, hpast⟩ := documentation_contained_iff page hdoc
  refine ⟨hdoc, ?_, hcloses, hstarts.mpr hopens, hpast.mpr hopens⟩
  rw [hlines, String.empty_append]

/-- Documentation that opens a comment: the mark comes out as it is, and the code behind the comment
    is read as part of it. -/
theorem documentation_swallows_code :
    let page : Page := { imports := .empty }
    Text.trim "see /* here" ≠ "" ∧
      page.docBlock "see /* here" = "/**\n * see /* here\n */\n".toList ∧
      ¬Text.StandsOnlyBehind [] "/*".toList (page.docBlock "see /* here") ∧
      pastComment (page.docBlock "see /* here" ++ "fun f() \x7b\n\x7d\n".toList) = none := by
  intro page
  have hdoc : Text.trim "see /* here" ≠ "" := mt Text.trim_eq_empty_iff.mp (by decide)
  refine ⟨hdoc, by decide +kernel, fun honly => ?_, by decide +kernel⟩
  have hagain : "/**\n * see ".toList = [] := (honly _).mp (by decide +kernel)
  exact absurd hagain (by decide +kernel)

end CompanionSource.Source
