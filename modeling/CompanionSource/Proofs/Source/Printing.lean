import CompanionSource.Source.Page

/-! # What a page prints

    A page takes text piece by piece.  What comes out does not depend on how the text is cut into
    pieces, nor on what is on the page already:

    - to **write** two texts one after the other is to write them as one;
    - what is written comes **behind** what the page has, and is the same on any page at the same
      place of a line.

    So the text of laid out lines is the text of each of them, one after the other. -/

namespace CompanionSource.Source

namespace Page

variable (p : Page)

/-! ### Pieces of text -/

@[simp] theorem put_empty : p.put "" = p := rfl

theorem put_append (first second : String) : p.put (first ++ second) = (p.put first).put second := by
  by_cases hfirst : first = ""
  · simp [hfirst]
  by_cases hsecond : second = ""
  · simp [hsecond]
  have hboth : first ++ second ≠ "" := by simp [hfirst]
  cases hstart : p.atLineStart <;> simp [put, hfirst, hsecond, hstart, String.append_assoc]

/-- One character of a text. -/
def putChar (c : Char) : Page :=
  if c = '\n' then p.newline else p.put (String.singleton c)

theorem write_newline (cs : List Char) :
    p.write (String.ofList ('\n' :: cs)) = p.newline.write (String.ofList cs) := by
  have hsplit : ('\n' :: cs).splitOn '\n' = [] :: cs.splitOn '\n' := by
    simp [List.splitOn_cons_eq_if_modifyHead]
  simp only [write, String.toList_ofList, hsplit, List.map_cons]
  cases hcs : cs.splitOn '\n' with
  | nil => exact absurd hcs (by simp)
  | cons first more => rfl

theorem write_char {c : Char} (hc : c ≠ '\n') (cs : List Char) :
    p.write (String.ofList (c :: cs)) = (p.put (String.singleton c)).write (String.ofList cs) := by
  simp only [write, String.toList_ofList, List.splitOn_cons_eq_if_modifyHead, beq_iff_eq, hc,
    if_false]
  cases hcs : cs.splitOn '\n' with
  | nil => exact absurd hcs (by simp)
  | cons first more =>
    simp only [List.modifyHead_cons, List.map_cons, String.ofList_cons, put_append]

/-- To write a text is to write its characters. -/
theorem write_eq_foldl (text : String) : p.write text = text.toList.foldl putChar p := by
  obtain ⟨cs, rfl⟩ : ∃ cs, text = String.ofList cs := ⟨text.toList, by simp⟩
  rw [String.toList_ofList]
  induction cs generalizing p with
  | nil => rfl
  | cons c cs ih =>
    rw [List.foldl_cons, ← ih, putChar]
    by_cases hc : c = '\n'
    · rw [if_pos hc, hc, write_newline]
    · rw [if_neg hc, write_char p hc]

theorem write_append (first second : String) :
    p.write (first ++ second) = (p.write first).write second := by
  simp only [write_eq_foldl, String.toList_append, List.foldl_append]

/-- A text without a line break is put on the page as it is. -/
theorem write_of_not_mem {text : String} (h : '\n' ∉ text.toList) : p.write text = p.put text := by
  rw [write, List.splitOn_eq_singleton h]
  simp

/-! ### What is on the page already -/

/-- The page with more text in front of what it has. -/
def behind (front : String) (p : Page) : Page := { p with text := front ++ p.text }

theorem put_behind (front fragment : String) :
    (p.behind front).put fragment = (p.put fragment).behind front := by
  unfold put behind
  split
  · rfl
  · split
    · simp [String.append_assoc]
    · simp [String.append_assoc]

theorem newline_behind (front : String) : (p.behind front).newline = p.newline.behind front := by
  have hpush (text : String) : text.push '\n' = text ++ String.singleton '\n' := by
    rw [← String.toList_inj]
    simp
  simp [newline, behind, hpush, String.append_assoc]

theorem write_behind (front text : String) :
    (p.behind front).write text = (p.write text).behind front := by
  rw [write_eq_foldl, write_eq_foldl]
  induction text.toList generalizing p with
  | nil => rfl
  | cons c cs ih =>
    have hchar : (p.behind front).putChar c = (p.putChar c).behind front := by
      unfold putChar
      split
      · exact newline_behind p front
      · exact put_behind p front _
    rw [List.foldl_cons, List.foldl_cons, hchar, ih]

/-- Writing changes the text and the place in the line, and nothing else. -/
theorem write_fields (text : String) : ∃ more atStart,
    p.write text = { p with text := more, atLineStart := atStart } := by
  rw [write_eq_foldl]
  induction text.toList generalizing p with
  | nil => exact ⟨_, _, rfl⟩
  | cons c cs ih =>
    obtain ⟨more, atStart, hmore⟩ := ih (p.putChar c)
    refine ⟨more, atStart, ?_⟩
    rw [List.foldl_cons, hmore]
    unfold putChar newline put
    split
    · rfl
    · split
      · rfl
      · split <;> rfl

/-! ### Lines -/

/-- The text that a line takes up on the page. -/
def printed (text : String) : String :=
  (({ p with text := "" } : Page).line text).text

theorem line_eq (text : String) :
    p.line text = { p with text := p.text ++ p.printed text, atLineStart := true } := by
  have hbehind : p = ({ p with text := "" } : Page).behind p.text := by
    simp [behind]
  obtain ⟨more, atStart, hwrite⟩ := write_fields { p with text := "" } text
  have hline : p.line text = (({ p with text := "" } : Page).line text).behind p.text := by
    conv => lhs; rw [hbehind]
    rw [line, write_behind, newline_behind, line]
  rw [hline, printed, line, hwrite]
  rfl

theorem putLine_eq (l : Line) :
    p.putLine l = { p with
      text := p.text ++ ({ p with depth := p.depth + l.depth } : Page).printed l.text
      atLineStart := true } := by
  rw [putLine, line_eq]

theorem putLines_cons (l : Line) (lines : List Line) :
    p.putLines (l :: lines) = (p.putLine l).putLines lines := rfl

theorem putLines_append (first second : List Line) :
    p.putLines (first ++ second) = (p.putLines first).putLines second :=
  List.foldl_append

/-- The text of laid out lines is the text of one line after the other. -/
theorem text_putLines (hstart : p.atLineStart = true) (lines : List Line) :
    (p.putLines lines).text = p.text ++ String.join
      (lines.map fun l => ({ p with depth := p.depth + l.depth } : Page).printed l.text) := by
  induction lines generalizing p with
  | nil => simp [putLines]
  | cons l lines ih =>
    have hnext := ih (p.putLine l) (by rw [putLine_eq])
    rw [putLines, List.foldl_cons]
    rw [putLines] at hnext
    rw [hnext, putLine_eq, List.map_cons, String.join_cons, ← String.append_assoc]
    simp only [printed, hstart]

end Page

end CompanionSource.Source
