import CompanionSource.Proofs.Source.Indentation

/-! # Text in pieces

    Text comes to a page in **calls**, and between them the level of the page changes, and what it
    imports.

    - It makes no difference how a text is cut into calls.  A line is its text and a line break,
      and a line break is a text like any other.
    - Every character comes **at a level**: that of the page when it is written.  A row of the page
      is the characters that came since the last line break, behind the indent for the level of
      the first of them.  A row that no character came to has no indent either.

    The second is shown from the end: what **becomes** of a page when more is written does not
    change with the next character, if that is written first. -/

namespace CompanionSource.Source

open Text (padded rows)

/-! ### Calls -/

/-- A call that writes text. -/
inductive Writing where
  /-- A text with any number of line breaks in it. -/
  | write (text : String)
  /-- A text and a line break. -/
  | line (text : String)
  /-- A line break. -/
  | newline

/-- All that a call writes. -/
def Writing.text : Writing → String
  | .write text => text
  | .line text => text ++ "\n"
  | .newline => "\n"

/-- A call. -/
inductive Call where
  /-- Something is written. -/
  | writing (w : Writing)
  /-- Lines begin one level deeper from now on. -/
  | indent
  /-- Lines begin one level higher from now on. -/
  | dedent
  /-- Types are shortened by these imports from now on. -/
  | shorten (imports : Imports)

namespace Page

/-- The page after a call that writes. -/
def receive (p : Page) : Writing → Page
  | .write text => p.write text
  | .line text => p.line text
  | .newline => p.newline

/-- The page after a call. -/
def handle (p : Page) : Call → Page
  | .writing w => p.receive w
  | .indent => p.indent
  | .dedent => p.dedent
  | .shorten imports => { p with imports }

/-! ### Pieces of text -/

section pieces
variable (p : Page)

theorem newline_eq_write : p.newline = p.write "\n" := by
  show p.newline = p.write (String.ofList ['\n'])
  rw [write_newline]
  rfl

theorem line_eq_write (text : String) : p.line text = p.write (text ++ "\n") := by
  rw [write_append, ← newline_eq_write, line]

theorem receive_eq_write (w : Writing) : p.receive w = p.write w.text := by
  match w with
  | .write _ => rfl
  | .line text => exact line_eq_write p text
  | .newline => exact newline_eq_write p

/-- Calls that only write come to one call, with the text of them all. -/
theorem foldl_receive (ws : List Writing) :
    ws.foldl receive p = p.write (String.join (ws.map Writing.text)) := by
  induction ws generalizing p with
  | nil => rfl
  | cons w ws ih =>
    rw [List.foldl_cons, ih, List.map_cons, String.join_cons, write_append, receive_eq_write]

end pieces

end Page

/-! ### Characters at levels -/

/-- The characters that calls write, each with the level of the page at that time. -/
def traced : (depth : Nat) → List Call → List (Nat × Char)
  | _, [] => []
  | depth, .writing w :: calls => w.text.toList.map (Prod.mk depth) ++ traced depth calls
  | depth, .indent :: calls => traced (depth + 1) calls
  | depth, .dedent :: calls => traced (depth - 1) calls
  | depth, .shorten _ :: calls => traced depth calls

/-- Characters without their levels. -/
def plainText (cs : List (Nat × Char)) : String := String.ofList (cs.map Prod.snd)

/-- The level at which the first character came. -/
def level (cs : List (Nat × Char)) : Nat := (cs.head?.map Prod.fst).getD 0

/-- A row of a page: the characters in it, behind the indent for the level of the first one. -/
def rowText (step : Nat) (cs : List (Nat × Char)) : String :=
  padded (step * level cs) (plainText cs)

/-- The rows that characters fall into: each line break ends one and begins the next. -/
def tracedRows (cs : List (Nat × Char)) : List (List (Nat × Char)) :=
  cs.splitOnP fun c => c.2 == '\n'

theorem tracedRows_break (depth : Nat) (cs : List (Nat × Char)) :
    tracedRows ((depth, '\n') :: cs) = [] :: tracedRows cs := by
  rw [tracedRows, List.splitOnP_cons_eq_if_modifyHead, if_pos (by rfl), tracedRows]

theorem tracedRows_cons {c : Char} (hc : c ≠ '\n') (depth : Nat) {cs first : List (Nat × Char)}
    {others : List (List (Nat × Char))} (h : tracedRows cs = first :: others) :
    tracedRows ((depth, c) :: cs) = ((depth, c) :: first) :: others := by
  rw [tracedRows] at h ⊢
  rw [List.splitOnP_cons_eq_if_modifyHead, if_neg (by simpa using hc), h, List.modifyHead_cons]

theorem exists_tracedRows_eq (cs : List (Nat × Char)) :
    ∃ first others, tracedRows cs = first :: others :=
  List.exists_cons_of_ne_nil (List.splitOnP_ne_nil _ _)

/-! ### What becomes of a page -/

/-- The text that characters take up on a page, at the start of a line or within one. -/
def typeset (step : Nat) : (start : Bool) → List (Nat × Char) → String
  | _, [] => ""
  | start, (depth, c) :: cs =>
    if c = '\n' then "\n" ++ typeset step true cs
    else (if start then String.ofList (List.replicate (step * depth) ' ') else "")
      ++ String.singleton c ++ typeset step false cs

namespace Page

/-- The text of the page when more characters have been written. -/
def completed (p : Page) (cs : List (Nat × Char)) : String :=
  p.text ++ typeset p.step p.atLineStart cs

/-- The next character can be written first. -/
theorem completed_putChar (p : Page) (c : Char) (cs : List (Nat × Char)) :
    (p.putChar c).completed cs = p.completed ((p.depth, c) :: cs) := by
  by_cases hc : c = '\n'
  · subst hc
    rw [putChar, if_pos rfl]
    show p.text.push '\n' ++ typeset p.step true cs = p.text ++ ("\n" ++ typeset p.step true cs)
    rw [String.push_eq_append, String.append_assoc]
    rfl
  · have hsome : (String.singleton c).isEmpty = false := by simp
    rw [putChar, if_neg hc, completed, completed, typeset, if_neg hc]
    -- The indent is written in front of the first character of a line, and of no other one.
    cases hstart : p.atLineStart <;>
      simp only [put, hsome, hstart, Bool.false_eq_true, if_false, if_true, String.append_assoc,
        String.empty_append]

theorem depth_putChar (p : Page) (c : Char) : (p.putChar c).depth = p.depth := by
  unfold putChar newline put
  split
  · rfl
  · split
    · rfl
    · split <;> rfl

/-- So can a text, at the level of the page. -/
theorem completed_write (p : Page) (text : String) (cs : List (Nat × Char)) :
    (p.write text).completed cs = p.completed (text.toList.map (Prod.mk p.depth) ++ cs) := by
  rw [write_eq_foldl]
  induction text.toList generalizing p with
  | nil => rfl
  | cons c more ih =>
    rw [List.foldl_cons, ih, depth_putChar, completed_putChar]
    rfl

/-- A page has the characters of all calls on it, each at its level. -/
theorem text_foldl_handle (p : Page) (calls : List Call) :
    (calls.foldl handle p).text = p.completed (traced p.depth calls) := by
  induction calls generalizing p with
  | nil => simp [completed, traced, typeset]
  | cons call calls ih =>
    rw [List.foldl_cons, ih]
    match call with
    | .writing w =>
      obtain ⟨more, atStart, hwrite⟩ := write_fields p w.text
      have hdepth : (p.write w.text).depth = p.depth := by rw [hwrite]
      rw [handle, receive_eq_write, completed_write, hdepth, traced]
    | .indent => rfl
    | .dedent => rfl
    | .shorten _ => rfl

end Page

/-! ### Rows of a page -/

theorem rows_break (text : String) : rows ("\n" ++ text) = "" :: rows text :=
  Text.rows_cons (by simp : '\n' ∉ "".toList) text

theorem splitOn_append {front cs piece : List Char} {pieces : List (List Char)}
    (hfront : '\n' ∉ front) (h : cs.splitOn '\n' = piece :: pieces) :
    (front ++ cs).splitOn '\n' = (front ++ piece) :: pieces := by
  induction front with
  | nil => exact h
  | cons c front ih =>
    obtain ⟨hc, hfront⟩ := List.ne_and_not_mem_of_not_mem_cons hfront
    rw [List.cons_append, List.splitOn_cons_eq_if_modifyHead, if_neg (by simpa using hc.symm),
      ih hfront, List.modifyHead_cons, List.cons_append]

/-- What has no line break in it stands in the first row. -/
theorem rows_append {front text first : String} {others : List String}
    (hfront : '\n' ∉ front.toList) (h : rows text = first :: others) :
    rows (front ++ text) = (front ++ first) :: others := by
  obtain ⟨piece, pieces, hpieces⟩ :=
    List.exists_cons_of_ne_nil (List.splitOn_ne_nil '\n' text.toList)
  rw [rows, hpieces, List.map_cons] at h
  obtain ⟨rfl, rfl⟩ := List.cons.inj h
  rw [rows, String.toList_append, splitOn_append hfront hpieces, List.map_cons,
    String.ofList_append, String.ofList_toList]

/-- The rows that characters take up on a page: each behind its indent, but the first only at the
    start of a line. -/
theorem rows_typeset (step : Nat) {cs first : List (Nat × Char)}
    {others : List (List (Nat × Char))} (h : tracedRows cs = first :: others) :
    rows (typeset step true cs) = rowText step first :: others.map (rowText step) ∧
      rows (typeset step false cs) = plainText first :: others.map (rowText step) := by
  induction cs generalizing first others with
  | nil =>
    obtain ⟨rfl, rfl⟩ : first = [] ∧ others = [] := by simpa [tracedRows, eq_comm] using h
    exact ⟨rfl, rfl⟩
  | cons c cs ih =>
    obtain ⟨depth, c⟩ := c
    obtain ⟨next, more, hcs⟩ := exists_tracedRows_eq cs
    obtain ⟨hstart, hwithin⟩ := ih hcs
    by_cases hc : c = '\n'
    · subst hc
      rw [tracedRows_break, hcs] at h
      obtain ⟨rfl, rfl⟩ := List.cons.inj h
      have hbreak (start : Bool) : rows (typeset step start ((depth, '\n') :: cs)) =
          "" :: (next :: more).map (rowText step) := by
        rw [typeset, if_pos rfl, rows_break, hstart, List.map_cons]
      exact ⟨hbreak true, hbreak false⟩
    · rw [tracedRows_cons hc depth hcs] at h
      obtain ⟨rfl, rfl⟩ := List.cons.inj h
      have hplain : plainText ((depth, c) :: next) = String.singleton c ++ plainText next := by
        rw [← String.toList_inj]
        simp [plainText]
      have hsome : (plainText ((depth, c) :: next)).isEmpty = false := by
        rw [hplain]
        simp
      have hchar : '\n' ∉ (String.singleton c).toList := by simpa using Ne.symm hc
      have hindent : '\n' ∉ (String.ofList (List.replicate (step * depth) ' ')
          ++ String.singleton c).toList := by
        simp [Ne.symm hc]
      constructor
      · rw [typeset, if_neg hc, if_pos rfl, rows_append hindent hwithin, rowText, padded, hsome,
          hplain, ← String.append_assoc]
        rfl
      · rw [typeset, if_neg hc, if_neg Bool.false_ne_true, String.empty_append,
          rows_append hchar hwithin, hplain]

/-- The rows of a page that was fresh before the calls. -/
theorem rows_handled (step : Nat) (calls : List Call) :
    rows (calls.foldl Page.handle { step, imports := .empty }).text =
      (tracedRows (traced 0 calls)).map (rowText step) := by
  obtain ⟨first, others, htraced⟩ := exists_tracedRows_eq (traced 0 calls)
  rw [Page.text_foldl_handle, Page.completed, String.empty_append, (rows_typeset step htraced).1,
    htraced, List.map_cons]

/-- **Pieces of text.**  A text can be cut into calls anywhere, a line break is written like any
    other text, and a line is its text and a line break.  So calls that write the same text lead
    to the same page.  And whatever the calls on a page are, its rows are what was written in
    them, each behind one indent if it is not empty: that of the level of its first character. -/
theorem chunking_irrelevant :
    (∀ (p : Page) (a b : String), (p.write a).write b = p.write (a ++ b)) ∧
    (∀ p : Page, p.newline = p.write "\n") ∧
    (∀ (p : Page) (a : String), p.line a = p.write (a ++ "\n")) ∧
    (∀ (p : Page) (ws ws' : List Writing),
      String.join (ws.map Writing.text) = String.join (ws'.map Writing.text) →
        ws.foldl Page.receive p = ws'.foldl Page.receive p) ∧
    ∀ (step : Nat) (calls : List Call),
      rows (calls.foldl Page.handle { step, imports := .empty }).text =
        (tracedRows (traced 0 calls)).map (rowText step) := by
  refine ⟨fun p a b => (p.write_append a b).symm, fun p => p.newline_eq_write,
    fun p a => p.line_eq_write a, ?_, rows_handled⟩
  intro p ws ws' h
  rw [Page.foldl_receive, Page.foldl_receive, h]

/-- The same text in two ways, with nothing in one of the pieces and a row that stays empty. -/
theorem chunking_irrelevant_second_level :
    let page : Page := { text := "a \x7b\n", step := 2, depth := 1, imports := .empty }
    let ws : List Writing := [.line "b\nc", .write "", .newline, .write "d"]
    let ws' : List Writing := [.write "b\n", .write "c\n\nd"]
    String.join (ws.map Writing.text) = String.join (ws'.map Writing.text) ∧
      ws.foldl Page.receive page = ws'.foldl Page.receive page ∧
      (ws.foldl Page.receive page).text = "a \x7b\n  b\n  c\n\n  d" := by
  intro page ws ws'
  have htext : String.join (ws.map Writing.text) = String.join (ws'.map Writing.text) := by
    decide
  exact ⟨htext, chunking_irrelevant.2.2.2.1 page ws ws' htext, by decide +kernel⟩

/-- A level that is entered within a line counts from the next line on. -/
example :
    tracedRows (traced 0 [.writing (.write "a"), .indent, .writing (.write " \x7b\n"),
      .writing (.write "b")]) = [[(0, 'a'), (1, ' '), (1, '\x7b')], [(1, 'b')]] := by
  decide

end CompanionSource.Source
