import CompanionSource.Proofs.Source.Printing
import CompanionSource.Proofs.Text

/-! # Indentation

    A text falls into **rows** at its line breaks.  To shift a text is to put blanks in front of
    each row that is not empty.

    Laid out lines take up the same rows on every page that is at the start of a line.  Only the
    blanks in front of them depend on the level of the page, and they are those by which the text
    at the first level is shifted. -/

namespace CompanionSource

/-! ### Rows -/

namespace Text

/-- The rows of a text: a line break ends one and begins the next. -/
def rows (text : String) : List String := (text.toList.splitOn '\n').map String.ofList

/-- A row behind blanks, unless it is empty. -/
def padded (width : Nat) (row : String) : String :=
  if row.isEmpty then row else String.ofList (List.replicate width ' ') ++ row

/-- The text with blanks in front of each row that is not empty. -/
def shifted (width : Nat) (text : String) : String :=
  "\n".intercalate ((rows text).map (padded width))

/-- Rows, each with a line break behind it. -/
def ended (rows : List String) : String := String.join (rows.map (· ++ "\n"))

@[simp] theorem ended_nil : ended [] = "" := rfl

theorem ended_cons (row : String) (rows : List String) :
    ended (row :: rows) = row ++ "\n" ++ ended rows := by
  rw [ended, List.map_cons, String.join_cons, ended]

theorem ended_append (first second : List String) :
    ended (first ++ second) = ended first ++ ended second := by
  rw [ended, List.map_append, String.join_append, ended, ended]

/-- What has rows in it ends with a line break. -/
theorem exists_ended_eq {rows : List String} (h : rows ≠ []) :
    ∃ front, ended rows = front ++ "\n" := by
  obtain ⟨front, row, rfl⟩ := List.eq_nil_or_concat rows |>.resolve_left h
  refine ⟨ended front ++ row, ?_⟩
  rw [List.concat_eq_append, ended_append, ended_cons, ended_nil, String.append_empty,
    String.append_assoc]

theorem newline_not_mem_of_mem_rows {row text : String} (h : row ∈ rows text) :
    '\n' ∉ row.toList := by
  obtain ⟨piece, hpiece, rfl⟩ := List.mem_map.mp h
  rw [String.toList_ofList]
  exact (piece_of_mem_splitOn hpiece).1

theorem rows_ne_nil (text : String) : rows text ≠ [] := by
  simp [rows, List.splitOn_ne_nil]

/-- A line break ends the first row. -/
theorem rows_cons {row : String} (h : '\n' ∉ row.toList) (rest : String) :
    rows (row ++ "\n" ++ rest) = row :: rows rest := by
  have hchars : (row ++ "\n" ++ rest).toList = row.toList ++ '\n' :: rest.toList := by simp
  rw [rows, hchars, List.splitOn_append_cons_self_of_not_mem h, List.map_cons, String.ofList_toList,
    rows]

theorem intercalate_rows (text : String) : "\n".intercalate (rows text) = text := by
  have hchars : (rows text).map String.toList = text.toList.splitOn '\n' := by
    simp [rows, Function.comp_def]
  rw [← String.toList_inj, String.toList_intercalate, hchars]
  exact List.intercalate_splitOn '\n'

/-- A text and a line break are its rows, each with a line break behind it. -/
theorem ended_rows (text : String) : ended (rows text) = text ++ "\n" := by
  have hended : ∀ rows : List String, rows ≠ [] → ended rows = "\n".intercalate rows ++ "\n" := by
    intro rows hrows
    induction rows with
    | nil => exact absurd rfl hrows
    | cons row rows ih =>
      cases rows with
      | nil => rw [ended_cons, ended_nil, String.append_empty, String.intercalate_singleton]
      | cons next rows =>
        rw [ended_cons, ih (List.cons_ne_nil _ _), String.intercalate_cons_cons]
        simp only [String.append_assoc]
  rw [hended _ (rows_ne_nil text), intercalate_rows]

/-! ### Shifted texts -/

@[simp] theorem padded_empty (width : Nat) : padded width "" = "" := rfl

theorem padded_zero (row : String) : padded 0 row = row := by
  simp [padded]

theorem padded_padded (outer inner : Nat) (row : String) :
    padded outer (padded inner row) = padded (outer + inner) row := by
  by_cases h : row = ""
  · simp [h]
  · have hsome : row.isEmpty = false := by simpa [String.isEmpty_iff] using h
    have hpadded : (String.ofList (List.replicate inner ' ') ++ row).isEmpty = false := by
      simp [h]
    simp only [padded, hsome, hpadded, Bool.false_eq_true, if_false]
    rw [← String.append_assoc, ← String.ofList_append, List.replicate_append_replicate]

theorem newline_not_mem_padded {row : String} (h : '\n' ∉ row.toList) (width : Nat) :
    '\n' ∉ (padded width row).toList := by
  unfold padded
  split
  · exact h
  · simp [h]

/-- Each row that has ended is shifted on its own. -/
theorem shifted_ended (width : Nat) {rows : List String} (h : ∀ row ∈ rows, '\n' ∉ row.toList) :
    shifted width (ended rows) = ended (rows.map (padded width)) := by
  induction rows with
  | nil => rfl
  | cons row rows ih =>
    obtain ⟨hrow, hrows⟩ := List.forall_mem_cons.mp h
    -- Behind the first break there is a row at least, if only the empty one at the end.
    obtain ⟨next, more, hmore⟩ := List.exists_cons_of_ne_nil (rows_ne_nil (ended rows))
    have hrest : shifted width (ended rows) =
        "\n".intercalate ((next :: more).map (padded width)) := by
      rw [shifted, hmore]
    rw [ended_cons, shifted, rows_cons hrow, hmore, List.map_cons, List.map_cons,
      String.intercalate_cons_cons, ← List.map_cons, ← hrest, ih hrows, List.map_cons, ended_cons]

end Text

namespace Source

open Text (padded ended shifted)

/-! ### Rows of laid out lines -/

namespace Line

/-- The rows that laid out lines take up, at a level of a page. -/
def rows (step depth : Nat) (lines : List Line) : List String :=
  lines.flatMap fun l => (Text.rows l.text).map (padded (step * (depth + l.depth)))

variable (step depth : Nat)

theorem indented_append (first second : List Line) :
    indented (first ++ second) = indented first ++ indented second :=
  List.map_append

theorem rows_append (first second : List Line) :
    rows step depth (first ++ second) = rows step depth first ++ rows step depth second :=
  List.flatMap_append

theorem newline_not_mem_of_mem_rows {lines : List Line} {row : String}
    (h : row ∈ rows step depth lines) : '\n' ∉ row.toList := by
  obtain ⟨l, -, hrow⟩ := List.mem_flatMap.mp h
  obtain ⟨piece, hpiece, rfl⟩ := List.mem_map.mp hrow
  exact Text.newline_not_mem_padded (Text.newline_not_mem_of_mem_rows hpiece) _

theorem rows_ne_nil {lines : List Line} (h : lines ≠ []) : rows step depth lines ≠ [] := by
  obtain ⟨l, hl⟩ := List.exists_mem_of_ne_nil lines h
  rw [rows, Ne, List.flatMap_eq_nil_iff]
  intro hnone
  exact Text.rows_ne_nil l.text (List.map_eq_nil_iff.mp (hnone l hl))

/-- The level of the page only shifts the rows. -/
theorem rows_eq_map (lines : List Line) :
    rows step depth lines = (rows step 0 lines).map (padded (step * depth)) := by
  rw [rows, rows, List.map_flatMap]
  congr 1
  funext l
  rw [List.map_map]
  refine List.map_congr_left fun row _ => ?_
  rw [Function.comp_apply, Text.padded_padded, ← Nat.mul_add, Nat.zero_add]

/-- A level deeper is one step more in front of the rows. -/
theorem rows_indented (lines : List Line) :
    rows step 0 (indented lines) = (rows step 0 lines).map (padded step) := by
  have hlevel : rows step 0 (indented lines) = rows step 1 lines := by
    rw [rows, rows, indented, List.flatMap_map]
    simp only [Nat.zero_add, Nat.add_comm 1]
  rw [hlevel, rows_eq_map, Nat.mul_one]

/-- The text of laid out lines on their own: that of their rows at the first level. -/
def alone (lines : List Line) : String := ended (rows step 0 lines)

theorem alone_append (first second : List Line) :
    alone step (first ++ second) = alone step first ++ alone step second := by
  rw [alone, rows_append, Text.ended_append, alone, alone]

/-- A line at the level of the page. -/
theorem alone_singleton (text : String) : alone step [{ text }] = text ++ "\n" := by
  have hrows : rows step 0 [{ text }] = Text.rows text := by
    simp only [rows, List.flatMap_singleton, Nat.add_zero, Nat.mul_zero]
    exact (List.map_congr_left fun row _ => Text.padded_zero row).trans (List.map_id _)
  rw [alone, hrows, Text.ended_rows]

theorem alone_indented (lines : List Line) :
    alone step (indented lines) = shifted step (alone step lines) := by
  rw [alone, rows_indented, alone, Text.shifted_ended]
  intro row hrow
  exact newline_not_mem_of_mem_rows step 0 hrow

/-- Groups with an empty line between them are their texts with a line break between them. -/
theorem alone_spaced (groups : List (List Line)) :
    alone step (spaced groups) = "\n".intercalate (groups.map (alone step)) := by
  have hempty : alone step [{}] = "\n" := alone_singleton step ""
  unfold spaced
  induction groups with
  | nil => rfl
  | cons first more ih =>
    cases more with
    | nil => rw [List.intercalate_singleton, List.map_singleton, String.intercalate_singleton]
    | cons second more =>
      rw [List.intercalate_cons_cons, alone_append, alone_append, ih, hempty]
      simp only [List.map_cons, String.intercalate_cons_cons]

/-- What is laid out ends a line. -/
theorem exists_alone_eq {lines : List Line} (h : lines ≠ []) :
    ∃ front, alone step lines = front ++ "\n" :=
  Text.exists_ended_eq (rows_ne_nil step 0 h)

end Line

/-! ### Laid out lines on a page -/

namespace Page

/-- The page with more text behind what it has. -/
def adding (p : Page) (more : String) : Page := { p with text := p.text ++ more }

section adding
variable (p : Page) (more : String)

@[simp] theorem text_adding : (p.adding more).text = p.text ++ more := rfl

@[simp] theorem step_adding : (p.adding more).step = p.step := rfl

@[simp] theorem depth_adding : (p.adding more).depth = p.depth := rfl

@[simp] theorem imports_adding : (p.adding more).imports = p.imports := rfl

@[simp] theorem atLineStart_adding : (p.adding more).atLineStart = p.atLineStart := rfl

@[simp] theorem adding_empty : p.adding "" = p := by
  rw [adding, String.append_empty]

theorem adding_append (first second : String) :
    p.adding (first ++ second) = (p.adding first).adding second := by
  simp only [adding, String.append_assoc]

end adding

variable {p : Page}

/-- A row, written where a line starts. -/
theorem newline_put (h : p.atLineStart = true) (row : String) :
    (p.put row).newline = p.adding (padded (p.step * p.depth) row ++ "\n") := by
  have hbreak : ∀ text : String, text.push '\n' = text ++ "\n" := fun _ => String.push_eq_append _
  by_cases hempty : row = ""
  · subst hempty
    rw [put_empty, Text.padded_empty, newline, adding, hbreak, String.empty_append, h]
  · have hsome : row.isEmpty = false := by simpa [String.isEmpty_iff] using hempty
    simp only [put, newline, adding, padded, hsome, h, hbreak, Bool.false_eq_true, if_false, if_true,
      String.append_assoc]

/-- Text and a line break, written where a line starts. -/
theorem line_of_start (h : p.atLineStart = true) (text : String) :
    p.line text = p.adding (ended ((Text.rows text).map (padded (p.step * p.depth)))) := by
  -- Each row but the first follows a line break, so it is at the start of a line as well.
  have hrows : ∀ (more : List String) (q : Page) (first : String), q.atLineStart = true →
      (more.foldl (fun q piece => q.newline.put piece) (q.put first)).newline =
        q.adding (ended ((first :: more).map (padded (q.step * q.depth)))) := by
    intro more
    induction more with
    | nil =>
      intro q first hq
      rw [List.foldl_nil, newline_put hq, List.map_singleton, Text.ended_cons, Text.ended_nil,
        String.append_empty]
    | cons second more ih =>
      intro q first hq
      rw [List.foldl_cons, newline_put hq, ih (q.adding _) second hq, ← adding_append]
      simp only [step_adding, depth_adding, List.map_cons, Text.ended_cons]
  rw [line, write]
  cases hpieces : (text.toList.splitOn '\n').map String.ofList with
  | nil => exact absurd hpieces (Text.rows_ne_nil text)
  | cons first more =>
    rw [Text.rows, hpieces]
    exact hrows more p first h

/-- A laid out line, put where a line starts. -/
theorem putLine_of_start (h : p.atLineStart = true) (l : Line) :
    p.putLine l =
      p.adding (ended ((Text.rows l.text).map (padded (p.step * (p.depth + l.depth))))) := by
  have hline := line_of_start (show ({ p with depth := p.depth + l.depth } : Page).atLineStart = true
    from h) l.text
  rw [putLine, hline]
  rfl

/-- Laid out lines, put where a line starts, add their rows. -/
theorem putLines_of_start (h : p.atLineStart = true) (lines : List Line) :
    p.putLines lines = p.adding (ended (Line.rows p.step p.depth lines)) := by
  induction lines generalizing p with
  | nil => exact (adding_empty p).symm
  | cons l lines ih =>
    have hrows : Line.rows p.step p.depth (l :: lines) =
        (Text.rows l.text).map (padded (p.step * (p.depth + l.depth)))
          ++ Line.rows p.step p.depth lines := rfl
    rw [putLines, List.foldl_cons, ← putLines, putLine_of_start h, ih (by exact h), hrows,
      Text.ended_append, adding_append]
    rfl

/-- Laid out lines on a fresh page. -/
theorem text_putLines_fresh (step : Nat) (imports : Imports) (lines : List Line) :
    (({ step, imports } : Page).putLines lines).text = Line.alone step lines := by
  rw [putLines_of_start rfl, text_adding, String.empty_append, Line.alone]

/-- Where a line starts, laid out lines add their text on their own, shifted to the level of the
    page. -/
theorem putLines_eq_shifted (h : p.atLineStart = true) (lines : List Line) :
    p.putLines lines = p.adding (shifted (p.step * p.depth) (Line.alone p.step lines)) := by
  have hshifted : ended (Line.rows p.step p.depth lines) =
      shifted (p.step * p.depth) (Line.alone p.step lines) := by
    rw [Line.rows_eq_map, Line.alone, Text.shifted_ended]
    intro row hrow
    exact Line.newline_not_mem_of_mem_rows p.step 0 hrow
  rw [putLines_of_start h, hshifted]

end Page

end Source

end CompanionSource
