import CompanionSource.Proofs.Source.Printing
import CompanionSource.SourceUnit
import Mathlib.Algebra.GroupWithZero.Nat
import Mathlib.Data.List.Basic
import Mathlib.Data.List.Forall2

/-! # Where the date stands

    The time of a round is written into its files: once for the file and once for each declaration
    in it.  This says that it stands there, and nowhere else.

    - Of the text of a **date** it is assumed that none of its characters is escaped in a literal,
      and that it does not break a line.  Then it comes through the printer as it is.
    - A text is **gapped** in as many places as it has dates: it is the same chunks for all dates,
      with the date in the gaps between them.
    - Lines are **dated** when some of them have a date in their text and the others do not depend
      on it.  A page makes a gapped text of them.

    The text of a moment is a date in this sense: it is made of digits and a few marks. -/

namespace CompanionSource

/-! ### Dates -/

/-- A text that can stand for a date. -/
structure DateText where
  text : String
  /-- None of its characters is changed in a literal. -/
  unescaped : ∀ c ∈ text.toList, Source.escapedChar c = [c]
  /-- It stays in one line. -/
  unbroken : '\n' ∉ text.toList

/-- A date is not changed in a literal. -/
theorem DateText.escaped_text (date : DateText) : Source.escaped date.text = date.text := by
  have hchars : Source.escapedChars date.text.toList = date.text.toList.flatMap fun c => [c] :=
    List.flatMap_congr date.unescaped
  rw [Source.escaped, hchars]
  simp

/-! ### Gapped texts -/

/-- The text is made of chunks that do not depend on the date, with the date in the gaps between
    them.  There are `n` gaps. -/
def Gapped (n : Nat) (text : DateText → String) : Prop :=
  ∃ chunks : List String, chunks.length = n + 1 ∧
    ∀ date, text date = date.text.intercalate chunks

namespace Gapped

variable {m n : Nat} {text more : DateText → String}

theorem same (text : String) : Gapped 0 fun _ => text :=
  ⟨[text], rfl, fun _ => (String.intercalate_singleton).symm⟩

theorem date : Gapped 1 DateText.text := by
  refine ⟨["", ""], rfl, fun date => ?_⟩
  simp [String.intercalate_cons_cons]

/-- The last chunk of the first text and the first chunk of the second one come together. -/
theorem append (h : Gapped m text) (hmore : Gapped n more) :
    Gapped (m + n) fun date => text date ++ more date := by
  obtain ⟨chunks, hlength, htext⟩ := h
  obtain ⟨chunks', hlength', htext'⟩ := hmore
  obtain ⟨front, last, rfl⟩ : ∃ front last, chunks = front ++ [last] :=
    ⟨_, _, (List.dropLast_concat_getLast (List.ne_nil_of_length_eq_add_one hlength)).symm⟩
  obtain ⟨first, back, rfl⟩ := List.exists_cons_of_length_eq_add_one hlength'
  refine ⟨front ++ (last ++ first) :: back, ?_, ?_⟩
  · simp only [List.length_append, List.length_cons, List.length_nil] at hlength hlength' ⊢
    omega
  · intro date
    show text date ++ more date = _
    rw [htext, htext']
    by_cases hfront : front = []
    · rw [hfront, List.nil_append, List.nil_append, String.intercalate_singleton,
        String.intercalate_cons_append]
    · rw [String.intercalate_append_of_ne_nil hfront (List.cons_ne_nil _ _),
        String.intercalate_append_of_ne_nil hfront (List.cons_ne_nil _ _),
        String.intercalate_singleton, String.intercalate_cons_append]
      simp only [String.append_assoc]

/-- A text with the date in one place. -/
theorem around (front back : String) : Gapped 1 fun date => front ++ date.text ++ back :=
  ((same front).append date).append (same back)

end Gapped

/-! ### Dated lines -/

open Source (Line Page)

/-- Lines of which `n` have a date in their text. -/
inductive Dated : Nat → (DateText → List Line) → Prop
  /-- Lines that do not depend on the date. -/
  | same (lines : List Line) : Dated 0 fun _ => lines
  /-- A line with the date in one place, behind a quote. -/
  | line (depth : Nat) (front back : String) :
      Dated 1 fun date => [{ depth, text := front ++ "\"" ++ date.text ++ back }]
  /-- Lines after others. -/
  | append {m n : Nat} {lines more : DateText → List Line} (h : Dated m lines)
      (hmore : Dated n more) : Dated (m + n) fun date => lines date ++ more date

/-- Behind a quote a page is within a line, and what is put on it there gets no indent. -/
theorem exists_write_quote (p : Page) (front : String) : ∃ text,
    p.write (front ++ "\"") = { p with text, atLineStart := false } := by
  obtain ⟨more, atStart, hfront⟩ := p.write_fields front
  have hquote : '\n' ∉ "\"".toList := by decide
  rw [Page.write_append, Page.write_of_not_mem _ hquote, hfront]
  cases atStart with
  | true => exact ⟨_, rfl⟩
  | false => exact ⟨_, rfl⟩

/-- On a page the date stands in a line as it does in its text. -/
theorem gapped_printed (p : Page) (front back : String) :
    Gapped 1 fun date => p.printed (front ++ "\"" ++ date.text ++ back) := by
  obtain ⟨before, hbefore⟩ := exists_write_quote { p with text := "" } front
  -- What is written behind the date begins on an empty page, within a line.
  let rest : Page := { p with text := "", atLineStart := false }
  have hprinted (date : DateText) : p.printed (front ++ "\"" ++ date.text ++ back)
      = before ++ date.text ++ (rest.line back).text := by
    have hput : ({ p with text := before, atLineStart := false } : Page).put date.text
        = rest.behind (before ++ date.text) := by
      by_cases hempty : date.text = ""
      · simp [Page.put, Page.behind, rest, hempty]
      · simp [Page.put, Page.behind, rest, hempty]
    rw [Page.printed, Page.line, Page.write_append, Page.write_append, hbefore,
      Page.write_of_not_mem _ date.unbroken]
    show (((Page.put { p with text := before, atLineStart := false } _).write back).newline).text = _
    rw [hput, Page.write_behind, Page.newline_behind]
    rfl
  simp only [hprinted]
  exact .around _ _

/-- The text of dated lines is gapped. -/
theorem Dated.gapped {n : Nat} {lines : DateText → List Line} (h : Dated n lines) (p : Page)
    (hstart : p.atLineStart = true) : Gapped n fun date => (p.putLines (lines date)).text := by
  simp only [Page.text_putLines p hstart]
  have hjoin : Gapped n fun date => String.join
      ((lines date).map fun l => ({ p with depth := p.depth + l.depth } : Page).printed l.text) := by
    induction h with
    | same lines => exact .same _
    | line depth front back =>
      simpa using gapped_printed { p with depth := p.depth + depth } front back
    | append _ _ ih ihmore =>
      simp only [List.map_append, String.join_append]
      exact ih.append ihmore
  simpa using (Gapped.same p.text).append hjoin

/-- Dated groups of lines are dated with empty lines between them. -/
theorem dated_spaced {counts : List Nat} {groups : List (DateText → List Line)}
    (h : List.Forall₂ Dated counts groups) :
    Dated counts.sum fun date => Line.spaced (groups.map (· date)) := by
  induction h with
  | nil => exact .same []
  | @cons n lines counts groups hlines hmore ih =>
    cases hmore with
    | nil => simpa [Line.spaced] using hlines
    | @cons m more counts groups hmore hrest =>
      have hempty : Dated 0 fun _ => [({} : Line)] := .same _
      have hall := hlines.append (hempty.append ih)
      rw [Nat.zero_add] at hall
      simpa [Line.spaced, List.intercalate_cons_cons] using hall

/-- Lines around dated ones that do not depend on the date. -/
theorem Dated.around {n : Nat} {lines : DateText → List Line} (h : Dated n lines)
    (front back : List Line) : Dated n fun date => front ++ lines date ++ back := by
  have hall := ((Dated.same front).append h).append (.same back)
  rwa [Nat.zero_add] at hall

/-! ### Units on a date -/

open Source (TopLevel AnnotationOf Imports)

/-- The annotation of a provenance has the date in one place, behind a quote. -/
theorem exists_body_markOn (imports : Imports) (p : Provenance) : ∃ front back,
    ∀ date : DateText, (p.markOn date.text).body imports = front ++ "\"" ++ date.text ++ back := by
  let value : String := Source.AnnotationOf.argumentCode imports
    { name := some "value", value := .array [.text p.generator] }
  let comments : String := Source.AnnotationOf.argumentCode imports
    { name := some "comments", value := .text p.comment }
  refine ⟨Source.typeCode imports (.named p.type) ++ ("(" ++ value ++ ", "
    ++ (Name.written "date" ++ " = ")), "\"" ++ ", " ++ comments ++ ")", fun date => ?_⟩
  have hdate : Source.AnnotationOf.argumentCode imports
      { name := some "date", value := .text date.text }
        = Name.written "date" ++ " = " ++ ("\"" ++ date.text ++ "\"") := by
    rw [Source.AnnotationOf.argumentCode, Source.AnnotationValue.code, Source.quoted,
      date.escaped_text]
  have hbody : (p.markOn date.text).body imports = Source.typeCode imports (.named p.type) ++ ("("
      ++ ", ".intercalate [value, Source.AnnotationOf.argumentCode imports
        { name := some "date", value := .text date.text }, comments] ++ ")") := rfl
  rw [hbody, hdate]
  simp only [String.intercalate_cons_cons, String.intercalate_singleton, String.append_assoc]

/-- The line of a provenance is dated. -/
theorem dated_markOn (imports : Imports) (p : Provenance) (site : Option Source.UseSite) :
    Dated 1 fun date => Source.annotationLines imports [{ p.markOn date.text with site }] := by
  obtain ⟨front, back, hbody⟩ := exists_body_markOn imports p
  -- What stands in front of the type of the annotation.
  let opening : String := match site with
    | none => "@"
    | some site => "@" ++ site.word ++ ":"
  have hcode (date : DateText) :
      Source.annotationLines imports [{ p.markOn date.text with site }]
        = [{ depth := 0, text := (opening ++ front) ++ "\"" ++ date.text ++ back }] := by
    have hopening : Source.annotationLines imports [{ p.markOn date.text with site }]
        = [{ text := opening ++ (p.markOn date.text).body imports }] := by
      cases site with
      | none => rfl
      | some site => rfl
    rw [hopening, hbody]
    simp only [String.append_assoc]
  simp only [hcode]
  exact .line 0 _ _

/-- The declaration with these annotations in place of its own. -/
def Source.TopLevel.annotated (marks : List Source.Annotation) : TopLevel → TopLevel
  | .ofClass c => .ofClass { c with annotations := marks }
  | .ofFunction f => .ofFunction { f with annotations := marks }
  | .ofProperty p => .ofProperty { p with annotations := marks }

/-- The annotations of a declaration fill lines of their own, and nothing else depends on them. -/
theorem Source.TopLevel.exists_lines (imports : Imports) (item : TopLevel) :
    ∃ front back, ∀ marks, (item.annotated marks).lines imports
      = front ++ Source.annotationLines imports marks ++ back := by
  cases item with
  | ofClass c =>
    let opening : List Line :=
      if c.parameters.isEmpty then []
      else { text := c.heading imports ++ "(" }
        :: Line.indented (c.parameters.map fun p => { text := p.code imports ++ "," })
    let head := (if c.parameters.isEmpty then c.heading imports else ")") ++ c.tail imports
    let body : List Line :=
      if c.properties.isEmpty && c.functions.isEmpty then [{ text := head }]
      else Line.block head (c.bodyLines imports)
    refine ⟨Source.docLines c.doc, opening ++ body, fun marks => ?_⟩
    show Source.docLines c.doc ++ Source.annotationLines imports marks ++ opening ++ body = _
    rw [List.append_assoc]
  | ofFunction f =>
    exact ⟨Source.docLines f.doc, Line.block (f.heading imports) (Source.bodyLines imports f.body),
      fun _ => rfl⟩
  | ofProperty q =>
    let getter := Line.indented (Source.accessorLines imports "get()" q.getter)
    let setter := Line.indented
      (if q.mutable then Source.accessorLines imports "set(value)" q.setter else [])
    refine ⟨Source.docLines q.doc, [{ text := q.heading imports }] ++ getter ++ setter,
      fun marks => ?_⟩
    show Source.docLines q.doc ++ Source.annotationLines imports marks
      ++ [{ text := q.heading imports }] ++ getter ++ setter = _
    simp only [List.append_assoc]

/-- What is declared has the date in the one line of its provenance. -/
theorem dated_lines (imports : Imports) (p : Provenance) (item : TopLevel) :
    Dated 1 fun date => (item.annotated [p.markOn date.text]).lines imports := by
  obtain ⟨front, back, hlines⟩ := item.exists_lines imports
  simp only [hlines]
  exact (dated_markOn imports p none).around front back

/-- The file of a unit with this date in its provenance, and with this provenance on all that it
    declares. -/
def SourceUnit.fileOn (date : String) (step : Nat) (u : SourceUnit) : Source.File :=
  { u.toFile step with
    annotations := [{ u.provenance.markOn date with site := some .file }]
    members := u.members.map (·.annotated [u.provenance.markOn date]) }

/-- The lines of the file: its provenance, its head, which has no date, and its declarations. -/
theorem SourceUnit.sections_fileOn (u : SourceUnit) (date : String) (step : Nat) :
    (u.fileOn date step).sections =
      Source.annotationLines u.imports [{ u.provenance.markOn date with site := some .file }] ::
        (Source.File.sections
            { package := u.key.scope, name := u.key.file, imports := u.imports, step } ++
          u.members.map fun item =>
            (item.annotated [u.provenance.markOn date]).lines u.imports) := by
  simp only [Source.File.sections, List.append_assoc, List.isEmpty_nil, if_true, List.nil_append,
    List.map_nil, List.append_nil]
  show _ :: (_ ++ (_ ++ (u.members.map _).map _)) = _
  rw [List.map_map]
  rfl

/-- **Where the date stands.**  In the file of a unit the date stands once for the file and once for
    each declaration in it, and nothing else depends on it. -/
theorem SourceUnit.gapped_fileOn (u : SourceUnit) (step : Nat) :
    Gapped (u.members.length + 1) fun date => (u.fileOn date.text step).text := by
  let provenance : DateText → List Line := fun date =>
    Source.annotationLines u.imports [{ u.provenance.markOn date.text with site := some .file }]
  let head : List (List Line) := Source.File.sections
    { package := u.key.scope, name := u.key.file, imports := u.imports, step }
  let declared : List (DateText → List Line) := u.members.map fun item date =>
    (item.annotated [u.provenance.markOn date.text]).lines u.imports
  let sections : List (DateText → List Line) :=
    provenance :: (head.map fun lines _ => lines) ++ declared
  have hdated : List.Forall₂ Dated (1 :: (head.map fun _ => 0) ++ u.members.map fun _ => 1)
      sections := by
    refine .cons (dated_markOn _ _ _) (List.rel_append ?_ ?_)
    · rw [List.forall₂_map_left_iff, List.forall₂_map_right_iff, List.forall₂_same]
      exact fun lines _ => .same lines
    · rw [List.forall₂_map_left_iff, List.forall₂_map_right_iff, List.forall₂_same]
      exact fun item _ => dated_lines _ _ item
  have hlines := (dated_spaced hdated).gapped { step, imports := u.imports } rfl
  have hcount : (1 :: (head.map fun _ => 0) ++ u.members.map fun _ => 1).sum
      = u.members.length + 1 := by
    simp [Nat.add_comm]
  have htext (date : DateText) : (u.fileOn date.text step).text =
      (({ step, imports := u.imports } : Page).putLines
        (Line.spaced (sections.map (· date)))).text := by
    have hsections : sections.map (· date) = (u.fileOn date.text step).sections := by
      rw [u.sections_fileOn]
      simp [sections, declared, head, provenance, Function.comp_def]
    rw [hsections]
    rfl
  rw [hcount] at hlines
  simp only [htext]
  exact hlines

/-! ### The dates of moments -/

namespace Moment

/-- What dates are made of. -/
def dateChars : List Char := "0123456789+-:TZ".toList

theorem mem_dateChars_of_isDigit {c : Char} (h : c.isDigit) : c ∈ dateChars := by
  have hdigits : ∀ n < 58, 48 ≤ n → Char.ofNat n ∈ dateChars := by decide
  simp only [Char.isDigit, Bool.and_eq_true, decide_eq_true_eq, UInt32.le_iff_toNat_le] at h
  have hchar := hdigits c.toNat (Nat.lt_succ_of_le h.2) h.1
  rwa [Char.ofNat_toNat] at hchar

/-- The text is made of the characters of dates. -/
def IsDateText (text : String) : Prop := ∀ c ∈ text.toList, c ∈ dateChars

instance (text : String) : Decidable (IsDateText text) :=
  List.decidableBAll _ text.toList

theorem IsDateText.append {first second : String} (hfirst : IsDateText first)
    (hsecond : IsDateText second) : IsDateText (first ++ second) := by
  intro c hc
  rw [String.toList_append, List.mem_append] at hc
  exact hc.elim (hfirst c) (hsecond c)

theorem isDateText_padded (width n : Nat) : IsDateText (padded width n) := by
  intro c hc
  rw [padded, String.toList_ofList, List.mem_append] at hc
  rcases hc with hzero | hdigit
  · rw [List.eq_of_mem_replicate hzero]
    decide
  · exact mem_dateChars_of_isDigit (Nat.isDigit_of_mem_toDigits (by decide) (by decide) hdigit)

theorem isDateText_yearText (year : Int) : IsDateText (yearText year) := by
  unfold yearText
  split
  · exact isDateText_padded 4 _
  · refine IsDateText.append ?_ (isDateText_padded 4 _)
    split
    · decide
    · decide

theorem isDateText_text (t : Moment) : IsDateText t.text := by
  -- Each part but the year has a mark in front of it.
  have hpart {front mark : String} (hfront : IsDateText front) (hmark : IsDateText mark) (n : Nat) :
      IsDateText (front ++ mark ++ padded 2 n) :=
    (hfront.append hmark).append (isDateText_padded 2 n)
  unfold text clockText
  have hyear := isDateText_yearText (Calendar.dateOf t.day).1
  have hmonth := hpart hyear (by decide : IsDateText "-") (Calendar.dateOf t.day).2.1
  have hday := hpart hmonth (by decide : IsDateText "-") (Calendar.dateOf t.day).2.2
  have hhour := hpart hday (by decide : IsDateText "T") (t.second / 3600)
  have hminute := hpart hhour (by decide : IsDateText ":") (t.second / 60 % 60)
  have hsecond := hpart hminute (by decide : IsDateText ":") (t.second % 60 + t.nano / nanoUnit)
  exact hsecond.append (by decide : IsDateText "Z")

/-- The text of a moment is a date. -/
def dateText (t : Moment) : DateText where
  text := t.text
  unescaped c hc := by
    have hplain : dateChars.all (fun c => Source.escapedChar c = [c]) = true := by decide
    exact of_decide_eq_true (List.all_eq_true.mp hplain c (isDateText_text t c hc))
  unbroken hbreak := by
    have hplain : '\n' ∉ dateChars := by decide
    exact hplain (isDateText_text t '\n' hbreak)

end Moment

/-- The provenance with another time. -/
def Provenance.dated (t : Moment) (p : Provenance) : Provenance := { p with moment := t }

/-- The unit with another time in its provenance, and with this provenance on all that it
    declares. -/
def SourceUnit.dated (t : Moment) (u : SourceUnit) : SourceUnit :=
  { key := u.key
    members := u.members.map (·.annotated [(u.provenance.dated t).mark])
    provenance := u.provenance.dated t
    nonempty := by simpa using u.nonempty }

/-- The text of a unit at any time: the same chunks, with the date between them. -/
theorem SourceUnit.exists_text_dated (u : SourceUnit) (step : Nat) : ∃ chunks : List String,
    chunks.length = u.members.length + 2 ∧
    ∀ t, (u.dated t).text step = t.text.intercalate chunks := by
  obtain ⟨chunks, hlength, htext⟩ := u.gapped_fileOn step
  -- At a time the file of the unit is its file on the date of this time.
  exact ⟨chunks, hlength, fun t => htext t.dateText⟩

end CompanionSource
