import CompanionSource.Proofs.Source.Documentation
import CompanionSource.Proofs.Source.Indentation
import CompanionSource.Source.File
import Mathlib.Data.List.Forall2

/-! # Rendering

    A node is **rendered** on a page call by call: text, line breaks, a level deeper and back again.
    All nodes share the page, so each has to leave it as it found it.

    - A rendered node is what it is laid out as: each level that is entered is left again, and the
      pieces of a heading come to one line.
    - So rendering **composes**.  Wherever a line starts, a node adds the text that it has on its
      own, shifted to the level of the page.
    - A file is its sections and a class its members, each rendered on its own, with an empty line
      between any two. -/

namespace CompanionSource.Source

open Text (shifted)

/-- A node of source text that fills whole lines. -/
inductive Node where
  | statement (s : Stmt)
  | mark (a : Annotation)
  | property (x : Property)
  | function (f : Function)
  | class_ (c : Class)
  | topLevel (t : TopLevel)

/-- The lines that a node is laid out in. -/
def Node.lines (imports : Imports) : Node → List Line
  | .statement s => [{ text := s.code imports }]
  | .mark a => [{ text := a.code imports }]
  | .property x => x.lines imports
  | .function f => f.lines imports
  | .class_ c => c.lines imports
  | .topLevel t => t.lines imports

/-! ### Calls -/

namespace Page

/-- A statement on a line. -/
def renderStatement (p : Page) (s : Stmt) : Page := p.line (s.code p.imports)

/-- An annotation on a line. -/
def renderAnnotation (p : Page) (a : Annotation) : Page := p.line (a.code p.imports)

/-- Documentation and annotations, as they stand in front of a declaration. -/
def renderFront (p : Page) (doc : Option String) (marks : List Annotation) : Page :=
  marks.foldl renderAnnotation ((docLines doc).foldl (fun p l => p.line l.text) p)

/-- A heading, and in braces below it what is written a level deeper. -/
def renderBraces (p : Page) (heading : String) (inner : Page → Page) : Page :=
  (inner (p.line (heading ++ " \x7b")).indent).dedent.line "\x7d"

/-- An accessor, if there is one. -/
def renderAccessor (p : Page) (heading : String) : Option (List Stmt) → Page
  | some body => p.renderBraces heading fun p => body.foldl renderStatement p
  | none => p

/-- A property, with its accessors a level deeper. -/
def renderProperty (p : Page) (x : Property) : Page :=
  let p := p.renderFront x.doc x.annotations
  let p := (p.line (x.heading p.imports)).indent
  let p := p.renderAccessor "get()" x.getter
  (p.renderAccessor "set(value)" (if x.mutable then x.setter else none)).dedent

/-- A function, with its statements a level deeper. -/
def renderFunction (p : Page) (f : Function) : Page :=
  let p := p.renderFront f.doc f.annotations
  p.renderBraces (f.heading p.imports) fun p => f.body.foldl renderStatement p

/-- Parts with an empty line in front of each but the first. -/
def renderSpaced : List (Page → Page) → Page → Page
  | [], p => p
  | [part], p => part p
  | part :: next :: parts, p => renderSpaced (next :: parts) (part p).newline

/-- The heading of a class, up to the bracket behind its constructor.  The line goes on. -/
def renderConstructor (p : Page) (c : Class) : Page :=
  if c.parameters.isEmpty then p.write (c.heading p.imports)
  else
    let p := (p.line (c.heading p.imports ++ "(")).indent
    (c.parameters.foldl (fun p x => p.line (x.code p.imports ++ ",")) p).dedent.write ")"

/-- The members of a class: its properties and then its functions. -/
def memberParts (c : Class) : List (Page → Page) :=
  c.properties.map (fun x p => p.renderProperty x) ++ c.functions.map fun f p => p.renderFunction f

/-- The rest of a class: the end of its heading, and its members a level deeper if it has any. -/
def renderRest (p : Page) (c : Class) : Page :=
  if c.properties.isEmpty && c.functions.isEmpty then p.line (c.tail p.imports)
  else p.renderBraces (c.tail p.imports) (renderSpaced (memberParts c))

/-- A class. -/
def renderClass (p : Page) (c : Class) : Page :=
  ((p.renderFront c.doc c.annotations).renderConstructor c).renderRest c

/-- A declaration at the top level of a file. -/
def renderTopLevel (p : Page) : TopLevel → Page
  | .ofClass c => p.renderClass c
  | .ofFunction f => p.renderFunction f
  | .ofProperty x => p.renderProperty x

/-- A node. -/
def render (p : Page) : Node → Page
  | .statement s => p.renderStatement s
  | .mark a => p.renderAnnotation a
  | .property x => p.renderProperty x
  | .function f => p.renderFunction f
  | .class_ c => p.renderClass c
  | .topLevel t => p.renderTopLevel t

/-- The sections of a file. -/
def sectionParts (f : File) : List (Page → Page) :=
  (if f.annotations.isEmpty then [] else [fun p => f.annotations.foldl renderAnnotation p])
    ++ (if f.package.isEmpty then []
      else [fun p => p.line ("package " ++ Name.writtenDotted f.package)])
    ++ (if f.imports.names.isEmpty then []
      else [fun p => f.imports.names.foldl
        (fun p n => p.line ("import " ++ Name.writtenDotted n)) p])
    ++ f.members.map fun t p => p.renderTopLevel t

/-- A file.  Its imports shorten the names in all of it, its annotations included. -/
def renderFile (p : Page) (f : File) : Page :=
  renderSpaced (sectionParts f) { p with imports := f.imports }

end Page

/-! ### What is rendered is what is laid out -/

/-- What is rendered on a page with these imports is what is laid out in these lines. -/
def LaysOut (imports : Imports) (render : Page → Page) (lines : List Line) : Prop :=
  ∀ p : Page, p.imports = imports → render p = p.putLines lines

namespace Page

variable (p : Page)

@[simp] theorem imports_putLines (lines : List Line) : (p.putLines lines).imports = p.imports := by
  induction lines generalizing p with
  | nil => rfl
  | cons l lines ih => rw [putLines_cons, ih, putLine_eq]

theorem line_eq_putLines (text : String) : p.line text = p.putLines [{ text }] := by
  show p.line text = p.putLine { text }
  rw [putLine, line_eq, line_eq]
  rfl

theorem newline_eq_putLines : p.newline = p.putLines [{}] := by
  rw [← line_eq_putLines p "", line, write_of_not_mem p (by simp), put_empty]

theorem imports_write (text : String) : (p.write text).imports = p.imports := by
  obtain ⟨more, atStart, hwrite⟩ := write_fields p text
  rw [hwrite]

/-- The pieces of a line. -/
theorem line_write (first second : String) :
    (p.write first).line second = p.line (first ++ second) := by
  rw [line, line, write_append]

theorem renderBraces_write (first second : String) (inner : Page → Page) :
    (p.write first).renderBraces second inner = p.renderBraces (first ++ second) inner := by
  rw [renderBraces, renderBraces, line_write, String.append_assoc]

/-- A level that is entered is left again: the lines are laid out a level deeper. -/
theorem dedent_putLines_indent (lines : List Line) :
    (p.indent.putLines lines).dedent = p.putLines (Line.indented lines) := by
  induction lines generalizing p with
  | nil => rfl
  | cons l lines ih =>
    have hline : p.indent.putLine l = (p.putLine { l with depth := l.depth + 1 }).indent := by
      rw [putLine_eq, putLine_eq]
      simp only [indent, Nat.add_right_comm p.depth 1, ← Nat.add_assoc]
    rw [putLines_cons, hline, ih]
    rfl

end Page

theorem depth_of_mem_docLines {doc : Option String} {l : Line} (h : l ∈ docLines doc) :
    l.depth = 0 := by
  unfold docLines at h
  split at h
  · cases h
  · simp only [List.cons_append, List.mem_cons, List.mem_append, List.mem_map, List.not_mem_nil,
      or_false] at h
    rcases h with rfl | ⟨piece, -, rfl⟩ | rfl
    · rfl
    · exact depth_docLine piece
    · rfl

namespace LaysOut

variable {imports : Imports}

theorem nothing : LaysOut imports (fun p => p) [] := fun _ _ => rfl

theorem line (text : Imports → String) :
    LaysOut imports (fun p => p.line (text p.imports)) [{ text := text imports }] := by
  intro p hp
  show p.line (text p.imports) = _
  rw [Page.line_eq_putLines, hp]

/-- One after the other. -/
theorem append {first second : Page → Page} {ls ls' : List Line} (h : LaysOut imports first ls)
    (h' : LaysOut imports second ls') : LaysOut imports (fun p => second (first p)) (ls ++ ls') := by
  intro p hp
  show second (first p) = _
  rw [h p hp, h' _ ((p.imports_putLines ls).trans hp), Page.putLines_append]

/-- Each on a line. -/
theorem eachOnLine {α : Type} (text : Imports → α → String) (xs : List α) :
    LaysOut imports (fun p => xs.foldl (fun p x => p.line (text p.imports x)) p)
      (xs.map fun x => { text := text imports x }) := by
  induction xs with
  | nil => exact nothing
  | cons x xs ih => exact append (line fun imports => text imports x) ih

theorem deeper {inner : Page → Page} {ls : List Line} (h : LaysOut imports inner ls) :
    LaysOut imports (fun p => (inner p.indent).dedent) (Line.indented ls) := by
  intro p hp
  show (inner p.indent).dedent = _
  rw [h p.indent hp, Page.dedent_putLines_indent]

theorem braces (heading : Imports → String) {inner : Page → Page} {ls : List Line}
    (h : LaysOut imports inner ls) :
    LaysOut imports (fun p => p.renderBraces (heading p.imports) inner)
      (Line.block (heading imports) ls) := by
  have hopening : LaysOut imports (fun p => p.line (heading p.imports ++ " \x7b"))
      [{ text := heading imports ++ " \x7b" }] := line fun imports => heading imports ++ " \x7b"
  have hclosing : LaysOut imports (fun p => p.line "\x7d") [{ text := "\x7d" }] :=
    line fun _ => "\x7d"
  exact (hopening.append h.deeper).append hclosing

theorem spaced {parts : List (Page → Page)} {groups : List (List Line)}
    (h : List.Forall₂ (LaysOut imports) parts groups) :
    LaysOut imports (Page.renderSpaced parts) (Line.spaced groups) := by
  have hempty : LaysOut imports Page.newline [{}] := fun p _ => p.newline_eq_putLines
  induction h with
  | nil => exact nothing
  | cons hpart hparts ih =>
    cases hparts with
    | nil =>
      rw [Line.spaced, List.intercalate_singleton]
      exact hpart
    | cons hnext hmore =>
      -- The line break behind the first part is the empty line in front of the others.
      rw [Line.spaced, List.intercalate_cons_cons]
      have hfirst := (hpart.append hempty).append ih
      exact hfirst

/-- Parts and groups that are made of the same elements. -/
theorem each {α : Type} {part : α → Page → Page} {group : α → List Line}
    (h : ∀ x, LaysOut imports (part x) (group x)) (xs : List α) :
    List.Forall₂ (LaysOut imports) (xs.map part) (xs.map group) := by
  rw [List.forall₂_map_left_iff, List.forall₂_map_right_iff, List.forall₂_same]
  intro x _
  exact h x

theorem front (doc : Option String) (marks : List Annotation) :
    LaysOut imports (fun p => p.renderFront doc marks)
      (docLines doc ++ annotationLines imports marks) := by
  -- The lines of documentation are all at the level of the page, so their texts make them up.
  have hlevel : (docLines doc).map (fun l => ({ text := l.text } : Line)) = docLines doc := by
    conv => rhs; rw [← List.map_id (docLines doc)]
    refine List.map_congr_left fun l hl => ?_
    rw [id, ← depth_of_mem_docLines hl]
  have hdoc : LaysOut imports (fun p => (docLines doc).foldl (fun p l => p.line l.text) p)
      ((docLines doc).map fun l => { text := l.text }) :=
    eachOnLine (fun _ (l : Line) => l.text) (docLines doc)
  rw [hlevel] at hdoc
  exact hdoc.append (eachOnLine (fun imports (a : Annotation) => a.code imports) marks)

theorem statements (body : List Stmt) :
    LaysOut imports (fun p => body.foldl Page.renderStatement p) (bodyLines imports body) :=
  eachOnLine (fun imports (s : Stmt) => s.code imports) body

theorem accessor (heading : String) (body : Option (List Stmt)) :
    LaysOut imports (fun p => p.renderAccessor heading body)
      (accessorLines imports heading body) := by
  cases body with
  | none => exact nothing
  | some body => exact braces (fun _ => heading) (statements body)

theorem property (x : Property) :
    LaysOut imports (fun p => p.renderProperty x) (x.lines imports) := by
  have hsetter : LaysOut imports
      (fun p => p.renderAccessor "set(value)" (if x.mutable then x.setter else none))
      (if x.mutable then accessorLines imports "set(value)" x.setter else []) := by
    split
    · exact accessor "set(value)" x.setter
    · exact nothing
  have hheading : LaysOut imports (fun p => p.line (x.heading p.imports))
      [{ text := x.heading imports }] := line fun imports => x.heading imports
  -- Both accessors are written while the page is one level deeper.
  have haccessors := ((accessor "get()" x.getter).append hsetter).deeper
  have hwhole := ((front x.doc x.annotations).append hheading).append haccessors
  have hlines : x.lines imports = docLines x.doc ++ annotationLines imports x.annotations
      ++ [{ text := x.heading imports }] ++ Line.indented (accessorLines imports "get()" x.getter
        ++ if x.mutable then accessorLines imports "set(value)" x.setter else []) := by
    rw [Property.lines, List.append_assoc _ (Line.indented _), ← Line.indented_append]
  rw [hlines]
  exact hwhole

theorem function (f : Function) :
    LaysOut imports (fun p => p.renderFunction f) (f.lines imports) := by
  have hbraces : LaysOut imports
      (fun p => p.renderBraces (f.heading p.imports) fun p => f.body.foldl Page.renderStatement p)
      (Line.block (f.heading imports) (bodyLines imports f.body)) :=
    braces (fun imports => f.heading imports) (statements f.body)
  exact (front f.doc f.annotations).append hbraces

theorem members (c : Class) :
    LaysOut imports (Page.renderSpaced (Page.memberParts c)) (c.bodyLines imports) :=
  spaced (List.rel_append (each property c.properties) (each function c.functions))

/-- The rest of a class goes on in the line in which its heading was begun. -/
theorem rest (c : Class) (lead : Imports → String) :
    LaysOut imports (fun p => (p.write (lead p.imports)).renderRest c)
      (if c.properties.isEmpty && c.functions.isEmpty then
        [{ text := lead imports ++ c.tail imports }]
      else Line.block (lead imports ++ c.tail imports) (c.bodyLines imports)) := by
  intro p hp
  -- What was begun and what comes behind it are one line, since nothing breaks it off between them.
  simp only [Page.renderRest, Page.imports_write, Page.line_write, Page.renderBraces_write]
  split
  · exact line (fun imports => lead imports ++ c.tail imports) p hp
  · exact braces (fun imports => lead imports ++ c.tail imports) (members c) p hp

theorem parameters (c : Class) :
    LaysOut imports
      (fun p => (c.parameters.foldl (fun p x => p.line (x.code p.imports ++ ","))
        (p.line (c.heading p.imports ++ "(")).indent).dedent)
      ({ text := c.heading imports ++ "(" }
        :: Line.indented (c.parameters.map fun x => { text := x.code imports ++ "," })) := by
  have hopening : LaysOut imports (fun p => p.line (c.heading p.imports ++ "("))
      [{ text := c.heading imports ++ "(" }] := line fun imports => c.heading imports ++ "("
  have heach : LaysOut imports
      (fun p => c.parameters.foldl (fun p x => p.line (x.code p.imports ++ ",")) p)
      (c.parameters.map fun x => { text := x.code imports ++ "," }) :=
    eachOnLine (fun imports (x : Parameter) => x.code imports ++ ",") c.parameters
  exact hopening.append heach.deeper

theorem class_ (c : Class) : LaysOut imports (fun p => p.renderClass c) (c.lines imports) := by
  have hfront : LaysOut imports (fun p => p.renderFront c.doc c.annotations)
      (docLines c.doc ++ annotationLines imports c.annotations) := front c.doc c.annotations
  unfold Page.renderClass Page.renderConstructor Class.lines
  by_cases hempty : c.parameters.isEmpty = true
  · simp only [hempty, if_true, List.append_nil]
    exact hfront.append (rest c fun imports => c.heading imports)
  · simp only [hempty]
    exact (hfront.append (parameters c)).append (rest c fun _ => ")")

theorem topLevel (t : TopLevel) :
    LaysOut imports (fun p => p.renderTopLevel t) (t.lines imports) := by
  cases t with
  | ofClass c => exact class_ c
  | ofFunction f => exact function f
  | ofProperty x => exact property x

theorem node (n : Node) : LaysOut imports (fun p => p.render n) (n.lines imports) := by
  cases n with
  | statement s => exact line fun imports => s.code imports
  | mark a => exact line fun imports => a.code imports
  | property x => exact property x
  | function f => exact function f
  | class_ c => exact class_ c
  | topLevel t => exact topLevel t

theorem sections (f : File) :
    List.Forall₂ (LaysOut f.imports) (Page.sectionParts f) f.sections := by
  unfold Page.sectionParts File.sections
  refine List.rel_append (List.rel_append (List.rel_append ?_ ?_) ?_) ?_
  · split
    · exact .nil
    · exact .cons (eachOnLine (fun imports (a : Annotation) => a.code imports) f.annotations) .nil
  · split
    · exact .nil
    · exact .cons (line fun _ => "package " ++ Name.writtenDotted f.package) .nil
  · split
    · exact .nil
    · exact .cons (eachOnLine (fun _ n => "import " ++ Name.writtenDotted n) f.imports.names) .nil
  · exact each topLevel f.members

end LaysOut

theorem Page.render_eq_putLines (p : Page) (n : Node) :
    p.render n = p.putLines (n.lines p.imports) :=
  LaysOut.node n p rfl

/-- A file, rendered on a fresh page, is the text that its lines are laid out to. -/
theorem Page.text_renderFile (f : File) :
    (({ step := f.step, imports := .empty } : Page).renderFile f).text = f.text := by
  rw [renderFile, LaysOut.spaced (LaysOut.sections f) _ rfl, File.text, File.lines]

/-! ### Nodes on their own -/

/-- The lines of a class in front of the one in which its heading ends. -/
def Class.frontLines (imports : Imports) (c : Class) : List Line :=
  docLines c.doc ++ annotationLines imports c.annotations
    ++ if c.parameters.isEmpty then []
      else { text := c.heading imports ++ "(" }
        :: Line.indented (c.parameters.map fun x => { text := x.code imports ++ "," })

/-- The line in which the heading of a class ends. -/
def Class.lastHeading (imports : Imports) (c : Class) : String :=
  (if c.parameters.isEmpty then c.heading imports else ")") ++ c.tail imports

theorem Class.lines_eq (imports : Imports) (c : Class) :
    c.lines imports = c.frontLines imports
      ++ if c.properties.isEmpty && c.functions.isEmpty then [{ text := c.lastHeading imports }]
        else Line.block (c.lastHeading imports) (c.bodyLines imports) :=
  rfl

namespace Node

/-- The text of a node on its own: at the first level of a fresh page. -/
def text (step : Nat) (imports : Imports) (n : Node) : String :=
  (({ step, imports } : Page).render n).text

variable (step : Nat) (imports : Imports)

theorem text_eq_alone (n : Node) : n.text step imports = Line.alone step (n.lines imports) := by
  rw [text, Page.render_eq_putLines, Page.text_putLines_fresh]

theorem lines_ne_nil (n : Node) : n.lines imports ≠ [] := by
  have hproperty : ∀ x : Property, x.lines imports ≠ [] := by
    intro x
    simp [Property.lines]
  have hfunction : ∀ f : Function, f.lines imports ≠ [] := by
    intro f
    simp [Function.lines, Line.block]
  have hclass : ∀ c : Class, c.lines imports ≠ [] := by
    intro c hnil
    rw [Class.lines_eq, List.append_eq_nil_iff] at hnil
    obtain ⟨-, hlast⟩ := hnil
    split at hlast <;> cases hlast
  cases n with
  | statement s => exact List.cons_ne_nil _ _
  | mark a => exact List.cons_ne_nil _ _
  | property x => exact hproperty x
  | function f => exact hfunction f
  | class_ c => exact hclass c
  | topLevel t =>
    cases t with
    | ofClass c => exact hclass c
    | ofFunction f => exact hfunction f
    | ofProperty x => exact hproperty x

end Node

/-- Where a line starts, a node adds the text that it has on its own, shifted to the level of the
    page. -/
theorem Page.render_eq_shifted {p : Page} (h : p.atLineStart = true) (n : Node) :
    p.render n = p.adding (shifted (p.step * p.depth) (n.text p.step p.imports)) := by
  rw [render_eq_putLines, putLines_eq_shifted h, Node.text_eq_alone]

/-! ### Sections and members -/

/-- The text of lines at the level of the page. -/
theorem Line.alone_map {α : Type} (step : Nat) (text : α → String) (xs : List α) :
    alone step (xs.map fun x => { text := text x }) =
      String.join (xs.map fun x => text x ++ "\n") := by
  induction xs with
  | nil => rfl
  | cons x xs ih =>
    rw [List.map_cons, ← List.singleton_append, alone_append, alone_singleton, ih, List.map_cons,
      String.join_cons]

/-- The texts of the sections of a file that are not empty, each on its own. -/
def File.sectionTexts (f : File) : List String :=
  (if f.annotations.isEmpty then []
      else [String.join (f.annotations.map fun a => (Node.mark a).text f.step f.imports)])
    ++ (if f.package.isEmpty then []
      else ["package " ++ Name.writtenDotted f.package ++ "\n"])
    ++ (if f.imports.names.isEmpty then []
      else [String.join (f.imports.names.map fun n => "import " ++ Name.writtenDotted n ++ "\n")])
    ++ f.members.map fun t => (Node.topLevel t).text f.step f.imports

theorem File.map_alone_sections (f : File) :
    f.sections.map (Line.alone f.step) = f.sectionTexts := by
  have hmark : ∀ a : Annotation,
      (Node.mark a).text f.step f.imports = a.code f.imports ++ "\n" := by
    intro a
    rw [Node.text_eq_alone, Node.lines, Line.alone_singleton]
  have hmember : ∀ t : TopLevel,
      Line.alone f.step (t.lines f.imports) = (Node.topLevel t).text f.step f.imports := by
    intro t
    rw [Node.text_eq_alone, Node.lines]
  unfold sections sectionTexts
  simp only [hmark, List.map_append, apply_ite (List.map (Line.alone f.step)), List.map_nil,
    List.map_singleton, annotationLines, Line.alone_map, Line.alone_singleton, List.map_map,
    Function.comp_def, hmember]

theorem File.ne_nil_of_mem_sections {f : File} {lines : List Line} (h : lines ∈ f.sections) :
    lines ≠ [] := by
  have hsection : ∀ {α : Type} {xs : List α} {text : α → String},
      lines ∈ (if xs.isEmpty then [] else [xs.map fun x => { text := text x }]) → lines ≠ [] := by
    intro α xs text h
    split at h
    · cases h
    · next hsome =>
      rw [List.mem_singleton.mp h, Ne, List.map_eq_nil_iff]
      simpa using hsome
  unfold sections at h
  simp only [List.mem_append] at h
  rcases h with ((h | h) | h) | h
  · exact hsection h
  · split at h
    · cases h
    · rw [List.mem_singleton.mp h]
      exact List.cons_ne_nil _ _
  · exact hsection h
  · obtain ⟨t, -, rfl⟩ := List.mem_map.mp h
    exact (Node.topLevel t).lines_ne_nil f.imports

/-- A file is its sections with an empty line between any two. -/
theorem File.text_eq_intercalate (f : File) : f.text = "\n".intercalate f.sectionTexts := by
  rw [text, Page.text_putLines_fresh, lines, Line.alone_spaced, map_alone_sections]

/-- The texts of the members of a class, each on its own. -/
def Class.memberTexts (step : Nat) (imports : Imports) (c : Class) : List String :=
  c.properties.map (fun x => (Node.property x).text step imports)
    ++ c.functions.map fun f => (Node.function f).text step imports

/-- The class without its members. -/
def Class.bare (c : Class) : Class := { c with properties := [], functions := [] }

theorem Class.alone_bodyLines (step : Nat) (imports : Imports) (c : Class) :
    Line.alone step (c.bodyLines imports) = "\n".intercalate (c.memberTexts step imports) := by
  rw [bodyLines, Line.alone_spaced, memberTexts]
  simp only [List.map_append, List.map_map, Function.comp_def, Node.text_eq_alone, Node.lines]

/-- The members of a class stand in braces behind its heading, a level deeper. -/
theorem Class.exists_header (step : Nat) (imports : Imports) (c : Class) :
    ∃ header, (Node.class_ c.bare).text step imports = header ++ "\n" ∧
      (Node.class_ c).text step imports = header ++
        if c.properties.isEmpty && c.functions.isEmpty then "\n"
        else " \x7b\n" ++ shifted step ("\n".intercalate (c.memberTexts step imports))
          ++ "\x7d\n" := by
  refine ⟨Line.alone step (c.frontLines imports) ++ c.lastHeading imports, ?_, ?_⟩
  · have hbare : c.bare.lines imports =
        c.frontLines imports ++ [{ text := c.lastHeading imports }] := rfl
    rw [Node.text_eq_alone, Node.lines, hbare, Line.alone_append, Line.alone_singleton,
      String.append_assoc]
  · rw [Node.text_eq_alone, Node.lines, Class.lines_eq, Line.alone_append, String.append_assoc]
    split
    · rw [Line.alone_singleton]
    · have hblock : Line.block (c.lastHeading imports) (c.bodyLines imports) =
          [{ text := c.lastHeading imports ++ " \x7b" }] ++ Line.indented (c.bodyLines imports)
            ++ [{ text := "\x7d" }] := rfl
      rw [hblock, Line.alone_append, Line.alone_append, Line.alone_singleton, Line.alone_singleton,
        Line.alone_indented, Class.alone_bodyLines]
      simp only [String.append_assoc]
      rfl

/-! ### Composition -/

/-- **Rendering composes.**  A rendered node is what it is laid out as.  Wherever a line starts, it
    adds the text that it has on its own, shifted to the level of the page, which ends with a line
    break.  A file is its sections and the body of a class its members, each rendered on its own,
    with an empty line between any two. -/
theorem rendering_composes :
    (∀ (p : Page) (n : Node), p.render n = p.putLines (n.lines p.imports) ∧
      (p.atLineStart = true →
        p.render n = p.adding (shifted (p.step * p.depth) (n.text p.step p.imports)) ∧
          ∃ front, n.text p.step p.imports = front ++ "\n")) ∧
    (∀ f : File, (({ step := f.step, imports := .empty } : Page).renderFile f).text = f.text ∧
      f.text = "\n".intercalate f.sectionTexts ∧
      ∀ text ∈ f.sectionTexts, ∃ front, text = front ++ "\n") ∧
    ∀ (step : Nat) (imports : Imports) (c : Class),
      ∃ header, (Node.class_ c.bare).text step imports = header ++ "\n" ∧
        (Node.class_ c).text step imports = header ++
          if c.properties.isEmpty && c.functions.isEmpty then "\n"
          else " \x7b\n" ++ shifted step ("\n".intercalate (c.memberTexts step imports))
            ++ "\x7d\n" := by
  refine ⟨fun p n => ⟨p.render_eq_putLines n, ?_⟩, ?_, Class.exists_header⟩
  · intro hstart
    refine ⟨Page.render_eq_shifted hstart n, ?_⟩
    rw [Node.text_eq_alone]
    exact Line.exists_alone_eq p.step (n.lines_ne_nil p.imports)
  · intro f
    refine ⟨Page.text_renderFile f, f.text_eq_intercalate, ?_⟩
    intro text htext
    rw [← File.map_alone_sections] at htext
    obtain ⟨lines, hlines, rfl⟩ := List.mem_map.mp htext
    exact Line.exists_alone_eq f.step (File.ne_nil_of_mem_sections hlines)

/-- A property with a getter, at the second level of a page with steps of two blanks. -/
theorem rendering_composes_getter :
    let page : Page := { text := "// begun\n", step := 2, depth := 1, imports := .empty }
    let node := Node.property
      { name := "size", type := .named "Int", getter := some [.ret (some (.name "count"))] }
    page.atLineStart = true ∧
      page.render node = page.adding (shifted 2 (node.text 2 page.imports)) ∧
      node.text 2 page.imports = "val size: Int\n  get() \x7b\n    return count\n  \x7d\n" ∧
      (page.render node).text =
        "// begun\n  val size: Int\n    get() \x7b\n      return count\n    \x7d\n" := by
  intro page node
  have hstart : page.atLineStart = true := rfl
  have hnode := (rendering_composes.1 page node).2 hstart
  have halone : node.text 2 page.imports =
      "val size: Int\n  get() \x7b\n    return count\n  \x7d\n" := by decide +kernel
  refine ⟨hstart, hnode.1, halone, ?_⟩
  decide +kernel

end CompanionSource.Source
