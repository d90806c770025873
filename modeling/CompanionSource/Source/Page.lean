import CompanionSource.Source.Imports

/-! # Pages

    A page takes text piece by piece and indents it.  The indent is written when the first text
    of a line arrives, so a line without text stays empty.

    Nodes that fill whole lines are laid out as a list of `Line`s, each with its depth below the
    node, and put on a page together. -/

namespace CompanionSource.Source

/-- A line of source text. -/
structure Line where
  /-- How many levels the line is indented. -/
  depth : Nat := 0
  /-- Its text.  A line break in it begins another line of the same depth. -/
  text : String := ""
  deriving DecidableEq, Repr

namespace Line

/-- Lines one level deeper. -/
def indented (lines : List Line) : List Line :=
  lines.map fun l => { l with depth := l.depth + 1 }

/-- Groups of lines with an empty line between them. -/
def spaced (groups : List (List Line)) : List Line :=
  [({} : Line)].intercalate groups

/-- A block: a heading, lines in braces below it. -/
def block (heading : String) (body : List Line) : List Line :=
  { text := heading ++ " \x7b" } :: indented body ++ [{ text := "\x7d" }]

end Line

/-- A page of source text in the making. -/
structure Page where
  /-- The text so far. -/
  text : String := ""
  /-- The number of blanks per level. -/
  step : Nat := 4
  /-- The level at which lines begin. -/
  depth : Nat := 0
  /-- The names that types are shortened by. -/
  imports : Imports := {}
  /-- Nothing has been written since the last line break. -/
  atLineStart : Bool := true

namespace Page

/-- Text without line breaks, with the indent in front of it if it begins a line. -/
def put (p : Page) (fragment : String) : Page :=
  if fragment.isEmpty then p
  else if p.atLineStart then
    { p with
      text := p.text ++ String.ofList (List.replicate (p.step * p.depth) ' ') ++ fragment
      atLineStart := false }
  else { p with text := p.text ++ fragment }

/-- A line break. -/
def newline (p : Page) : Page :=
  { p with text := p.text.push '\n', atLineStart := true }

/-- Text with any number of line breaks in it. -/
def write (p : Page) (text : String) : Page :=
  match (text.toList.splitOn '\n').map String.ofList with
  | [] => p
  | first :: more => more.foldl (fun p piece => p.newline.put piece) (p.put first)

/-- Text and a line break. -/
def line (p : Page) (text : String) : Page :=
  (p.write text).newline

/-- Lines begin one level deeper from now on. -/
def indent (p : Page) : Page :=
  { p with depth := p.depth + 1 }

/-- Lines begin one level higher from now on.  There is no level above the first. -/
def dedent (p : Page) : Page :=
  { p with depth := p.depth - 1 }

/-- A laid out line, at its depth below the level of the page. -/
def putLine (p : Page) (l : Line) : Page :=
  { ({ p with depth := p.depth + l.depth }).line l.text with depth := p.depth }

/-- Laid out lines. -/
def putLines (p : Page) (lines : List Line) : Page :=
  lines.foldl putLine p

end Page

end CompanionSource.Source
