import CompanionSource.Text.Pieces

/-! # Names

    Simple and dotted names: how they are written in source, and how a qualified name falls
    apart into a qualifier and a last segment.

    A name that cannot stand bare (a hard keyword, or not of identifier shape) is written
    between backticks.  In a dotted name every segment is written on its own. -/

namespace CompanionSource.Name

/-! ### Writing -/

/-- The keywords that are never identifiers. -/
def hardKeywords : List String :=
  ["as", "break", "class", "continue", "do", "else", "false", "for", "fun", "if", "in",
    "interface", "is", "null", "object", "package", "return", "super", "this", "throw", "true",
    "try", "typealias", "typeof", "val", "var", "when", "while"]

/-- The name is a hard keyword. -/
def isHardKeyword (name : String) : Bool :=
  hardKeywords.contains name

/-- The shape of an identifier: a letter or underscore, then letters, numerals and
    underscores. -/
def isPlain (name : String) : Bool :=
  match name.toList with
  | [] => false
  | c :: cs => Text.startsName c && cs.all Text.continuesName

/-- A single name as source text. -/
def written (name : String) : String :=
  if isHardKeyword name || !isPlain name then "`" ++ name ++ "`" else name

/-! ### Dotted names -/

/-- The parts between the dots.  There is always at least one. -/
def segments (name : String) : List String :=
  (name.toList.splitOn '.').map String.ofList

/-- A dotted name as source text. -/
def writtenDotted (name : String) : String :=
  ".".intercalate ((segments name).map written)

/-- The name has a dot in it. -/
def isDotted (name : String) : Bool :=
  name.toList.contains '.'

/-- The last segment. -/
def simple (name : String) : String :=
  (segments name).getLastD ""

/-- What stands before the last segment, empty when there is only one. -/
def qualifier (name : String) : String :=
  ".".intercalate (segments name).dropLast

/-- `member` as a member of `scope`, which may be empty. -/
def qualify (scope member : String) : String :=
  if scope.isEmpty then member else scope ++ "." ++ member

/-- What follows the scope and a dot, when the name goes on from the scope in this way. -/
def within? (scope name : String) : Option String :=
  match Text.afterChars scope.toList name.toList with
  | some ('.' :: rest) => some (String.ofList rest)
  | _ => none

/-- The name as seen from inside `scope`: without the scope if it lies in there, and whole
    otherwise. -/
def relativeTo (scope name : String) : String :=
  if scope.isEmpty then name else (within? scope name).getD name

end CompanionSource.Name
