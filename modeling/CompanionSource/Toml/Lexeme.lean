import CompanionSource.Document.Notation

/-! # TOML: lexical elements

    Filler, keys and the four kinds of strings.  Each reader takes its element from the front of
    the input and answers with what is left, or with `none` if the element is not there.

    * **Line breaks** are a line feed, with or without a carriage return before it; a carriage
      return alone is an error everywhere.
    * **Control characters** other than the tab stand nowhere. -/

namespace CompanionSource.Toml

open Document (Reader codePoint?)

/-! ### Filler -/

/-- A blank within a line. -/
def isSpace (c : Char) : Bool := c == ' ' || c == '\t'

/-- A character that may stand in a comment or a string: no control character but the tab. -/
def isTextChar (c : Char) : Bool :=
  c == '\t' || (0x20 ≤ c.toNat && c.toNat != 0x7F)

/-- The input after blanks. -/
def skipSpace (input : List Char) : List Char := input.dropWhile isSpace

/-- The input after a line break. -/
def lineBreak? : List Char → Option (List Char)
  | '\n' :: rest => some rest
  | '\r' :: '\n' :: rest => some rest
  | _ => none

/-- The input after a comment, if there is one. -/
def skipComment : List Char → List Char
  | '#' :: rest => rest.dropWhile isTextChar
  | input => input

/-- The input after the end of a line: blanks, a comment, and a line break or the end. -/
def lineEnd? (input : List Char) : Option (List Char) :=
  match skipComment (skipSpace input) with
  | [] => some []
  | rest => lineBreak? rest

/-- The input after blanks, line breaks and comments.  Inside a comment everything up to the line
    break is skipped. -/
def skipFiller (comment : Bool) : List Char → List Char
  | [] => []
  | '\n' :: rest => skipFiller false rest
  | '\r' :: '\n' :: rest => skipFiller false rest
  | c :: rest =>
    if comment then
      if isTextChar c then skipFiller true rest else c :: rest
    else if isSpace c then skipFiller false rest
    else if c = '#' then skipFiller true rest
    else c :: rest

/-! ### Escapes -/

/-- The character that a letter behind a backslash stands for. -/
def shortEscape? (c : Char) : Option Char :=
  [('b', '\x08'), ('f', '\x0c'), ('n', '\n'), ('r', '\r'), ('t', '\t'), ('\\', '\\'),
    ('"', '"')].lookup c

/-! ### Strings -/

/-- The text of a basic string, from behind its opening quote. -/
def basicBody : List Char → Option (List Char × List Char)
  | [] => none
  | '"' :: rest => some ([], rest)
  | '\\' :: 'u' :: a :: b :: c :: d :: rest => do
    let e ← codePoint? [a, b, c, d]
    let (s, rest) ← basicBody rest
    some (e :: s, rest)
  | '\\' :: 'U' :: a :: b :: c :: d :: e :: f :: g :: h :: rest => do
    let e ← codePoint? [a, b, c, d, e, f, g, h]
    let (s, rest) ← basicBody rest
    some (e :: s, rest)
  | '\\' :: c :: rest => do
    let e ← shortEscape? c
    let (s, rest) ← basicBody rest
    some (e :: s, rest)
  | c :: rest =>
    if c ≠ '\\' ∧ isTextChar c then do
      let (s, rest) ← basicBody rest
      some (c :: s, rest)
    else none

/-- The text of a literal string, from behind its opening quote. -/
def literalBody : List Char → Option (List Char × List Char)
  | [] => none
  | '\'' :: rest => some ([], rest)
  | c :: rest =>
    if isTextChar c then do
      let (s, rest) ← literalBody rest
      some (c :: s, rest)
    else none

/-- A backslash in front of this input ends its line: only blanks come before a line break. -/
def joinsLines (input : List Char) : Bool := (lineBreak? (skipSpace input)).isSome

/-- The text of a basic string of several lines, from behind its opening.  Up to two quotes may
    stand before the closing three.  After a backslash at the end of a line all blanks and line
    breaks are left out (`joining`). -/
def basicLines (joining : Bool) : List Char → Option (List Char × List Char)
  | [] => none
  | '"' :: '"' :: '"' :: '"' :: '"' :: rest => some (['"', '"'], rest)
  | '"' :: '"' :: '"' :: '"' :: rest => some (['"'], rest)
  | '"' :: '"' :: '"' :: rest => some ([], rest)
  | '\n' :: rest =>
    if joining then basicLines true rest
    else (basicLines false rest).map fun (s, rest) => ('\n' :: s, rest)
  | '\r' :: '\n' :: rest =>
    if joining then basicLines true rest
    else (basicLines false rest).map fun (s, rest) => ('\n' :: s, rest)
  | '\\' :: 'u' :: a :: b :: c :: d :: rest => do
    let e ← codePoint? [a, b, c, d]
    let (s, rest) ← basicLines false rest
    some (e :: s, rest)
  | '\\' :: 'U' :: a :: b :: c :: d :: e :: f :: g :: h :: rest => do
    let e ← codePoint? [a, b, c, d, e, f, g, h]
    let (s, rest) ← basicLines false rest
    some (e :: s, rest)
  | '\\' :: c :: rest =>
    if joinsLines (c :: rest) then basicLines true (c :: rest)
    else do
      let e ← shortEscape? c
      let (s, rest) ← basicLines false rest
      some (e :: s, rest)
  | c :: rest =>
    if joining ∧ isSpace c then basicLines true rest
    else if c ≠ '\\' ∧ isTextChar c then
      (basicLines false rest).map fun (s, rest) => (c :: s, rest)
    else none

/-- The text of a literal string of several lines, from behind its opening. -/
def literalLines : List Char → Option (List Char × List Char)
  | [] => none
  | '\'' :: '\'' :: '\'' :: '\'' :: '\'' :: rest => some (['\'', '\''], rest)
  | '\'' :: '\'' :: '\'' :: '\'' :: rest => some (['\''], rest)
  | '\'' :: '\'' :: '\'' :: rest => some ([], rest)
  | '\r' :: '\n' :: rest => (literalLines rest).map fun (s, rest) => ('\n' :: s, rest)
  | c :: rest =>
    if c = '\n' ∨ isTextChar c then
      (literalLines rest).map fun (s, rest) => (c :: s, rest)
    else none

/-- The input after the line break that may follow the opening of a string of several lines. -/
def skipFirstBreak (input : List Char) : List Char := (lineBreak? input).getD input

/-- A string of one line, of either kind. -/
def shortString : Reader String
  | '"' :: rest => (basicBody rest).map fun (s, rest) => (String.ofList s, rest)
  | '\'' :: rest => (literalBody rest).map fun (s, rest) => (String.ofList s, rest)
  | _ => none

/-- A string of any kind. -/
def string : Reader String
  | '"' :: '"' :: '"' :: rest =>
    (basicLines false (skipFirstBreak rest)).map fun (s, rest) => (String.ofList s, rest)
  | '\'' :: '\'' :: '\'' :: rest =>
    (literalLines (skipFirstBreak rest)).map fun (s, rest) => (String.ofList s, rest)
  | input => shortString input

/-! ### Keys -/

/-- A character of a key that stands without quotes. -/
def isBareKeyChar (c : Char) : Bool := c.isAlphanum || c == '-' || c == '_'

/-- One key, bare or quoted. -/
def simpleKey : Reader String
  | [] => none
  | c :: rest =>
    if c = '"' ∨ c = '\'' then shortString (c :: rest)
    else if isBareKeyChar c then
      some (String.ofList (c :: rest.takeWhile isBareKeyChar), rest.dropWhile isBareKeyChar)
    else none

/-- A path of at least one and at most `most` keys, dots between them and blanks around each. -/
def keyPath : (most : Nat) → Reader (List String)
  | 0, _ => none
  | most + 1, input => do
    let (key, rest) ← simpleKey (skipSpace input)
    match skipSpace rest with
    | '.' :: rest =>
      let (keys, rest) ← keyPath most rest
      some (key :: keys, rest)
    | rest => some ([key], rest)

end CompanionSource.Toml
