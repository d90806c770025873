import CompanionSource.Document.Notation

/-! # JSON documents

    The JSON notation of documents.

    * A **number** without fraction and exponent is whole if it lies within 64 bits, with or
      without a sign, and is not the negative zero.  Any other number is a floating point number.
    * Of a **key** that is given twice, the last value counts.
    * Arrays and objects may be nested 127 levels deep. -/

namespace CompanionSource.Json

open Document (Value Reader character? digitsValue hexNumber? sign)

/-- How deep arrays and objects may be nested. -/
def limit : Nat := 127

/-- The input after blanks. -/
def skipSpace (input : List Char) : List Char :=
  input.dropWhile fun c => c == ' ' || c == '\n' || c == '\r' || c == '\t'

/-! ### Strings -/

/-- The character that a letter behind a backslash stands for. -/
def shortEscape? (c : Char) : Option Char :=
  [('"', '"'), ('\\', '\\'), ('/', '/'), ('b', '\x08'), ('f', '\x0c'), ('n', '\n'), ('r', '\r'),
    ('t', '\t')].lookup c

/-- The code point that a pair of surrogates stands for. -/
def pairedPoint? (high low : Nat) : Option Nat :=
  if 0xD800 ≤ high ∧ high < 0xDC00 ∧ 0xDC00 ≤ low ∧ low < 0xE000 then
    some (0x10000 + (high - 0xD800) * 0x400 + (low - 0xDC00))
  else none

/-- The text of a string, from behind its opening quote. -/
def stringBody : Reader (List Char)
  | [] => none
  | '"' :: rest => some ([], rest)
  | '\\' :: 'u' :: a :: b :: c :: d :: '\\' :: 'u' :: e :: f :: g :: h :: rest => do
    let high ← hexNumber? [a, b, c, d]
    match character? high with
    | some x =>
      let (s, rest) ← stringBody ('\\' :: 'u' :: e :: f :: g :: h :: rest)
      some (x :: s, rest)
    | none =>
      let x ← (← pairedPoint? high (← hexNumber? [e, f, g, h])) |> character?
      let (s, rest) ← stringBody rest
      some (x :: s, rest)
  | '\\' :: 'u' :: a :: b :: c :: d :: rest => do
    let x ← character? (← hexNumber? [a, b, c, d])
    let (s, rest) ← stringBody rest
    some (x :: s, rest)
  | '\\' :: c :: rest => do
    let x ← shortEscape? c
    let (s, rest) ← stringBody rest
    some (x :: s, rest)
  | c :: rest =>
    if c = '\\' ∨ c.toNat < 0x20 then none
    else do
      let (s, rest) ← stringBody rest
      some (c :: s, rest)

/-- A string. -/
def string : Reader String
  | '"' :: rest => (stringBody rest).map fun (s, rest) => (String.ofList s, rest)
  | _ => none

/-! ### Numbers -/

/-- One or more digits. -/
def digitRun (input : List Char) : Option (List Char × List Char) :=
  match input.takeWhile Char.isDigit with
  | [] => none
  | ds => some (ds, input.dropWhile Char.isDigit)

/-- The digits of a whole number: a zero alone or a run that does not begin with one. -/
def wholeDigits : Reader (List Char)
  | '0' :: rest => some (['0'], rest)
  | input => digitRun input

/-- The digits of a fraction, none if there is no point. -/
def fraction : Reader (List Char)
  | '.' :: rest => digitRun rest
  | input => some ([], input)

/-- An exponent, if there is one. -/
def exponent (input : List Char) : Option (Option Int × List Char) :=
  match input with
  | [] => some (none, [])
  | e :: rest =>
    if e = 'e' ∨ e = 'E' then do
      let (negative, rest) := sign rest
      let (ds, rest) ← digitRun rest
      let n : Int := digitsValue 10 ds
      some (some (if negative then -n else n), rest)
    else some (none, input)

/-- The value of a whole number. -/
def wholeValue (negative : Bool) (n : Nat) : Value :=
  if negative then
    if 0 < n ∧ n ≤ Nat.pow 2 63 then .integer (-n) else .float (Binary64.ofDecimal true n 0)
  else if n < Nat.pow 2 64 then .integer n
  else .float (Binary64.ofDecimal false n 0)

/-- A number without its sign. -/
def unsigned (negative : Bool) (input : List Char) : Option (Value × List Char) := do
  let (whole, rest) ← wholeDigits input
  let (part, rest) ← fraction rest
  let (e, rest) ← exponent rest
  if part.isEmpty ∧ e.isNone then some (wholeValue negative (digitsValue 10 whole), rest)
  else
    let digits := digitsValue 10 (whole ++ part)
    some (.float (Binary64.ofDecimal negative digits (e.getD 0 - part.length)), rest)

/-- A number. -/
def number : Reader Value
  | '-' :: rest => unsigned true rest
  | input => unsigned false input

/-! ### Values -/

/-- A word or a number or a string. -/
def scalar (input : List Char) : Option (Value × List Char) :=
  match input with
  | 'n' :: 'u' :: 'l' :: 'l' :: rest => some (.null, rest)
  | 't' :: 'r' :: 'u' :: 'e' :: rest => some (.bool true, rest)
  | 'f' :: 'a' :: 'l' :: 's' :: 'e' :: rest => some (.bool false, rest)
  | '"' :: rest => (string ('"' :: rest)).map fun (s, rest) => (.string s, rest)
  | input => number input

/-- The values of an array from the first on.  `fuel` bounds their number. -/
def items (item : Reader Value) : (fuel : Nat) → Reader (List Value)
  | 0, _ => none
  | fuel + 1, input => do
    let (v, rest) ← item input
    match skipSpace rest with
    | ',' :: rest =>
      let (vs, rest) ← items item fuel rest
      some (v :: vs, rest)
    | ']' :: rest => some ([v], rest)
    | _ => none

/-- The entries with one in front, unless the key comes again later. -/
def putFirst (key : String) (v : Value) (entries : List (String × Value)) :
    List (String × Value) :=
  if (entries.lookup key).isSome then entries else (key, v) :: entries

/-- The entries of an object from the first on.  `fuel` bounds their number. -/
def entries (item : Reader Value) : (fuel : Nat) → Reader (List (String × Value))
  | 0, _ => none
  | fuel + 1, input => do
    let (key, rest) ← string (skipSpace input)
    match skipSpace rest with
    | ':' :: rest =>
      let (v, rest) ← item rest
      match skipSpace rest with
      | ',' :: rest =>
        let (es, rest) ← entries item fuel rest
        some (putFirst key v es, rest)
      | '\x7d' :: rest => some ([(key, v)], rest)
      | _ => none
    | _ => none

/-- A value with at most `depth` levels of arrays and objects, none of more than `fuel` parts. -/
def value (fuel : Nat) : (depth : Nat) → Reader Value
  | 0, input => scalar (skipSpace input)
  | depth + 1, input =>
    match skipSpace input with
    | '[' :: rest =>
      match skipSpace rest with
      | ']' :: rest => some (.array [], rest)
      | rest => (items (value fuel depth) fuel rest).map fun (vs, rest) => (.array vs, rest)
    | '\x7b' :: rest =>
      match skipSpace rest with
      | '\x7d' :: rest => some (.table [], rest)
      | rest => (entries (value fuel depth) fuel rest).map fun (es, rest) => (.table es, rest)
    | input => scalar input

/-- The value that a document writes. -/
def parse? (text : String) : Option Value :=
  let input := text.toList
  match value input.length limit input with
  | some (v, rest) => if (skipSpace rest).isEmpty then some v else none
  | none => none

end CompanionSource.Json
