import CompanionSource.Moment.Calendar
import CompanionSource.Toml.Lexeme

/-! # TOML: scalars

    Numbers, truth values, dates and times.

    * **Integers** are decimal with a sign, or hexadecimal, octal or binary without one, and lie
      within 64 bits.  Underscores stand between digits only, and no zero leads.
    * **Floats** have a fraction, an exponent or both, or are `inf` or `nan`.  A number beyond the
      greatest float is refused; one below the least is negative infinity. -/

namespace CompanionSource.Toml

open Document (Value Reader digitsValue hexValue? isInt64 sign symbol)

/-! ### Digits -/

/-- Digits for which `isDigit` holds, underscores between them.  The underscores are left out of
    the answer. -/
def digitRun (isDigit : Char → Bool) : Reader (List Char)
  | [] => none
  | c :: rest => if isDigit c then some (go c rest) else none
where
  /-- The run that begins with the digit `c`. -/
  go (c : Char) : List Char → List Char × List Char
    | '_' :: d :: rest =>
      if isDigit d then
        let (ds, rest) := go d rest
        (c :: ds, rest)
      else ([c], '_' :: d :: rest)
    | d :: rest =>
      if isDigit d then
        let (ds, rest) := go d rest
        (c :: ds, rest)
      else ([c], d :: rest)
    | [] => ([c], [])

/-- The digits of a decimal number: a zero alone or a run that does not begin with one. -/
def decimalDigits : Reader (List Char)
  | '0' :: rest => some (['0'], rest)
  | input => digitRun Char.isDigit input

/-! ### Numbers -/

/-- An integer within 64 bits. -/
def bounded (i : Int) (rest : List Char) : Option (Value × List Char) :=
  if isInt64 i then some (.integer i, rest) else none

/-- An integer. -/
def integer : Reader Value
  | '0' :: 'x' :: rest => do
    let (ds, rest) ← digitRun (fun c => (hexValue? c).isSome) rest
    bounded (digitsValue 16 ds) rest
  | '0' :: 'o' :: rest => do
    let (ds, rest) ← digitRun (fun c => '0' ≤ c && c ≤ '7') rest
    bounded (digitsValue 8 ds) rest
  | '0' :: 'b' :: rest => do
    let (ds, rest) ← digitRun (fun c => c == '0' || c == '1') rest
    bounded (digitsValue 2 ds) rest
  | input => do
    let (negative, rest) := sign input
    let (ds, rest) ← decimalDigits rest
    let n : Int := digitsValue 10 ds
    bounded (if negative then -n else n) rest

/-- An exponent, if there is one. -/
def exponent? : Reader Int
  | e :: rest =>
    if e = 'e' ∨ e = 'E' then do
      let (negative, rest) := sign rest
      let (ds, rest) ← digitRun Char.isDigit rest
      let n : Int := digitsValue 10 ds
      some (if negative then -n else n, rest)
    else none
  | [] => none

/-- A number with a fraction, an exponent or both. -/
def finiteFloat (input : List Char) : Option (Value × List Char) := do
  let (negative, rest) := sign input
  let (whole, rest) ← decimalDigits rest
  let (fraction, e, rest) ← match rest with
    | '.' :: rest => do
      let (fraction, rest) ← digitRun Char.isDigit rest
      match exponent? rest with
      | some (e, rest) => some (fraction, e, rest)
      | none => some (fraction, 0, rest)
    | rest => do
      let (e, rest) ← exponent? rest
      some ([], e, rest)
  let x := Binary64.ofDecimal negative (digitsValue 10 (whole ++ fraction)) (e - fraction.length)
  if x = Binary64.infinity false then none else some (.float x, rest)

/-- Infinity or a number that is not a number. -/
def specialFloat (input : List Char) : Option (Value × List Char) :=
  let (negative, rest) := sign input
  match rest with
  | 'i' :: 'n' :: 'f' :: rest => some (.float (Binary64.infinity negative), rest)
  | 'n' :: 'a' :: 'n' :: rest => some (.float (Binary64.nan negative), rest)
  | _ => none

/-! ### Dates and times -/

/-- A number of exactly `width` digits, from `low` to `high`. -/
def fixedDigits (width low high : Nat) (input : List Char) : Option (Nat × List Char) :=
  let ds := input.take width
  let n := digitsValue 10 ds
  if ds.length = width ∧ ds.all Char.isDigit ∧ low ≤ n ∧ n ≤ high then some (n, input.drop width)
  else none

/-- The input after a date. -/
def date? (input : List Char) : Option (List Char) := do
  let (year, rest) ← fixedDigits 4 0 9999 input
  let (month, rest) ← fixedDigits 2 1 12 (← symbol '-' rest)
  let (_, rest) ← fixedDigits 2 1 (Calendar.daysInMonth year month) (← symbol '-' rest)
  some rest

/-- The input after a time of day. -/
def time? (input : List Char) : Option (List Char) := do
  let (_, rest) ← fixedDigits 2 0 23 input
  let (_, rest) ← fixedDigits 2 0 59 (← symbol ':' rest)
  let (_, rest) ← fixedDigits 2 0 60 (← symbol ':' rest)
  match rest with
  | '.' :: d :: more => if d.isDigit then some (more.dropWhile Char.isDigit) else some rest
  | _ => some rest

/-- The input after the offset of a zone, if there is one. -/
def skipOffset (input : List Char) : List Char :=
  match input with
  | 'Z' :: rest => rest
  | 'z' :: rest => rest
  | s :: rest =>
    if s = '+' ∨ s = '-' then
      (do
        let (_, rest) ← fixedDigits 2 0 23 rest
        let (_, rest) ← fixedDigits 2 0 59 (← symbol ':' rest)
        some rest).getD input
    else input
  | [] => []

/-- A date, a time of day, or both with the offset of a zone. -/
def calendar (input : List Char) : Option (Value × List Char) := do
  let rest ← match date? input with
    | none => time? input
    | some rest =>
      match rest with
      | t :: more =>
        if t = 'T' ∨ t = 't' ∨ t = ' ' then
          match time? more with
          | some rest => some (skipOffset rest)
          | none => some rest
        else some rest
      | [] => some []
  some (.calendar (String.ofList (input.take (input.length - rest.length))), rest)

/-! ### Scalars -/

/-- A truth value. -/
def truth : Reader Value
  | 't' :: 'r' :: 'u' :: 'e' :: rest => some (.bool true, rest)
  | 'f' :: 'a' :: 'l' :: 's' :: 'e' :: rest => some (.bool false, rest)
  | _ => none

/-- Any scalar. -/
def scalar (input : List Char) : Option (Value × List Char) :=
  (string input).map (fun (s, rest) => (.string s, rest))
    <|> truth input <|> calendar input <|> finiteFloat input <|> specialFloat input
    <|> integer input

end CompanionSource.Toml
