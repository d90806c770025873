import CompanionSource.Text.Letter

/-! # String literals

    The text between the quotes of a literal.  Quotes and backslashes are escaped, control
    characters are written by an escape, and so is the dollar sign, which would otherwise begin
    an interpolation. -/

namespace CompanionSource.Source

/-- The hexadecimal digit of `d < 16`, in lower case. -/
def hexDigit (d : Nat) : Char :=
  if d < 10 then Char.ofNat (48 + d) else Char.ofNat (87 + d)

/-- The last `width` hexadecimal digits of `n`, the most significant first. -/
def hexDigits : (width n : Nat) → List Char
  | 0, _ => []
  | width + 1, n => hexDigits width (n / 16) ++ [hexDigit (n % 16)]

/-- The control characters that have an escape of their own, and its letter. -/
def shortEscapes : List (Char × Char) :=
  [('\n', 'n'), ('\r', 'r'), ('\t', 't'), ('\x08', 'b')]

/-- One character of a literal. -/
def escapedChar (c : Char) : List Char :=
  if c = '\\' ∨ c = '"' ∨ c = '$' then ['\\', c]
  else match shortEscapes.lookup c with
    | some letter => ['\\', letter]
    | none => if Text.isControl c then '\\' :: 'u' :: hexDigits 4 c.toNat else [c]

/-- The characters of a text as they stand between quotes. -/
def escapedChars (cs : List Char) : List Char :=
  cs.flatMap escapedChar

/-- A text as it stands between quotes. -/
def escaped (text : String) : String :=
  String.ofList (escapedChars text.toList)

/-- A text as a literal, quotes included. -/
def quoted (text : String) : String :=
  "\"" ++ escaped text ++ "\""

end CompanionSource.Source
