import CompanionSource.Document.Value

/-! # Notations of documents

    What the notations share: readers, signs, digits, and escapes by code point.  A reader takes
    something from the front of the input and answers with what is left, or with `none` if it is
    not there. -/

namespace CompanionSource.Document

/-- A reader of `α`. -/
abbrev Reader (α : Type) : Type := List Char → Option (α × List Char)

/-- The input after one character. -/
def symbol (c : Char) : List Char → Option (List Char)
  | [] => none
  | d :: rest => if d = c then some rest else none

/-- A sign, if there is one: true for minus. -/
def sign : List Char → Bool × List Char
  | '-' :: rest => (true, rest)
  | '+' :: rest => (false, rest)
  | input => (false, input)

/-- The value of a hexadecimal digit. -/
def hexValue? (c : Char) : Option Nat :=
  if '0' ≤ c ∧ c ≤ '9' then some (c.toNat - '0'.toNat)
  else if 'a' ≤ c ∧ c ≤ 'f' then some (c.toNat - 'a'.toNat + 10)
  else if 'A' ≤ c ∧ c ≤ 'F' then some (c.toNat - 'A'.toNat + 10)
  else none

/-- The number that hexadecimal digits write. -/
def hexNumber? (digits : List Char) : Option Nat :=
  digits.foldlM (fun n c => (hexValue? c).map (16 * n + ·)) 0

/-- The character with a code point. -/
def character? (n : Nat) : Option Char :=
  if n.isValidChar then some (Char.ofNat n) else none

/-- The character whose code point the hexadecimal digits write. -/
def codePoint? (digits : List Char) : Option Char := (hexNumber? digits).bind character?

/-- The number that digits of a base write. -/
def digitsValue (base : Nat) (ds : List Char) : Nat :=
  ds.foldl (fun n d => base * n + (hexValue? d).getD 0) 0

end CompanionSource.Document
