import CompanionSource.Document.Notation
import CompanionSource.Moment.Basic
import CompanionSource.Text.Pieces

/-! # Reading moments

    A relaxed reading of RFC 3339.  Beyond the standard it takes numbers with fewer digits,
    years with a sign and any number of digits, blanks between the parts, a blank or a small
    `t` between date and time, `UTC` for the zone, a zone without its colon and the minus
    sign U+2212.  Fractions are cut after nine digits.  The second may be 60. -/

namespace CompanionSource.Moment

namespace Reader

open Document (digitsValue symbol)
open Text (skipBlanks)

/-- The digits at the front, no more than `most`, and what follows them. -/
def digits (most : Nat) (input : List Char) : List Char × List Char :=
  let ds := (input.take most).takeWhile Char.isDigit
  (ds, input.drop ds.length)

/-- A number of one to `most` digits. -/
def number (most : Nat) (input : List Char) : Option (Nat × List Char) :=
  match digits most input with
  | ([], _) => none
  | (ds, rest) => some (digitsValue 10 ds, rest)

/-- A year: up to four digits, or a sign and any number of them. -/
def year (input : List Char) : Option (Int × List Char) :=
  match skipBlanks input with
  | '-' :: rest => (number rest.length rest).map fun (n, rest) => (-(n : Int), rest)
  | '+' :: rest => (number rest.length rest).map fun (n, rest) => ((n : Int), rest)
  | rest => (number 4 rest).map fun (n, rest) => ((n : Int), rest)

/-- A part of a date or time: up to two digits after blanks. -/
def part (input : List Char) : Option (Nat × List Char) :=
  number 2 (skipBlanks input)

/-- A mark between two parts, after blanks. -/
def mark (c : Char) (input : List Char) : Option (List Char) :=
  symbol c (skipBlanks input)

/-- The fraction of a second in nanoseconds, if a point begins one. -/
def fraction (input : List Char) : Option (Nat × List Char) :=
  match input with
  | '.' :: rest =>
    match digits 9 rest with
    | ([], _) => none
    | (ds, rest) => some (digitsValue 10 ds * Nat.pow 10 (9 - ds.length), rest.dropWhile Char.isDigit)
  | _ => some (0, input)

/-- Exactly two digits. -/
def twoDigits : List Char → Option (Nat × List Char)
  | a :: b :: rest => if a.isDigit && b.isDigit then some (digitsValue 10 [a, b], rest) else none
  | _ => none

/-- Hours and minutes of a zone, in seconds. -/
def zoneSpan (input : List Char) : Option (Nat × List Char) := do
  let (hours, rest) ← twoDigits input
  let (minutes, rest) ← twoDigits (rest.dropWhile fun c => c == ':' || Text.isBlank c)
  if minutes < 60 then some (3600 * hours + 60 * minutes, rest) else none

/-- The zone: how many seconds it is ahead of universal time. -/
def zone : List Char → Option (Int × List Char)
  | 'Z' :: rest => some (0, rest)
  | 'z' :: rest => some (0, rest)
  | '+' :: rest => (zoneSpan rest).map fun (s, rest) => ((s : Int), rest)
  | '-' :: rest => (zoneSpan rest).map fun (s, rest) => (-(s : Int), rest)
  | '−' :: rest => (zoneSpan rest).map fun (s, rest) => (-(s : Int), rest)
  | u :: t :: c :: rest =>
    if u.toLower = 'u' ∧ t.toLower = 't' ∧ c.toLower = 'c' then some (0, rest) else none
  | _ => none

/-- The year, month and day at the front. -/
def date (input : List Char) : Option ((Int × Nat × Nat) × List Char) := do
  let (y, rest) ← year input
  let (m, rest) ← part (← mark '-' rest)
  let (d, rest) ← part (← mark '-' rest)
  some ((y, m, d), rest)

/-- The hour, minute, second and nanosecond at the front. -/
def clock (input : List Char) : Option ((Nat × Nat × Nat × Nat) × List Char) := do
  let (h, rest) ← part input
  let (m, rest) ← part (← mark ':' rest)
  let (s, rest) ← part (← mark ':' rest)
  let (nano, rest) ← fraction rest
  some ((h, m, s, nano), rest)

end Reader

/-- The moment at a date and time of day in a zone `ahead` seconds ahead of universal time, if
    there is one. -/
def ofParts? (date : Int × Nat × Nat) (clock : Nat × Nat × Nat × Nat) (ahead : Int) :
    Option Moment :=
  let (year, month, dayOfMonth) := date
  let (hour, minute, second, nano) := clock
  if !Calendar.isDate year month dayOfMonth || year < firstYear || lastYear < year then none
  else if 23 < hour || 59 < minute || 60 < second || 86400 ≤ ahead.natAbs then none
  else
    let leap := if second = 60 then 1 else 0
    let local_ : Int := 3600 * hour + 60 * minute + (second - leap : Nat)
    let passed := Calendar.dayNumber year month dayOfMonth * 86400 + local_ - ahead
    let day := passed / 86400
    if isReached day then some ⟨day, (passed % 86400).toNat, nano + leap * nanoUnit⟩ else none

/-- The moment that the text writes, if it writes one. -/
def parse? (text : String) : Option Moment := do
  let (date, rest) ← Reader.date text.toList
  let rest ← match rest with
    | c :: rest => if c = 'T' ∨ c = 't' ∨ c = ' ' then some rest else none
    | [] => none
  let (clock, rest) ← Reader.clock rest
  let (ahead, rest) ← Reader.zone (Text.skipBlanks rest)
  if (Text.skipBlanks rest).isEmpty then ofParts? date clock ahead else none

end CompanionSource.Moment
