import CompanionSource.Moment.Calendar

/-! # Moments

    A moment of universal time, and its text in the shape of RFC 3339. -/

namespace CompanionSource

/-- A moment of universal time. -/
structure Moment where
  /-- The number of the day, as in `Calendar`. -/
  day : Int
  /-- The second of the day. -/
  second : Nat
  /-- The nanosecond of the second.  A leap second continues the second before it, from
      `10 ^ 9` on. -/
  nano : Nat
  deriving DecidableEq, Repr

namespace Moment

/-- The number of nanoseconds in a second. -/
def nanoUnit : Nat := Nat.pow 10 9

/-- The first year that moments reach. -/
def firstYear : Int := -262143

/-- The last year that moments reach. -/
def lastYear : Int := 262142

/-- The day lies in the years that moments reach. -/
def isReached (day : Int) : Bool :=
  Calendar.daysBeforeYear firstYear ≤ day && day < Calendar.daysBeforeYear (lastYear + 1)

/-- The digits of `n`, with zeros in front up to `width`. -/
def padded (width n : Nat) : String :=
  let ds := Nat.toDigits 10 n
  String.ofList (List.replicate (width - ds.length) '0' ++ ds)

/-- A year has four digits; outside 0 to 9999 it has a sign as well. -/
def yearText (year : Int) : String :=
  if 0 ≤ year ∧ year ≤ 9999 then padded 4 year.toNat
  else (if year < 0 then "-" else "+") ++ padded 4 year.natAbs

/-- Date and time of day, up to the second. -/
def clockText (t : Moment) : String :=
  let (year, month, day) := Calendar.dateOf t.day
  let second := t.second % 60 + t.nano / nanoUnit
  yearText year ++ "-" ++ padded 2 month ++ "-" ++ padded 2 day ++ "T"
    ++ padded 2 (t.second / 3600) ++ ":" ++ padded 2 (t.second / 60 % 60) ++ ":"
    ++ padded 2 second

/-- The moment in whole seconds, as in `2024-05-01T12:00:00Z`. -/
def text (t : Moment) : String := clockText t ++ "Z"

/-- The moment with nine digits of the second, as in `2024-05-01T12:00:00.500000000Z`. -/
def preciseText (t : Moment) : String :=
  clockText t ++ "." ++ padded 9 (t.nano % nanoUnit) ++ "Z"

/-- The moment a number of nanoseconds after midnight, 1 January 1970. -/
def ofUnixNanoseconds (n : Int) : Moment :=
  let second := n / nanoUnit
  { day := Calendar.dayNumber 1970 1 1 + second / 86400
    second := (second % 86400).toNat
    nano := (n % nanoUnit).toNat }

/-- Midnight, 1 January 2024. -/
def newYear2024 : Moment := ⟨Calendar.dayNumber 2024 1 1, 0, 0⟩

end Moment

end CompanionSource
