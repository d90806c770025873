/-! # The calendar

    The Gregorian calendar run backwards and forwards without end.  Days are numbered from
    1 January of the year 1, which is day 0, and years before it count 0, -1 and so on. -/

namespace CompanionSource.Calendar

/-- The year has a 29 February. -/
def isLeap (year : Int) : Bool :=
  year % 4 = 0 && (year % 100 ≠ 0 || year % 400 = 0)

/-- The number of days in a month, January being 1. -/
def daysInMonth (year : Int) (month : Nat) : Nat :=
  if month = 2 then (if isLeap year then 29 else 28)
  else if month = 4 ∨ month = 6 ∨ month = 9 ∨ month = 11 then 30
  else 31

/-- The number of days before a month, in its year. -/
def daysBeforeMonth (year : Int) (month : Nat) : Nat :=
  (List.range (month - 1)).foldl (fun days m => days + daysInMonth year (m + 1)) 0

/-- The day number of 1 January. -/
def daysBeforeYear (year : Int) : Int :=
  let past := year - 1
  365 * past + past / 4 - past / 100 + past / 400

/-- The year, the month and the day of the month exist. -/
def isDate (year : Int) (month day : Nat) : Bool :=
  1 ≤ month && month ≤ 12 && 1 ≤ day && day ≤ daysInMonth year month

/-- The number of a day. -/
def dayNumber (year : Int) (month day : Nat) : Int :=
  daysBeforeYear year + daysBeforeMonth year month + day - 1

/-- The year that a day lies in. -/
def yearOf (number : Int) : Int :=
  let guess := number * 400 / 146097 + 1
  if number < daysBeforeYear guess then guess - 1
  else if daysBeforeYear (guess + 1) ≤ number then guess + 1
  else guess

/-- The month that the day with `past` days before it in its year lies in. -/
def monthOf (year : Int) (past : Nat) : Nat :=
  ((List.range 12).filter fun m => daysBeforeMonth year (m + 1) ≤ past).length

/-- Year, month and day of the month of a day. -/
def dateOf (number : Int) : Int × Nat × Nat :=
  let year := yearOf number
  let past := (number - daysBeforeYear year).toNat
  let month := monthOf year past
  (year, month, past - daysBeforeMonth year month + 1)

end CompanionSource.Calendar
