import CompanionSource.Number.Binary64

/-! # Documents

    The values that snapshots and settings are written in: scalars, arrays and tables with
    string keys.  Readers of particular notations produce them. -/

namespace CompanionSource.Document

/-- A value of a document. -/
inductive Value where
  /-- An entry that is there but left blank. -/
  | null
  /-- A truth value. -/
  | bool (value : Bool)
  /-- A whole number. -/
  | integer (value : Int)
  /-- A floating point number. -/
  | float (value : Binary64)
  /-- A text. -/
  | string (value : String)
  /-- A date, a time of day or both. -/
  | calendar (text : String)
  /-- An array. -/
  | array (values : List Value)
  /-- A table, its keys in the order in which they were written. -/
  | table (entries : List (String × Value))

/-- The whole numbers of 64 bits. -/
def isInt64 (i : Int) : Bool := -(Nat.pow 2 63 : Int) ≤ i && i < Nat.pow 2 63

/-- The entries of a table. -/
abbrev Table : Type := List (String × Value)

end CompanionSource.Document
