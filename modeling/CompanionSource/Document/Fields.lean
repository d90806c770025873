import CompanionSource.Document.Value

/-! # Fields of tables

    A record is read from a table strictly: the table has no other keys than the fields, and
    each field is one of

    * **required**: the key is there;
    * **optional**: the key may be missing, or its value be null;
    * **defaulted**: the key may be missing, and a default stands in for it.

    A value of the wrong shape is never passed over. -/

namespace CompanionSource.Document

variable {α : Type}

/-! ### Shapes -/

/-- The text, of a string. -/
def Value.string? : Value → Option String
  | .string s => some s
  | _ => none

/-- The truth value, of a truth value. -/
def Value.bool? : Value → Option Bool
  | .bool b => some b
  | _ => none

/-- The whole number, of a natural number. -/
def Value.natural? : Value → Option Nat
  | .integer i => if 0 ≤ i then some i.toNat else none
  | _ => none

/-- The values that the items of an array stand for. -/
def Value.list? (item : Value → Option α) : Value → Option (List α)
  | .array vs => vs.mapM item
  | _ => none

/-- The record that a table with these fields and no others stands for. -/
def Value.record? (fields : List String) (read : Table → Option α) : Value → Option α
  | .table t => if t.all fun e => fields.contains e.1 then read t else none
  | _ => none

/-! ### Fields -/

namespace Table

/-- A field that has to be there. -/
def required (t : Table) (key : String) (read : Value → Option α) : Option α :=
  (t.lookup key).bind read

/-- A field that may be missing or null. -/
def optional (t : Table) (key : String) (read : Value → Option α) : Option (Option α) :=
  match t.lookup key with
  | none | some .null => some none
  | some v => (read v).map some

/-- A field that may be missing, with its default. -/
def defaulted (t : Table) (key : String) (default : α) (read : Value → Option α) : Option α :=
  match t.lookup key with
  | none => some default
  | some v => read v

end Table

end CompanionSource.Document
