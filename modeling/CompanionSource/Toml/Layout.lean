import CompanionSource.Document.Value

/-! # TOML: how a document is put together

    The entries of a document are added to its tables one by one, and each table remembers how
    it came to be, because that decides what may still be added to it:

    * a table under a **header** of its own gets no second header and no dotted keys from above;
    * a table on the **path** to a header may still get its header once;
    * a table made by **dotted** keys may get more dotted keys, but no header.

    No key is ever given twice. -/

namespace CompanionSource.Toml

open Document (Value)

/-- How a table came to be. -/
inductive Origin where
  /-- By its own header, or as the root. -/
  | header
  /-- On the path to a header. -/
  | path
  /-- By dotted keys. -/
  | dotted
  deriving DecidableEq, Repr

/-- A table under construction over the entries `α`. -/
structure TableOf (α : Type) where
  /-- How it came to be. -/
  origin : Origin
  /-- Its entries so far. -/
  entries : List (String × α) := []

/-- What a key of a table stands for while the document is put together. -/
inductive Node where
  /-- A value that is complete. -/
  | value (v : Value)
  /-- A table. -/
  | table (t : TableOf Node)
  /-- An array of tables, one for each of its headers. -/
  | tables (ts : List (TableOf Node))

namespace TableOf

variable {α : Type}

/-- The entry under a key. -/
def get? (t : TableOf α) (key : String) : Option α := t.entries.lookup key

/-- The table with an entry replaced, or added at the end. -/
def set (t : TableOf α) (key : String) (a : α) : TableOf α :=
  if (t.get? key).isSome then
    { t with entries := t.entries.map fun (k, b) => if k == key then (k, a) else (k, b) }
  else { t with entries := t.entries ++ [(key, a)] }

end TableOf

/-- The table with `change` done at the end of a path.  Missing tables are made: by dotted keys
    if `dotted`, else as the path to a header.  Of an array of tables, the path goes on in the
    last one. -/
def descend (dotted : Bool) (change : TableOf Node → Option (TableOf Node)) :
    List String → TableOf Node → Option (TableOf Node)
  | [], t => change t
  | key :: keys, t =>
    match t.get? key with
    | none => do
      let u ← descend dotted change keys { origin := if dotted then .dotted else .path }
      some (t.set key (.table u))
    | some (.value _) => none
    | some (.table u) =>
      if dotted ∧ u.origin = .header then none
      else do
        let u ← descend dotted change keys u
        some (t.set key (.table u))
    | some (.tables us) =>
      match us.getLast? with
      | none => none
      | some u => do
        let u ← descend dotted change keys u
        some (t.set key (.tables (us.dropLast ++ [u])))

/-- The table with a value under a new key. -/
def addValue (key : String) (v : Value) (t : TableOf Node) : Option (TableOf Node) :=
  if (t.get? key).isSome then none else some (t.set key (.value v))

/-- The table with a value under a path of keys.  A path of several keys ends in a table made by
    dotted keys. -/
def assign (path : List String) (v : Value) (t : TableOf Node) : Option (TableOf Node) :=
  match path.getLast? with
  | none => none
  | some key =>
    match path.dropLast with
    | [] => addValue key v t
    | front =>
      descend true (fun u => if u.origin = .dotted then addValue key v u else none) front t

/-- The root with a header for the table at a path. -/
def openTable (path : List String) (root : TableOf Node) : Option (TableOf Node) :=
  match path.getLast? with
  | none => none
  | some key =>
    descend false
      (fun t =>
        match t.get? key with
        | none => some (t.set key (.table { origin := .header }))
        | some (.table u) =>
          if u.origin = .path then some (t.set key (.table { u with origin := .header })) else none
        | some _ => none)
      path.dropLast root

/-- The root with a header for another table of the array at a path. -/
def openArrayTable (path : List String) (root : TableOf Node) : Option (TableOf Node) :=
  match path.getLast? with
  | none => none
  | some key =>
    descend false
      (fun t =>
        match t.get? key with
        | none => some (t.set key (.tables [{ origin := .header }]))
        | some (.tables us) => some (t.set key (.tables (us ++ [{ origin := .header }])))
        | some _ => none)
      path.dropLast root

mutual

/-- The value that a node has become. -/
def Node.toValue : Node → Value
  | .value v => v
  | .table t => TableOf.toValue t
  | .tables ts => .array (TableOf.toValues ts)

/-- A finished table. -/
def TableOf.toValue : TableOf Node → Value
  | ⟨_, entries⟩ => .table (TableOf.toEntries entries)

/-- Finished tables. -/
def TableOf.toValues : List (TableOf Node) → List Value
  | [] => []
  | t :: ts => TableOf.toValue t :: TableOf.toValues ts

/-- Finished entries. -/
def TableOf.toEntries : List (String × Node) → List (String × Value)
  | [] => []
  | (k, n) :: es => (k, Node.toValue n) :: TableOf.toEntries es

end

end CompanionSource.Toml
