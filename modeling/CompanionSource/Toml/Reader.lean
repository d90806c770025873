import CompanionSource.Toml.Layout
import CompanionSource.Toml.Scalar

/-! # TOML: documents

    Values and whole documents.  Arrays and inline tables may be nested 79 levels deep, and a
    path of keys has no more than 79 keys. -/

namespace CompanionSource.Toml

open Document (Value Reader Table symbol)

/-- How deep arrays and inline tables may be nested, and how many keys a path may have. -/
def limit : Nat := 79

/-! ### Values -/

/-- The values of an array, from behind its opening bracket or a comma.  `fuel` bounds their
    number. -/
def arrayBody (item : Reader Value) : (fuel : Nat) → Reader (List Value)
  | 0, _ => none
  | fuel + 1, input =>
    match skipFiller false input with
    | ']' :: rest => some ([], rest)
    | input => do
      let (v, rest) ← item input
      match skipFiller false rest with
      | ',' :: rest =>
        let (vs, rest) ← arrayBody item fuel rest
        some (v :: vs, rest)
      | ']' :: rest => some ([v], rest)
      | _ => none

/-- The entries of an inline table from the first key on, added to `t`.  `fuel` bounds their
    number. -/
def inlineBody (item : Reader Value) : (fuel : Nat) → TableOf Node → Reader (TableOf Node)
  | 0, _, _ => none
  | fuel + 1, t, input => do
    let (path, rest) ← keyPath limit input
    let rest ← symbol '=' rest
    let (v, rest) ← item (skipSpace rest)
    let t ← assign path v t
    match skipSpace rest with
    | ',' :: rest => inlineBody item fuel t rest
    | '\x7d' :: rest => some (t, rest)
    | _ => none

/-- A value with at most `depth` levels of arrays and inline tables. -/
def value : (depth : Nat) → Reader Value
  | 0, input => scalar input
  | depth + 1, input =>
    match input with
    | '[' :: rest => do
      let (vs, rest) ← arrayBody (value depth) (rest.length + 1) rest
      some (.array vs, rest)
    | '\x7b' :: rest =>
      match skipSpace rest with
      | '\x7d' :: rest => some (.table [], rest)
      | rest => do
        let (t, rest) ← inlineBody (value depth) (rest.length + 1) { origin := .header } rest
        some (t.toValue, rest)
    | input => scalar input

/-! ### Documents -/

/-- A document while it is read. -/
structure State where
  /-- The document so far. -/
  root : TableOf Node := { origin := .header }
  /-- The path of the last header, to whose table key and value lines belong. -/
  current : List String := []

/-- The document after a header.  The input begins behind the opening brackets. -/
def header (array : Bool) (state : State) (input : List Char) : Option (State × List Char) := do
  let (path, rest) ← keyPath limit input
  let rest ← symbol ']' rest
  let rest ← if array then symbol ']' rest else some rest
  let rest ← lineEnd? rest
  let root ← if array then openArrayTable path state.root else openTable path state.root
  some ({ root, current := path }, rest)

/-- The document after a line with a key and a value. -/
def keyValue (state : State) (input : List Char) : Option (State × List Char) := do
  let (path, rest) ← keyPath limit input
  let rest ← symbol '=' rest
  let (v, rest) ← value limit (skipSpace rest)
  let rest ← lineEnd? rest
  let root ← descend false (assign path v) state.current state.root
  some ({ state with root }, rest)

/-- The document after the line that the input begins with. -/
def line (state : State) (input : List Char) : Option (State × List Char) :=
  match input with
  | '[' :: '[' :: rest => header true state rest
  | '[' :: rest => header false state rest
  | '#' :: _ => (lineEnd? input).map (state, ·)
  | c :: _ =>
    if c = '\n' ∨ c = '\r' then (lineBreak? input).map (state, ·) else keyValue state input
  | [] => none

/-- The document after all lines.  `fuel` bounds their number. -/
def lines : (fuel : Nat) → State → List Char → Option State
  | 0, _, _ => none
  | fuel + 1, state, input =>
    match skipSpace input with
    | [] => some state
    | input =>
      match line state input with
      | none => none
      | some (state, rest) => lines fuel state rest

/-- The table that a document writes.  A byte order mark may stand in front of it. -/
def parse? (text : String) : Option Table :=
  let input := match text.toList with
    | '\uFEFF' :: rest => rest
    | input => input
  (lines (input.length + 1) {} input).map fun state => TableOf.toEntries state.root.entries

end CompanionSource.Toml
