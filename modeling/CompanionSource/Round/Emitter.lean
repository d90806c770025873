import CompanionSource.SourceUnit

/-! # Emitters

    An emitter takes units, one after another, and may refuse one.  What it does with them is its
    own affair: it is a step on a state of any type. -/

namespace CompanionSource

/-- Why a unit was not emitted. -/
inductive EmitError where
  /-- A unit with this key came before. -/
  | duplicate (key : UnitKey)
  /-- Nothing can be written at this path. -/
  | unwritable (path : String)
  deriving DecidableEq, Repr

/-- The message for the user. -/
def EmitError.message : EmitError → String
  | .duplicate key =>
    "unit `" ++ key.file ++ "` in namespace `" ++ key.scope ++ "` was already emitted this round"
  | .unwritable path => "failed to write `" ++ path ++ "`"

/-- An emitter with states `σ`. -/
structure Emitter (σ : Type) where
  /-- What happens to a unit: whether it was taken, and the state afterwards. -/
  submit : SourceUnit → σ → Except EmitError Unit × σ

/-! ### Units in memory -/

/-- Units kept in memory, in the order of their submission. -/
structure Memory where
  /-- The units. -/
  units : List SourceUnit := []

namespace Memory

/-- The unit with a key. -/
def unit? (m : Memory) (key : UnitKey) : Option SourceUnit := m.units.find? fun u => u.key == key

/-- The emitter that keeps units in memory.  It takes each key once. -/
def emitter : Emitter Memory where
  submit u m :=
    if (m.unit? u.key).isSome then (.error (.duplicate u.key), m)
    else (.ok (), { units := m.units ++ [u] })

/-- The entries with a text under a label.  It takes the place of an earlier one. -/
def put (entries : List (String × String)) (label text : String) : List (String × String) :=
  entries.filter (fun e => e.1 != label) ++ [(label, text)]

/-- The texts of the units by their labels. -/
def sources (step : Nat) (m : Memory) : List (String × String) :=
  m.units.foldl (fun entries u => put entries u.key.label (u.text step)) []

end Memory

end CompanionSource
