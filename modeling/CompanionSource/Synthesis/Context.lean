import CompanionSource.Settings
import CompanionSource.Snapshot.Basic
import CompanionSource.Source.Member

/-! # What a generator reads

    The context of a round, what a generator hands back, and how parameters are handed on and
    shown in generated code. -/

namespace CompanionSource.Synthesis

/-- What every generator of a round reads. -/
structure Context where
  /-- The declarations of the round. -/
  snapshot : Snapshot
  /-- The settings of the round. -/
  settings : Settings
  /-- The provenance of everything generated in the round. -/
  provenance : Provenance

/-- The context of a round that begins at `start`. -/
def Context.of (snapshot : Snapshot) (settings : Settings) (start : Moment) : Context :=
  { snapshot, settings, provenance := settings.provenance start }

/-- Something generated, and what the user should know about it. -/
structure Generated (α : Type) where
  /-- What was generated. -/
  item : α
  /-- Warnings, in order. -/
  warnings : List String := []

/-! ### Parameters in generated code -/

open Source (Argument Expr Piece)

/-- A parameter as the argument of a call.  One that takes many arguments hands on all of them. -/
def passed (name : String) (vararg : Bool) : Argument Expr :=
  { value := .name name, spread := vararg }

/-- A parameter as the text shows it.  One that takes many arguments is shown as a list. -/
def shown (name : String) (vararg : Bool) : Expr :=
  if vararg then (Expr.dot (.name name) "toList").apply [] else .name name

/-- The pieces of a text that lists fields with their values. -/
def listing (fields : List (String × Expr)) : List (Piece Expr) :=
  [Piece.literal ", "].intercalate
    (fields.map fun (name, value) => [.literal (name ++ "="), .value value])

/-- Type parameters as type arguments. -/
def typeArguments (vs : List TypeVariable) : List TypeExpr :=
  vs.map fun v => .named v.name

end CompanionSource.Synthesis
