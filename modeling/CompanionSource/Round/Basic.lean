import CompanionSource.Round.Diagnostic
import CompanionSource.Round.Emitter
import CompanionSource.Round.Plan

/-! # Rounds

    A round carries out a plan.  It keeps count of what it reports, and hands no key to the
    emitter twice.  A unit that is not taken ends the round, and nothing that was done before is
    undone. -/

namespace CompanionSource

/-- A round with an emitter of states `σ`. -/
structure Round (σ : Type) where
  /-- The keys that the emitter was handed. -/
  handed : List UnitKey := []
  /-- The units that it took, in order. -/
  units : List UnitKey := []
  /-- The number of errors reported. -/
  errors : Nat := 0
  /-- The number of warnings reported. -/
  warnings : Nat := 0
  /-- What was reported, in order. -/
  diagnostics : List Diagnostic := []
  /-- The state of the emitter. -/
  emitter : σ

/-- The outcome of a round. -/
structure Report where
  /-- The units that were emitted, in order. -/
  units : List UnitKey
  /-- The number of errors. -/
  errors : Nat
  /-- The number of warnings. -/
  warnings : Nat
  /-- The time in the provenance of all units. -/
  moment : Moment

/-- Some error was reported. -/
def Report.hasErrors (r : Report) : Bool := 0 < r.errors

namespace Round

variable {σ : Type}

/-! ### Single steps -/

/-- The round after a warning. -/
def warn (r : Round σ) (symbol message : String) : Round σ :=
  { r with
    warnings := r.warnings + 1
    diagnostics := r.diagnostics ++ [⟨.warning, symbol, message⟩] }

/-- The round after an error. -/
def fail (r : Round σ) (symbol message : String) : Round σ :=
  { r with
    errors := r.errors + 1
    diagnostics := r.diagnostics ++ [⟨.error, symbol, message⟩] }

/-- The round after the refusal of a declaration. -/
def report (r : Round σ) (symbol : String) (refusal : Refusal) : Round σ :=
  if refusal.isWarning then r.warn symbol refusal.message else r.fail symbol refusal.message

/-- The round after the warnings about something generated. -/
def accept {α : Type} (r : Round σ) (symbol : String) (generated : Synthesis.Generated α) :
    Round σ :=
  generated.warnings.foldl (fun r message => r.warn symbol message) r

/-- The round after a unit, and whether it was emitted.  A key that was handed over before is
    refused without asking the emitter. -/
def submit (e : Emitter σ) (unit : SourceUnit) (r : Round σ) : Except EmitError Unit × Round σ :=
  if r.handed.contains unit.key then (.error (.duplicate unit.key), r)
  else
    let handed := { r with handed := unit.key :: r.handed }
    match e.submit unit r.emitter with
    | (.ok (), state) => (.ok (), { handed with emitter := state, units := r.units ++ [unit.key] })
    | (.error failure, state) => (.error failure, { handed with emitter := state })

/-! ### Plans -/

/-- The round after a plan, or as much of it as was done before a unit was not taken. -/
def perform (e : Emitter σ) : List Action → Round σ → Except EmitError Unit × Round σ
  | [], r => (.ok (), r)
  | .report symbol refusal :: actions, r => perform e actions (r.report symbol refusal)
  | .warn symbol message :: actions, r => perform e actions (r.warn symbol message)
  | .submit unit :: actions, r =>
    match r.submit e unit with
    | (.ok (), r) => perform e actions r
    | (.error failure, r) => (.error failure, r)

/-- The outcome of a round in a context. -/
def outcome (ctx : Synthesis.Context) (r : Round σ) : Report :=
  { units := r.units
    errors := r.errors
    warnings := r.warnings
    moment := ctx.provenance.moment }

/-! ### Whole rounds -/

/-- What ends a round before its time. -/
inductive Failure where
  /-- A setting cannot be used. -/
  | settings (fault : Settings.Fault)
  /-- A unit was not emitted. -/
  | emission (error : EmitError)
  deriving DecidableEq, Repr

/-- The message for the user. -/
def Failure.message : Failure → String
  | .settings fault => fault.message
  | .emission error => error.message

/-- A whole round over a snapshot, begun at `start`, with an emitter in a state. -/
def run (e : Emitter σ) (snapshot : Snapshot) (settings : Settings) (start : Moment) (state : σ) :
    Except Failure Report × Round σ :=
  match settings.checked with
  | .error fault => (.error (.settings fault), { emitter := state })
  | .ok _ =>
    let ctx := Synthesis.Context.of snapshot settings start
    match perform e (Plan.round ctx) { emitter := state } with
    | (.error error, r) => (.error (.emission error), r)
    | (.ok (), r) => (.ok (r.outcome ctx), r)

end Round

end CompanionSource
