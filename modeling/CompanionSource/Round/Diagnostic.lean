/-! # Diagnostics

    What a round tells the user without being stopped by it. -/

namespace CompanionSource

/-- How serious a diagnostic is. -/
inductive Severity where
  | warning
  | error
  deriving DecidableEq, Repr

/-- The word for a severity. -/
def Severity.word : Severity → String
  | .warning => "warning"
  | .error => "error"

/-- A message about a declaration. -/
structure Diagnostic where
  /-- How serious it is. -/
  severity : Severity
  /-- The declaration. -/
  symbol : String
  /-- The message. -/
  message : String
  deriving DecidableEq, Repr

namespace Diagnostic

/-- The text for the user. -/
def text (d : Diagnostic) : String := d.severity.word ++ ": " ++ d.symbol ++ ": " ++ d.message

/-- How many diagnostics of a log have a severity. -/
def count (severity : Severity) (log : List Diagnostic) : Nat :=
  log.countP fun d => d.severity == severity

/-- Some diagnostic of a log is an error. -/
def hasErrors (log : List Diagnostic) : Bool := log.any fun d => d.severity == .error

end Diagnostic

end CompanionSource
