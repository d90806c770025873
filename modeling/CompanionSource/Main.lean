import CompanionSource.CommandLine.Run
import Std.Time.DateTime.Timestamp

/-! # The command

    One round from a snapshot, on the files of the machine. -/

namespace CompanionSource.Main

open CommandLine

/-- The text of a file, if it can be read. -/
def readText? (path : String) : IO (Option String) := do
  try
    return some (← IO.FS.readFile path)
  catch _ => return none

/-- Writes a unit, and answers with the path at which this failed. -/
def writeUnit (target : Files.Target) (u : SourceUnit) : IO (Option String) := do
  let path := target.path u
  let directory := (Files.parent? path).getD ""
  try
    unless directory.isEmpty do IO.FS.createDirAll directory
  catch _ => return some directory
  try
    IO.FS.writeFile path (u.text target.step)
  catch _ => return some path
  return none

/-- Writes the units one after another.  The answer is the paths written, and the first path at
    which this failed. -/
def writeUnits (target : Files.Target) : List SourceUnit → IO (List String × Option String)
  | [] => return ([], none)
  | u :: us => do
    if let some failed ← writeUnit target u then return ([], some failed)
    let (written, failed?) ← writeUnits target us
    return (target.path u :: written, failed?)

/-- The emitter that takes the next `n` units and fails at a path then. -/
def taking (failed : String) : Emitter Nat where
  submit _
    | 0 => (.error (.unwritable failed), 0)
    | n + 1 => (.ok (), n)

/-- The units that a round submits. -/
def submitted : List Action → List SourceUnit
  | [] => []
  | .submit u :: actions => u :: submitted actions
  | _ :: actions => submitted actions

/-- The round of a job. -/
def runJob (job : Job) : IO Answer := do
  let mut texts := []
  for path in job.config.toList ++ [job.snapshot] do
    texts := (path, ← readText? path) :: texts
  match inputsOf job fun path => (texts.lookup path).join with
  | .error answer => return answer
  | .ok inputs =>
    let now ← Std.Time.Timestamp.now
    let start := Moment.ofUnixNanoseconds now.toNanosecondsSinceUnixEpoch.toInt
    let target := targetOf job inputs.settings []
    let ctx := Synthesis.Context.of inputs.snapshot inputs.settings start
    let (written, failed?) ← writeUnits target (submitted (Plan.round ctx))
    let (result, round) :=
      Round.run (taking (failed?.getD "")) inputs.snapshot inputs.settings start written.length
    return answerTo result round.diagnostics written

end CompanionSource.Main

open CompanionSource in
/-- Runs the command with its arguments. -/
def main (arguments : List String) : IO UInt32 := do
  let request := CommandLine.Request.ofArguments arguments
  let answer ← match CommandLine.answerAtOnce request with
    | .ok answer => pure answer
    | .error job => Main.runJob job
  IO.print answer.output
  for message in answer.messages do
    IO.eprintln message
  if answer.status = 2 then IO.eprint CommandLine.usageText
  return answer.status.toUInt32
