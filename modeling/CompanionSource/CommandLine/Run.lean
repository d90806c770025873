import CompanionSource.CommandLine.Request
import CompanionSource.CommandLine.Usage
import CompanionSource.Files.Emitter
import CompanionSource.Round.Basic
import CompanionSource.Snapshot.Loading

/-! # Running the command line

    What the command reads, does and answers.  The part that needs no files is separate, so that
    it serves both a tree of files and the files of the machine. -/

namespace CompanionSource.CommandLine

/-- What the command answers. -/
structure Answer where
  /-- The exit status. -/
  status : Nat := 0
  /-- What it prints. -/
  output : String := ""
  /-- The lines that it prints apart, for diagnostics. -/
  messages : List String := []

/-- The answer of a command that failed at something, and why. -/
def Answer.failure (messages : List String) (what why : String) : Answer :=
  { status := 1
    messages := messages ++ ["Error: " ++ what, "", "Caused by:", "    " ++ why] }

/-! ### Without files -/

/-- What a round is over. -/
structure Inputs where
  /-- The settings. -/
  settings : Settings
  /-- The declarations. -/
  snapshot : Snapshot

/-- The settings of a job, from the text of its file if that can be read. -/
def settingsOf (job : Job) (content : String → Option String) : Except Answer Settings :=
  let fixed (s : Settings) : Settings :=
    match job.timestamp with
    | none => s
    | some t => { s with timestamp := some t }
  match job.config with
  | none => .ok (fixed {})
  | some path =>
    match Settings.ofFile (content path) with
    | .error e => .error (.failure [] ("loading config " ++ path) e.message)
    | .ok s => .ok (fixed s)

/-- What the round of a job is over, from the texts of its files as far as they can be read.  The
    settings come first. -/
def inputsOf (job : Job) (content : String → Option String) : Except Answer Inputs :=
  match settingsOf job content with
  | .error answer => .error answer
  | .ok settings =>
    match Snapshot.ofFile (content job.snapshot) with
    | .error e => .error (.failure [] ("loading snapshot " ++ job.snapshot) e.message)
    | .ok snapshot => .ok { settings, snapshot }

/-- Where the units of a job are written. -/
def targetOf (job : Job) (settings : Settings) (home : Files.Place) : Files.Target :=
  { home
    root := job.out
    extension := settings.fileExtension
    step := settings.indentWidth
    admits := Files.isAdmissible }

/-- The last line about a round. -/
def summary (r : Report) : String :=
  toString r.units.length ++ " file(s) generated, " ++ toString r.errors ++ " error(s), "
    ++ toString r.warnings ++ " warning(s)"

/-- The answer after a round: its diagnostics, and the paths written if it came to its end. -/
def answerTo (result : Except Round.Failure Report) (diagnostics : List Diagnostic)
    (written : List String) : Answer :=
  let messages := diagnostics.map Diagnostic.text
  match result with
  | .error e => .failure messages "synthesis round failed" e.message
  | .ok report =>
    { status := if report.hasErrors then 1 else 0
      output := String.join ((written ++ [summary report]).map (· ++ "\n"))
      messages }

/-- The answer to a request that needs no round. -/
def answerAtOnce : Request → Except Job Answer
  | .help long => .ok { output := if long then longHelp else shortHelp }
  | .version => .ok { output := versionText }
  | .misuse => .ok { status := 2 }
  | .round job => .error job

/-! ### On a tree of files -/

/-- The text of the file that a path given in `home` leads to. -/
def textAt? (tree : Files.Tree) (home : Files.Place) (path : String) : Option String :=
  if Files.isAdmissible path then tree.read? home path else none

/-- The round of a job on a tree, begun at `start`. -/
def runJob (job : Job) (home : Files.Place) (start : Moment) (tree : Files.Tree) :
    Answer × Files.Tree :=
  match inputsOf job (textAt? tree home) with
  | .error answer => (answer, tree)
  | .ok inputs =>
    let emitter := (targetOf job inputs.settings home).emitter
    match Round.run emitter inputs.snapshot inputs.settings start { tree } with
    | (result, round) =>
      (answerTo result round.diagnostics round.emitter.written, round.emitter.tree)

/-- The answer to arguments given in the directory `home`, and the tree afterwards. -/
def run (arguments : List String) (home : Files.Place) (start : Moment) (tree : Files.Tree) :
    Answer × Files.Tree :=
  match answerAtOnce (Request.ofArguments arguments) with
  | .ok answer => (answer, tree)
  | .error job => runJob job home start tree

end CompanionSource.CommandLine
