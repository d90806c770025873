import CompanionSource.Moment.Reader
import CompanionSource.Text.Pieces

/-! # Requests of the command line

    What the arguments ask for.  An option is given as `--name value` or `--name=value`, at most
    once; the arguments are taken one after another, so that the first mistake or the first
    question for help decides. -/

namespace CompanionSource.CommandLine

/-- The options with a value. -/
inductive ValueOption where
  | snapshot
  | out
  | config
  | timestamp
  deriving DecidableEq, Repr

namespace ValueOption

/-- All options with a value. -/
def all : List ValueOption := [snapshot, out, config, timestamp]

/-- The name of an option. -/
def word : ValueOption → String
  | snapshot => "snapshot"
  | out => "out"
  | config => "config"
  | timestamp => "timestamp"

/-- The option with a name. -/
def ofWord? (word : String) : Option ValueOption := all.find? fun o => o.word == word

/-- A value that the option takes: a moment for the timestamp, else a path. -/
def takes (o : ValueOption) (value : String) : Bool :=
  match o with
  | timestamp => (Moment.parse? value).isSome
  | _ => !value.isEmpty

end ValueOption

/-- What a round is asked to do. -/
structure Job where
  /-- The path of the snapshot. -/
  snapshot : String
  /-- The path of the output directory. -/
  out : String
  /-- The path of the settings, if they are not left to their defaults. -/
  config : Option String := none
  /-- The time of generation, if it is fixed. -/
  timestamp : Option Moment := none

/-- What the arguments ask for. -/
inductive Request where
  /-- The help, in short or at length. -/
  | help (long : Bool)
  /-- The version. -/
  | version
  /-- A round. -/
  | round (job : Job)
  /-- The arguments make no sense. -/
  | misuse

/-- The values given so far. -/
abbrev Given : Type := List (ValueOption × String)

/-- The request for a round with these values. -/
def Given.request (given : Given) : Request :=
  match given.lookup .snapshot, given.lookup .out with
  | some snapshot, some out =>
    .round
      { snapshot
        out
        config := given.lookup .config
        timestamp := (given.lookup .timestamp).bind Moment.parse? }
  | _, _ => .misuse

/-- The values with one more, if the option takes it and has none yet. -/
def Given.add? (given : Given) (o : ValueOption) (value : String) : Option Given :=
  if (given.lookup o).isSome || !o.takes value then none else some ((o, value) :: given)

/-- An argument that stands for itself: it does not begin with a hyphen, or is nothing else. -/
def isPlainArgument (argument : String) : Bool :=
  argument.toList.head? != some '-' || argument == "-"

/-- The name and the value of an option that is given in one argument. -/
def splitOption (name : List Char) : String × Option String :=
  (String.ofList (name.takeWhile (· != '=')),
    match name.dropWhile (· != '=') with
    | [] => none
    | _ :: value => some (String.ofList value))

/-- What the arguments ask for, after those that gave some values. -/
def requestFrom (given : Given) : List String → Request
  | [] => given.request
  | argument :: rest =>
    match argument.toList with
    | ['-', '-'] => if rest.isEmpty then given.request else .misuse
    | '-' :: '-' :: name =>
      match splitOption name with
      | ("help", none) => .help true
      | ("version", none) => .version
      | (name, attached) =>
        match ValueOption.ofWord? name, attached, rest with
        | none, _, _ => .misuse
        | some o, some value, rest =>
          match given.add? o value with
          | none => .misuse
          | some given => requestFrom given rest
        | some _, none, [] => .misuse
        | some o, none, value :: rest =>
          if !isPlainArgument value then .misuse
          else match given.add? o value with
            | none => .misuse
            | some given => requestFrom given rest
    | '-' :: 'h' :: _ => .help false
    | '-' :: 'V' :: _ => .version
    | _ => .misuse

/-- What the arguments ask for. -/
def Request.ofArguments (arguments : List String) : Request := requestFrom [] arguments

end CompanionSource.CommandLine
