import CompanionSource.Provenance
import CompanionSource.Source.File

/-! # Units

    A unit is one generated file: a namespace, the name of the file, and what is declared in it.
    It is never empty, and all of it has one provenance. -/

namespace CompanionSource

/-- What tells two units of a round apart. -/
structure UnitKey where
  /-- The namespace. -/
  scope : String
  /-- The name of the file, without its extension. -/
  file : String
  deriving DecidableEq, Repr

/-- The label of a unit: its namespace and its file. -/
def UnitKey.label (k : UnitKey) : String := k.scope ++ "/" ++ k.file

/-- One generated file. -/
structure SourceUnit where
  /-- The namespace and the name of the file. -/
  key : UnitKey
  /-- The declarations in it. -/
  members : List Source.TopLevel
  /-- The provenance of the file. -/
  provenance : Provenance
  /-- There is something in it. -/
  nonempty : members ≠ []

namespace SourceUnit

/-- The unit with these members, or none if there is nothing to put into it. -/
def of? (key : UnitKey) (members : List Source.TopLevel) (provenance : Provenance) :
    Option SourceUnit :=
  match h : members with
  | [] => none
  | _ :: _ => some { key, members, provenance, nonempty := by simp [h] }

theorem of?_of_ne_nil {key : UnitKey} {members : List Source.TopLevel} {provenance : Provenance}
    (h : members ≠ []) :
    of? key members provenance = some { key, members, provenance, nonempty := h } := by
  cases members with
  | nil => exact absurd rfl h
  | cons _ _ => rfl

/-- A unit can be kept for later rounds.  None can: what is generated for a declaration depends on
    the whole snapshot. -/
def isCacheable (_ : SourceUnit) : Bool := false

/-- The names that the file of a unit imports: the type of its provenance, if it is qualified. -/
def imports (u : SourceUnit) : Source.Imports :=
  if Name.isDotted u.provenance.type then .ofList [u.provenance.type] else .empty

/-- The file of a unit.  Its provenance stands at the front. -/
def toFile (step : Nat) (u : SourceUnit) : Source.File :=
  { package := u.key.scope
    name := u.key.file
    annotations := [{ u.provenance.mark with site := some .file }]
    imports := u.imports
    members := u.members
    step }

/-- The text of a unit. -/
def text (step : Nat) (u : SourceUnit) : String := (u.toFile step).text

/-- Where the file of a unit lies below an output directory. -/
def relativePath (extension : String) (u : SourceUnit) : String :=
  (u.toFile 0).relativePath extension

end SourceUnit

end CompanionSource
