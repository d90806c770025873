import CompanionSource.Snapshot.Basic
import CompanionSource.Toml.Reader
import CompanionSource.Written.Conversion
import CompanionSource.Written.Reader

/-! # Loading snapshots

    From a document to a snapshot: the entries are read, then converted, then checked, and the
    first of these steps that fails gives the error. -/

namespace CompanionSource.Snapshot

/-- Why a snapshot could not be loaded. -/
inductive LoadError where
  /-- There is no text to load. -/
  | unreadable
  /-- The text is no document, or the document does not hold declarations. -/
  | malformed
  /-- A type or a modifier does not fit. -/
  | fault (fault : Written.Fault)
  /-- The declarations do not go together. -/
  | invalid (issues : List Issue)
  deriving DecidableEq, Repr

/-- The message about a list of issues. -/
def issuesMessage (issues : List Issue) : String :=
  "invalid snapshot: " ++ "; ".intercalate (issues.map Issue.message)

/-- The message for the user. -/
def LoadError.message : LoadError → String
  | .unreadable => "failed to read snapshot"
  | .malformed => "failed to parse snapshot"
  | .fault f => f.message
  | .invalid is => issuesMessage is

/-- The declarations of a document, unchecked. -/
def declarationsOf (document : Document.Value) : Except LoadError (List Declaration) :=
  match Written.declarations? document with
  | none => .error .malformed
  | some ds => (Written.declareAll ds).mapError .fault

/-- The snapshot that a document holds. -/
def ofDocument (document : Document.Value) : Except LoadError Snapshot :=
  match declarationsOf document with
  | .error e => .error e
  | .ok ds => (ofDeclarations ds).mapError .invalid

/-- The document that a text writes. -/
def documentOf (text : String) : Except LoadError Document.Value :=
  match Toml.parse? text with
  | none => .error .malformed
  | some t => .ok (.table t)

/-- The snapshot that a text writes. -/
def parse (text : String) : Except LoadError Snapshot :=
  documentOf text >>= ofDocument

/-- The snapshot in a file, of which the text is given if it can be read. -/
def ofFile (content : Option String) : Except LoadError Snapshot :=
  match content with
  | none => .error .unreadable
  | some text => parse text

end CompanionSource.Snapshot
