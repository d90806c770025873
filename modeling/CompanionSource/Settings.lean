import CompanionSource.Directive
import CompanionSource.Document.Fields
import CompanionSource.Moment.Reader
import CompanionSource.Provenance
import CompanionSource.Toml.Reader

/-! # Settings

    What a round can be told: who generates, where the markers lie, what is called to log, and
    how files are written.  Every setting has a default. -/

namespace CompanionSource

/-- The settings of a round. -/
structure Settings where
  /-- The generator that provenance names. -/
  generator : String := "io.declsynth"
  /-- The comment in the provenance. -/
  originComment : String := "Generated by declsynth, do not edit"
  /-- The namespace of the markers, which may be empty. -/
  markerNamespace : String := "io.declsynth.annotations"
  /-- The annotation that gives the provenance. -/
  provenanceType : String := "javax.annotation.processing.Generated"
  /-- The function that wrappers call with each log line. -/
  logFunction : String := "println"
  /-- The time of generation, if it is fixed. -/
  timestamp : Option Moment := none
  /-- The number of blanks per level of indentation. -/
  indentWidth : Nat := 4
  /-- The extension of files, without the dot. -/
  fileExtension : String := "kt"

namespace Settings

/-! ### Checking -/

/-- A setting that cannot be used. -/
inductive Fault where
  | blankGenerator
  | provenanceType (given : String)
  | markerNamespace (given : String)
  | logFunction (given : String)
  | zeroIndent
  | fileExtension (given : String)
  deriving DecidableEq, Repr

namespace Fault

/-- The key of the setting. -/
def field : Fault → String
  | blankGenerator => "generator"
  | provenanceType _ => "provenance_annotation"
  | markerNamespace _ => "marker_namespace"
  | logFunction _ => "log_function"
  | zeroIndent => "indent_width"
  | fileExtension _ => "file_extension"

/-- What is wrong with the setting. -/
def wording : Fault → String
  | blankGenerator => "must not be blank"
  | provenanceType given => "`" ++ given ++ "` is not a qualified name"
  | markerNamespace given => "`" ++ given ++ "` is not a namespace"
  | logFunction given => "`" ++ given ++ "` is not a function name"
  | zeroIndent => "must be at least 1"
  | fileExtension given => "`" ++ given ++ "` is not a bare extension"

/-- The message for the user. -/
def message (f : Fault) : String :=
  "invalid config value for `" ++ f.field ++ "`: " ++ f.wording

end Fault

/-- The extension could be part of a path: it is empty, or has a dot or a separator in it. -/
def isNoExtension (extension : String) : Bool :=
  extension.isEmpty || extension.toList.any fun c => c == '.' || c == '/' || c == '\\'

/-- The text is something, and between its dots each part begins as an identifier does and goes on
    with it to its end. -/
def isDottedIdentifier (text : String) : Bool :=
  !text.isEmpty && (text.toList.splitOn '.').all fun part =>
    part.head?.any Text.startsName && part.tail.all Text.continuesName

/-- All that is wrong with the settings, in order. -/
def faults (s : Settings) : List Fault :=
  (if Text.isBlankText s.generator then [.blankGenerator] else [])
    ++ (if isDottedIdentifier s.provenanceType then [] else [.provenanceType s.provenanceType])
    ++ (if s.markerNamespace.isEmpty || isDottedIdentifier s.markerNamespace then []
      else [.markerNamespace s.markerNamespace])
    ++ (if isDottedIdentifier s.logFunction then [] else [.logFunction s.logFunction])
    ++ (if s.indentWidth = 0 then [.zeroIndent] else [])
    ++ (if isNoExtension s.fileExtension then [.fileExtension s.fileExtension] else [])

/-! ### Reading -/

/-- Why settings could not be loaded. -/
inductive LoadError where
  /-- There is no text to load. -/
  | unreadable
  /-- The text is no document, or the document does not hold settings. -/
  | malformed
  /-- A setting cannot be used. -/
  | invalid (fault : Fault)
  deriving DecidableEq, Repr

/-- The message for the user. -/
def LoadError.message : LoadError → String
  | .unreadable => "failed to read config"
  | .malformed => "failed to parse config"
  | .invalid f => f.message

/-- The settings, if they can all be used. -/
def checked (s : Settings) : Except Fault Settings :=
  match s.faults with
  | [] => .ok s
  | f :: _ => .error f

/-- A moment. -/
def moment? (v : Document.Value) : Option Moment := v.string?.bind Moment.parse?

/-- The settings of a document, unchecked. -/
def ofDocument? : Document.Value → Option Settings :=
  Document.Value.record?
    ["generator", "origin_comment", "marker_namespace", "provenance_annotation", "log_function",
      "timestamp", "indent_width", "file_extension"]
    fun t => do
      let d : Settings := {}
      some
        { generator := ← t.defaulted "generator" d.generator Document.Value.string?
          originComment := ← t.defaulted "origin_comment" d.originComment Document.Value.string?
          markerNamespace :=
            ← t.defaulted "marker_namespace" d.markerNamespace Document.Value.string?
          provenanceType :=
            ← t.defaulted "provenance_annotation" d.provenanceType Document.Value.string?
          logFunction := ← t.defaulted "log_function" d.logFunction Document.Value.string?
          timestamp := ← t.optional "timestamp" moment?
          indentWidth := ← t.defaulted "indent_width" d.indentWidth Document.Value.natural?
          fileExtension := ← t.defaulted "file_extension" d.fileExtension Document.Value.string? }

/-- The settings that a text writes. -/
def parse (text : String) : Except LoadError Settings :=
  match (Toml.parse? text).bind fun t => ofDocument? (.table t) with
  | none => .error .malformed
  | some s => s.checked.mapError .invalid

/-- The settings in a file, of which the text is given if it can be read. -/
def ofFile (content : Option String) : Except LoadError Settings :=
  match content with
  | none => .error .unreadable
  | some text => parse text

/-! ### Use -/

/-- The provenance of a round that begins at `start`, unless the time is fixed. -/
def provenance (s : Settings) (start : Moment) : Provenance :=
  { generator := s.generator
    moment := s.timestamp.getD start
    comment := s.originComment
    type := s.provenanceType }

/-- The qualified name of a marker. -/
def marker (s : Settings) (d : Directive) : String := d.marker s.markerNamespace

end Settings

end CompanionSource
