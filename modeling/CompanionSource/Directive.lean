import CompanionSource.Declared.Annotation

/-! # Directives

    The markers that ask for companions.  Their annotations lie in one namespace; an annotation
    that was not resolved is recognised by the simple name. -/

namespace CompanionSource

/-- What a marker asks for. -/
inductive Directive where
  /-- A wrapper that logs every call. -/
  | loggable
  /-- No log line for this member of a logged declaration. -/
  | noLog
  /-- A `copy` function. -/
  | copy
  /-- A `toNiceString` function. -/
  | toNiceString
  deriving DecidableEq, Repr

namespace Directive

/-- All directives. -/
def all : List Directive := [loggable, noLog, copy, toNiceString]

/-- The simple name of the marker. -/
def word : Directive → String
  | loggable => "Loggable"
  | noLog => "NoLog"
  | copy => "Copy"
  | toNiceString => "ToNiceString"

/-- The directive that a simple name stands for. -/
def ofWord? (word : String) : Option Directive := all.find? fun d => d.word == word

/-- The qualified name of the marker, for markers in the namespace `scope`. -/
def marker (scope : String) (d : Directive) : String := Name.qualify scope d.word

end Directive

namespace Declared.Annotation

/-- The annotation is one of the markers in the namespace `scope`. -/
def isAnyMarker (scope : String) (a : Annotation) : Bool :=
  Directive.all.any fun d => a.isMarker (d.marker scope)

end Declared.Annotation

/-- A member with these annotations is logged: none of them asks for no log line. -/
def isLogged (scope : String) (marks : List Declared.Annotation) : Bool :=
  !marks.any fun a => a.isMarker (Directive.noLog.marker scope)

end CompanionSource
