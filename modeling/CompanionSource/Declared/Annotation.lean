import CompanionSource.Source.Annotation

/-! # Declared annotations

    Annotations as declarations carry them, and the markers that are recognised among them. -/

namespace CompanionSource.Declared

/-- An annotation on a declaration or a member. -/
structure Annotation where
  /-- Its name, qualified if it was resolved and otherwise as written. -/
  name : String
  /-- Its arguments, in order. -/
  arguments : List (Source.AnnotationArgument Source.AnnotationValue) := []

namespace Annotation

/-- The last segment of the name. -/
def simpleName (a : Annotation) : String := Name.simple a.name

/-- The annotation is the marker: by its qualified name, or by the simple name if it is not
    qualified itself. -/
def isMarker (a : Annotation) (marker : String) : Bool :=
  a.name == marker || (!Name.isDotted a.name && a.name == Name.simple marker)

/-- The value of the first argument given under a name. -/
def argument? (a : Annotation) (name : String) : Option Source.AnnotationValue :=
  (a.arguments.find? fun arg => arg.name == some name).map (·.value)

/-- The annotation as generated source repeats it. -/
def toSource (a : Annotation) : Source.Annotation :=
  { type := .named a.name, arguments := a.arguments }

end Annotation

end CompanionSource.Declared
