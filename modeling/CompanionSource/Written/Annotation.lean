import CompanionSource.Declared.Annotation

/-! # Written annotations

    Annotations as a snapshot document writes them, and the declared annotations that they stand
    for.  An annotation among the values of another one is kept as generated source repeats it. -/

namespace CompanionSource.Written

open Source (AnnotationArgument)

/-- An annotation over the argument values `α`. -/
structure AnnotationOf (α : Type) where
  /-- Its name. -/
  name : String
  /-- Its arguments, in order. -/
  arguments : List (AnnotationArgument α) := []

/-- The value of an annotation argument. -/
inductive AnnotationValue where
  /-- A truth value. -/
  | bool (value : Bool)
  /-- A whole number. -/
  | int (value : Int)
  /-- A floating point number. -/
  | float (value : Binary64)
  /-- A text. -/
  | text (content : String)
  /-- An array of values. -/
  | array (values : List AnnotationValue)
  /-- Source text to be written as it is. -/
  | raw (code : String)
  /-- An annotation as a value. -/
  | nested (inner : AnnotationOf AnnotationValue)

/-- An annotation. -/
abbrev Annotation : Type := AnnotationOf AnnotationValue

mutual

/-- The declared value that a value stands for. -/
def AnnotationValue.declare : AnnotationValue → Source.AnnotationValue
  | .bool value => .bool value
  | .int value => .int value
  | .float value => .float value
  | .text content => .text content
  | .array values => .array (AnnotationValue.declareAll values)
  | .raw code => .raw code
  | .nested inner => .nested (AnnotationOf.declare inner).toSource

/-- The declared values. -/
def AnnotationValue.declareAll : List AnnotationValue → List Source.AnnotationValue
  | [] => []
  | v :: vs => AnnotationValue.declare v :: AnnotationValue.declareAll vs

/-- The declared annotation that an annotation stands for. -/
def AnnotationOf.declare : AnnotationOf AnnotationValue → Declared.Annotation
  | ⟨name, arguments⟩ => { name, arguments := AnnotationOf.declareArguments arguments }

/-- The declared arguments. -/
def AnnotationOf.declareArguments : List (AnnotationArgument AnnotationValue) →
    List (AnnotationArgument Source.AnnotationValue)
  | [] => []
  | a :: as => AnnotationOf.declareArgument a :: AnnotationOf.declareArguments as

/-- The declared argument. -/
def AnnotationOf.declareArgument :
    AnnotationArgument AnnotationValue → AnnotationArgument Source.AnnotationValue
  | ⟨name, value⟩ => { name, value := AnnotationValue.declare value }

end

end CompanionSource.Written
