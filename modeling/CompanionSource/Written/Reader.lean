import CompanionSource.Document.Fields
import CompanionSource.Written.Entry

/-! # Reading written declarations

    The entries that a document holds.  What does not fit is refused as a whole: a field that is
    not known, a missing name, a value of the wrong shape. -/

namespace CompanionSource.Written

open Declared (FieldBinding Kind Visibility)
open Document (Value Table isInt64)
open Source (AnnotationArgument)

/-! ### Annotations -/

/-- The fields of an annotation found so far. -/
structure AnnotationFields where
  /-- The name. -/
  name : Option String := none
  /-- The arguments. -/
  arguments : List (AnnotationArgument AnnotationValue) := []

/-- The annotation, if it has a name. -/
def AnnotationFields.annotation? (f : AnnotationFields) : Option Annotation :=
  f.name.map fun name => { name, arguments := f.arguments }

/-- The fields of an annotation argument found so far. -/
structure ArgumentFields where
  /-- The name it is given by. -/
  name : Option String := none
  /-- The value. -/
  value : Option AnnotationValue := none

/-- The argument, if it has a value. -/
def ArgumentFields.argument? (f : ArgumentFields) : Option (AnnotationArgument AnnotationValue) :=
  f.value.map fun value => { name := f.name, value }

mutual

/-- An argument value.  A whole number beyond 64 bits is a floating point number.  A table with
    the text `raw` is source text, whatever else it holds, and any other table is an annotation. -/
def argumentValue? : Value → Option AnnotationValue
  | .bool b => some (.bool b)
  | .integer i => some (if isInt64 i then .int i else .float (.ofInt i))
  | .float x => some (.float x)
  | .string s => some (.text s)
  | .array vs => (argumentValues? vs).map .array
  | .table t =>
    match t.lookup "raw" with
    | some (.string code) => some (.raw code)
    | _ => (annotationFields? t).bind fun f => f.annotation?.map .nested
  | .null => none
  | .calendar _ => none

/-- Argument values. -/
def argumentValues? : List Value → Option (List AnnotationValue)
  | [] => some []
  | v :: vs =>
    match argumentValue? v, argumentValues? vs with
    | some a, some as => some (a :: as)
    | _, _ => none

/-- The fields of an annotation. -/
def annotationFields? : List (String × Value) → Option AnnotationFields
  | [] => some {}
  | (key, v) :: entries =>
    match annotationFields? entries with
    | none => none
    | some f =>
      if key = "name" then v.string?.map fun s => { f with name := some s }
      else if key = "arguments" then
        match v with
        | .array vs => (arguments? vs).map fun as => { f with arguments := as }
        | _ => none
      else none

/-- The arguments of an annotation. -/
def arguments? : List Value → Option (List (AnnotationArgument AnnotationValue))
  | [] => some []
  | v :: vs =>
    match v with
    | .table t =>
      match (argumentFields? t).bind ArgumentFields.argument?, arguments? vs with
      | some a, some as => some (a :: as)
      | _, _ => none
    | _ => none

/-- The fields of an annotation argument. -/
def argumentFields? : List (String × Value) → Option ArgumentFields
  | [] => some {}
  | (key, v) :: entries =>
    match argumentFields? entries with
    | none => none
    | some f =>
      if key = "name" then
        match v with
        | .null => some f
        | .string s => some { f with name := some s }
        | _ => none
      else if key = "value" then (argumentValue? v).map fun a => { f with value := some a }
      else none

end

/-- An annotation, as it is written. -/
def writtenAnnotation? : Value → Option Annotation
  | .table t => (annotationFields? t).bind AnnotationFields.annotation?
  | _ => none

/-- The declared annotation that a value writes. -/
def annotation? (v : Value) : Option Declared.Annotation :=
  (writtenAnnotation? v).map AnnotationOf.declare

/-! ### Members -/

/-- A value named by a word. -/
def word? {α : Type} (ofWord? : String → Option α) (v : Value) : Option α :=
  v.string?.bind ofWord?

/-- A list of texts. -/
def texts? : Value → Option (List String) := Value.list? Value.string?

/-- A list of annotations. -/
def annotations? : Value → Option (List Annotation) := Value.list? writtenAnnotation?

/-- A type parameter. -/
def typeParameter? : Value → Option TypeParameter :=
  Value.record? ["name", "bounds"] fun t => do
    some
      { name := ← t.required "name" Value.string?
        bounds := ← t.defaulted "bounds" [] texts? }

/-- A parameter of a primary constructor. -/
def constructorParameter? : Value → Option ConstructorParameter :=
  Value.record? ["name", "type", "binding", "visibility", "vararg"] fun t => do
    some
      { name := ← t.required "name" Value.string?
        type := ← t.required "type" Value.string?
        binding := ← t.defaulted "binding" .plain (word? FieldBinding.ofWord?)
        visibility := ← t.defaulted "visibility" .public_ (word? Visibility.ofWord?)
        vararg := ← t.defaulted "vararg" false Value.bool? }

/-- A parameter of a function. -/
def parameter? : Value → Option Parameter :=
  Value.record? ["name", "type", "vararg"] fun t => do
    some
      { name := ← t.required "name" Value.string?
        type := ← t.required "type" Value.string?
        vararg := ← t.defaulted "vararg" false Value.bool? }

/-- A member function. -/
def function? : Value → Option Function :=
  Value.record?
    ["name", "parameters", "returns", "type_parameters", "annotations", "modifiers", "doc"]
    fun t => do
      some
        { name := ← t.required "name" Value.string?
          parameters := ← t.defaulted "parameters" [] (Value.list? parameter?)
          returns := ← t.optional "returns" Value.string?
          typeParameters := ← t.defaulted "type_parameters" [] (Value.list? typeParameter?)
          annotations := ← t.defaulted "annotations" [] annotations?
          modifiers := ← t.defaulted "modifiers" [] texts?
          doc := ← t.optional "doc" Value.string? }

/-- A member property. -/
def property? : Value → Option Property :=
  Value.record? ["name", "type", "mutable", "annotations", "modifiers", "doc"] fun t => do
    some
      { name := ← t.required "name" Value.string?
        type := ← t.required "type" Value.string?
        mutable := ← t.defaulted "mutable" false Value.bool?
        annotations := ← t.defaulted "annotations" [] annotations?
        modifiers := ← t.defaulted "modifiers" [] texts?
        doc := ← t.optional "doc" Value.string? }

/-! ### Declarations -/

/-- A declaration. -/
def declaration? : Value → Option Declaration :=
  Value.record?
    ["name", "namespace", "kind", "visibility", "modifiers", "type_parameters", "annotations",
      "doc", "constructor", "functions", "properties"]
    fun t => do
      some
        { name := ← t.required "name" Value.string?
          scope? := ← t.optional "namespace" Value.string?
          kind := ← t.required "kind" (word? Kind.ofWord?)
          visibility := ← t.defaulted "visibility" .public_ (word? Visibility.ofWord?)
          modifiers := ← t.defaulted "modifiers" [] texts?
          typeParameters := ← t.defaulted "type_parameters" [] (Value.list? typeParameter?)
          annotations := ← t.defaulted "annotations" [] annotations?
          doc := ← t.optional "doc" Value.string?
          constructor? := ← t.optional "constructor" (Value.list? constructorParameter?)
          functions := ← t.defaulted "functions" [] (Value.list? function?)
          properties := ← t.defaulted "properties" [] (Value.list? property?) }

/-- The declarations of a document, in their order. -/
def declarations? : Value → Option (List Declaration) :=
  Value.record? ["declarations"] fun t =>
    t.defaulted "declarations" [] (Value.list? declaration?)

end CompanionSource.Written
