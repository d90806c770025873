import CompanionSource.Declared.Annotation
import CompanionSource.Declared.Type
import CompanionSource.Source.Modifier

/-! # Declarations

    The classes, interfaces, objects and enums that companions are written for, with their
    primary constructors and members. -/

namespace CompanionSource.Declared

/-! ### Kinds and visibility -/

/-- What is declared. -/
inductive Kind where
  | class_
  | interface
  | object
  | enum
  deriving DecidableEq, Repr

/-- All kinds. -/
def Kind.all : List Kind := [.class_, .interface, .object, .enum]

/-- The word for a kind. -/
def Kind.word : Kind → String
  | .class_ => "class"
  | .interface => "interface"
  | .object => "object"
  | .enum => "enum"

/-- The kind that a word names. -/
def Kind.ofWord? (word : String) : Option Kind := Kind.all.find? fun k => k.word == word

/-- Who may see a declaration or a field. -/
inductive Visibility where
  | public_
  | internal
  | protected_
  | private_
  deriving DecidableEq, Repr

/-- All visibilities. -/
def Visibility.all : List Visibility := [.public_, .internal, .protected_, .private_]

/-- The word for a visibility. -/
def Visibility.word : Visibility → String
  | .public_ => "public"
  | .internal => "internal"
  | .protected_ => "protected"
  | .private_ => "private"

/-- The visibility that a word names. -/
def Visibility.ofWord? (word : String) : Option Visibility :=
  Visibility.all.find? fun v => v.word == word

/-- A function at the top level of the same module can read the field. -/
def Visibility.reachesOutside (v : Visibility) : Bool := v == .public_ || v == .internal

/-- Whether a constructor parameter declares a field as well. -/
inductive FieldBinding where
  /-- It is a parameter only. -/
  | plain
  /-- It declares a field that cannot be assigned. -/
  | val
  /-- It declares a field that can be assigned. -/
  | var
  deriving DecidableEq, Repr

/-- All bindings. -/
def FieldBinding.all : List FieldBinding := [.plain, .val, .var]

/-- The word for a binding. -/
def FieldBinding.word : FieldBinding → String
  | .plain => "plain"
  | .val => "val"
  | .var => "var"

/-- The binding that a word names. -/
def FieldBinding.ofWord? (word : String) : Option FieldBinding :=
  FieldBinding.all.find? fun b => b.word == word

/-! ### Members -/

/-- A parameter of a primary constructor. -/
structure ConstructorParameter where
  /-- Its name, and that of the field. -/
  name : String
  /-- Its type, of one element if it takes many. -/
  type : TypeRef
  /-- The field it declares. -/
  binding : FieldBinding := .plain
  /-- Who may see that field. -/
  visibility : Visibility := .public_
  /-- It takes any number of arguments. -/
  vararg : Bool := false

/-- The field can be assigned. -/
def ConstructorParameter.isMutable (p : ConstructorParameter) : Bool := p.binding == .var

/-- There is a field, and code outside the class can read it. -/
def ConstructorParameter.isExposed (p : ConstructorParameter) : Bool :=
  p.binding != .plain && p.visibility.reachesOutside

/-- A parameter of a function. -/
structure Parameter where
  /-- Its name. -/
  name : String
  /-- Its type, of one element if it takes many. -/
  type : TypeRef
  /-- It takes any number of arguments. -/
  vararg : Bool := false

/-- A member function. -/
structure Function where
  /-- Its name. -/
  name : String
  /-- Its parameters. -/
  parameters : List Parameter := []
  /-- Its return type; none if it returns no value. -/
  returns : Option TypeRef := none
  /-- Its type parameters. -/
  typeParameters : List TypeVariable := []
  /-- Its annotations. -/
  annotations : List Annotation := []
  /-- Its modifiers. -/
  modifiers : ModifierSet := .empty
  /-- Its documentation. -/
  doc : Option String := none

/-- A member property. -/
structure Property where
  /-- Its name. -/
  name : String
  /-- Its type. -/
  type : TypeRef
  /-- It can be assigned. -/
  mutable : Bool := false
  /-- Its annotations. -/
  annotations : List Annotation := []
  /-- Its modifiers. -/
  modifiers : ModifierSet := .empty
  /-- Its documentation. -/
  doc : Option String := none

end CompanionSource.Declared

namespace CompanionSource

open Declared

/-! ### Declarations -/

/-- A type declaration. -/
structure Declaration where
  /-- Its qualified name. -/
  name : String
  /-- The namespace it lies in, if it is given.  Nested types need it, because their name alone
      does not tell their namespace. -/
  scope? : Option String := none
  /-- What is declared. -/
  kind : Kind
  /-- Who may see it. -/
  visibility : Visibility := .public_
  /-- Its modifiers. -/
  modifiers : ModifierSet := .empty
  /-- Its type parameters. -/
  typeParameters : List TypeVariable := []
  /-- Its annotations. -/
  annotations : List Declared.Annotation := []
  /-- Its documentation. -/
  doc : Option String := none
  /-- The parameters of its primary constructor, if it has one. -/
  constructor? : Option (List ConstructorParameter) := none
  /-- Its functions. -/
  functions : List Declared.Function := []
  /-- Its properties. -/
  properties : List Declared.Property := []

namespace Declaration

/-- The namespace: the one given, or else what stands before the last segment of the name. -/
def scope (d : Declaration) : String := d.scope?.getD (Name.qualifier d.name)

/-- The last segment of the name. -/
def simpleName (d : Declaration) : String := Name.simple d.name

/-- The name as seen from inside the namespace. -/
def typePath (d : Declaration) : String := Name.relativeTo d.scope d.name

/-- The type that is declared, applied to its own type parameters. -/
def declaredType (d : Declaration) : TypeExpr :=
  TypeExpr.applied d.typePath (d.typeParameters.map (·.name))

/-- The declaration has the modifier. -/
def has (d : Declaration) (m : Modifier) : Bool := d.modifiers.contains m

/-- Nothing outside its file sees the declaration. -/
def isPrivate (d : Declaration) : Bool := d.visibility == .private_

/-- A class without instances of its own. -/
def isAbstractClass (d : Declaration) : Bool :=
  d.kind == .class_ && (d.has .abstract || d.has .sealed)

/-- The language gives the declaration equality, copying and a text already. -/
def isValueSemantic (d : Declaration) : Bool := d.has .dataClass

/-- The kind as diagnostics name it. -/
def kindLabel (d : Declaration) : String :=
  if d.kind = .class_ then
    if d.has .dataClass then "data class"
    else if d.has .sealed then "sealed class"
    else if d.has .abstract then "abstract class"
    else d.kind.word
  else d.kind.word

/-- The first annotation that is the marker. -/
def marking? (d : Declaration) (marker : String) : Option Declared.Annotation :=
  d.annotations.find? fun a => a.isMarker marker

/-- Some annotation is the marker. -/
def isMarked (d : Declaration) (marker : String) : Bool := (d.marking? marker).isSome

end Declaration

end CompanionSource
