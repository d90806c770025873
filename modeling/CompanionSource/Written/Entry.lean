import CompanionSource.Declared.Declaration
import CompanionSource.Written.Annotation

/-! # Written declarations

    Declarations as a snapshot document writes them: types and modifiers are still text.  Each
    entry has the fields of the declaration or member that it stands for. -/

namespace CompanionSource.Written

open Declared (FieldBinding Kind Visibility)

/-- A type parameter. -/
structure TypeParameter where
  /-- Its name. -/
  name : String
  /-- Its upper bounds. -/
  bounds : List String := []

/-- A parameter of a primary constructor. -/
structure ConstructorParameter where
  /-- Its name. -/
  name : String
  /-- Its type. -/
  type : String
  /-- The field it declares. -/
  binding : FieldBinding := .plain
  /-- Who may see that field. -/
  visibility : Visibility := .public_
  /-- It takes any number of arguments. -/
  vararg : Bool := false

/-- A parameter of a function. -/
structure Parameter where
  /-- Its name. -/
  name : String
  /-- Its type. -/
  type : String
  /-- It takes any number of arguments. -/
  vararg : Bool := false

/-- A member function. -/
structure Function where
  /-- Its name. -/
  name : String
  /-- Its parameters. -/
  parameters : List Parameter := []
  /-- Its return type; none if it returns no value. -/
  returns : Option String := none
  /-- Its type parameters. -/
  typeParameters : List TypeParameter := []
  /-- Its annotations. -/
  annotations : List Annotation := []
  /-- Its modifiers. -/
  modifiers : List String := []
  /-- Its documentation. -/
  doc : Option String := none

/-- A member property. -/
structure Property where
  /-- Its name. -/
  name : String
  /-- Its type. -/
  type : String
  /-- It can be assigned. -/
  mutable : Bool := false
  /-- Its annotations. -/
  annotations : List Annotation := []
  /-- Its modifiers. -/
  modifiers : List String := []
  /-- Its documentation. -/
  doc : Option String := none

/-- A type declaration. -/
structure Declaration where
  /-- Its qualified name. -/
  name : String
  /-- The namespace it lies in, if it is given. -/
  scope? : Option String := none
  /-- What is declared. -/
  kind : Kind
  /-- Who may see it. -/
  visibility : Visibility := .public_
  /-- Its modifiers. -/
  modifiers : List String := []
  /-- Its type parameters. -/
  typeParameters : List TypeParameter := []
  /-- Its annotations. -/
  annotations : List Annotation := []
  /-- Its documentation. -/
  doc : Option String := none
  /-- The parameters of its primary constructor, if it has one. -/
  constructor? : Option (List ConstructorParameter) := none
  /-- Its functions. -/
  functions : List Function := []
  /-- Its properties. -/
  properties : List Property := []

end CompanionSource.Written
