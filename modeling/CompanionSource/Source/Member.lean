import CompanionSource.Source.Annotation
import CompanionSource.Source.Expr
import CompanionSource.Source.Modifier
import CompanionSource.Source.Page

/-! # Declarations in source

    The nodes of generated source: parameters, properties, functions and classes, and how each
    is laid out in lines. -/

namespace CompanionSource.Source

/-! ### Nodes -/

/-- How a parameter of a primary constructor becomes a property. -/
inductive Binding where
  | val
  | var
  deriving DecidableEq, Repr

/-- The keyword of a binding. -/
def Binding.word : Binding → String
  | .val => "val"
  | .var => "var"

/-- A parameter of a function or a primary constructor. -/
structure Parameter where
  /-- Its name. -/
  name : String
  /-- Its type, of one element if it takes many. -/
  type : TypeExpr
  /-- It takes any number of arguments. -/
  vararg : Bool := false
  /-- Its value when no argument is given. -/
  default : Option Expr := none
  /-- Its annotations. -/
  annotations : List Annotation := []
  /-- Its modifiers. -/
  modifiers : ModifierSet := .empty
  /-- The property it declares, in a primary constructor. -/
  binding : Option Binding := none

/-- A property. -/
structure Property where
  /-- Its name. -/
  name : String
  /-- Its type. -/
  type : TypeExpr
  /-- It can be assigned. -/
  mutable : Bool := false
  /-- Its documentation. -/
  doc : Option String := none
  /-- Its annotations. -/
  annotations : List Annotation := []
  /-- Its modifiers. -/
  modifiers : ModifierSet := .empty
  /-- Its first value. -/
  initializer : Option Expr := none
  /-- The body of its getter. -/
  getter : Option (List Stmt) := none
  /-- The body of its setter, written only if it can be assigned. -/
  setter : Option (List Stmt) := none

/-- A function with a body.  With a receiver it is an extension function. -/
structure Function where
  /-- Its name. -/
  name : String
  /-- Its documentation. -/
  doc : Option String := none
  /-- Its annotations. -/
  annotations : List Annotation := []
  /-- Its modifiers. -/
  modifiers : ModifierSet := .empty
  /-- Its type parameters. -/
  typeVariables : List TypeVariable := []
  /-- The type it extends. -/
  receiver : Option TypeExpr := none
  /-- Its parameters. -/
  parameters : List Parameter := []
  /-- Its return type; none for a function that returns no value. -/
  returns : Option TypeExpr := none
  /-- Its statements. -/
  body : List Stmt := []

/-- A type that a class derives from. -/
structure Supertype where
  /-- The type. -/
  type : TypeExpr
  /-- It is a class, and its constructor is called. -/
  constructed : Bool := false

/-- A class. -/
structure Class where
  /-- Its name. -/
  name : String
  /-- Its documentation. -/
  doc : Option String := none
  /-- Its annotations. -/
  annotations : List Annotation := []
  /-- Its modifiers. -/
  modifiers : ModifierSet := .empty
  /-- Its type parameters. -/
  typeVariables : List TypeVariable := []
  /-- The parameters of its primary constructor; none leaves the constructor out. -/
  parameters : List Parameter := []
  /-- The types it derives from. -/
  supertypes : List Supertype := []
  /-- Its properties. -/
  properties : List Property := []
  /-- Its functions. -/
  functions : List Function := []

/-! ### Documentation -/

/-- One line of a documentation comment.  The end mark of comments is broken up. -/
def docLine (cs : List Char) : Line :=
  match Text.replacePair '*' '/' "*&#47;".toList (Text.dropBlankEnd cs) with
  | [] => { text := " *" }
  | cs => { text := " * " ++ String.ofList cs }

/-- A documentation comment, left out if there is nothing in it but blanks. -/
def docLines (doc : Option String) : List Line :=
  match Text.trimChars ((doc.getD "").toList) with
  | [] => []
  | cs => { text := "/**" } :: (cs.splitOn '\n').map docLine ++ [{ text := " */" }]

/-- Annotations, each on a line. -/
def annotationLines (imports : Imports) (marks : List Annotation) : List Line :=
  marks.map fun a => { text := a.code imports }

/-! ### Type parameters -/

/-- A type variable in the list of type parameters.  A single bound is written here. -/
def typeVariableCode (imports : Imports) (v : TypeVariable) : String :=
  match v.bounds with
  | [bound] => Name.written v.name ++ " : " ++ typeCode imports bound
  | _ => Name.written v.name

/-- The list of type parameters in its brackets, or nothing. -/
def typeVariablesCode (imports : Imports) (vs : List TypeVariable) : String :=
  if vs.isEmpty then ""
  else "<" ++ ", ".intercalate (vs.map (typeVariableCode imports)) ++ ">"

/-- The constraints that a type variable leaves to the `where` clause: its bounds, if there are
    several. -/
def whereConstraints (imports : Imports) (v : TypeVariable) : List String :=
  if 1 < v.bounds.length then
    v.bounds.map fun bound => Name.written v.name ++ " : " ++ typeCode imports bound
  else []

/-- The `where` clause, or nothing. -/
def whereCode (imports : Imports) (vs : List TypeVariable) : String :=
  let constraints := vs.flatMap (whereConstraints imports)
  if constraints.isEmpty then "" else " where " ++ ", ".intercalate constraints

/-! ### Layout -/

/-- The source text of a parameter. -/
def Parameter.code (imports : Imports) (p : Parameter) : String :=
  String.join (p.annotations.map fun a => a.code imports ++ " ")
    ++ p.modifiers.code
    ++ (if p.vararg then "vararg " else "")
    ++ (match p.binding with
      | some b => b.word ++ " "
      | none => "")
    ++ Name.written p.name ++ ": " ++ typeCode imports p.type
    ++ (match p.default with
      | some value => " = " ++ value.code imports
      | none => "")

/-- Statements, each on a line. -/
def bodyLines (imports : Imports) (body : List Stmt) : List Line :=
  body.map fun s => { text := s.code imports }

/-- An accessor, or nothing. -/
def accessorLines (imports : Imports) (heading : String) (body : Option (List Stmt)) :
    List Line :=
  match body with
  | some body => Line.block heading (bodyLines imports body)
  | none => []

/-- The line that declares a property. -/
def Property.heading (imports : Imports) (p : Property) : String :=
  p.modifiers.code ++ (if p.mutable then "var " else "val ")
    ++ Name.written p.name ++ ": " ++ typeCode imports p.type
    ++ (match p.initializer with
      | some value => " = " ++ value.code imports
      | none => "")

/-- The lines of a property. -/
def Property.lines (imports : Imports) (p : Property) : List Line :=
  docLines p.doc ++ annotationLines imports p.annotations ++ [{ text := p.heading imports }]
    ++ Line.indented (accessorLines imports "get()" p.getter)
    ++ Line.indented
      (if p.mutable then accessorLines imports "set(value)" p.setter else [])

/-- The head of a function, up to its body. -/
def Function.heading (imports : Imports) (f : Function) : String :=
  f.modifiers.code ++ "fun "
    ++ (if f.typeVariables.isEmpty then "" else typeVariablesCode imports f.typeVariables ++ " ")
    ++ (match f.receiver with
      | some receiver => typeCode imports receiver ++ "."
      | none => "")
    ++ Name.written f.name
    ++ "(" ++ ", ".intercalate (f.parameters.map (Parameter.code imports)) ++ ")"
    ++ (match f.returns with
      | some type => ": " ++ typeCode imports type
      | none => "")
    ++ whereCode imports f.typeVariables

/-- The lines of a function. -/
def Function.lines (imports : Imports) (f : Function) : List Line :=
  docLines f.doc ++ annotationLines imports f.annotations
    ++ Line.block (f.heading imports) (bodyLines imports f.body)

/-- The source text of a supertype. -/
def Supertype.code (imports : Imports) (s : Supertype) : String :=
  typeCode imports s.type ++ if s.constructed then "()" else ""

/-- The head of a class, up to its constructor. -/
def Class.heading (imports : Imports) (c : Class) : String :=
  c.modifiers.code ++ "class " ++ Name.written c.name
    ++ typeVariablesCode imports c.typeVariables

/-- The head of a class, from behind its constructor. -/
def Class.tail (imports : Imports) (c : Class) : String :=
  (if c.supertypes.isEmpty then ""
    else " : " ++ ", ".intercalate (c.supertypes.map (Supertype.code imports)))
    ++ whereCode imports c.typeVariables

/-- The members of a class: its properties and then its functions, an empty line between any
    two. -/
def Class.bodyLines (imports : Imports) (c : Class) : List Line :=
  Line.spaced (c.properties.map (Property.lines imports) ++ c.functions.map (Function.lines imports))

/-- The lines of a class.  Each parameter of the constructor has a line, and a class without
    members has no braces. -/
def Class.lines (imports : Imports) (c : Class) : List Line :=
  let opening : List Line :=
    if c.parameters.isEmpty then []
    else { text := c.heading imports ++ "(" }
      :: Line.indented (c.parameters.map fun p => { text := p.code imports ++ "," })
  let head := (if c.parameters.isEmpty then c.heading imports else ")") ++ c.tail imports
  docLines c.doc ++ annotationLines imports c.annotations ++ opening
    ++ if c.properties.isEmpty && c.functions.isEmpty then [{ text := head }]
      else Line.block head (c.bodyLines imports)

end CompanionSource.Source
