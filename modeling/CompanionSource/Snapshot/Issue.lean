import CompanionSource.Declared.Declaration

/-! # Issues of a snapshot

    What can be wrong with a list of declarations.  Every declaration is checked to its end, and
    all that is found is listed in order:

    * a **name** must not be blank, and neither must a segment of a qualified name;
    * no two declarations, properties of a declaration or parameters of a list have the same
      name;
    * only the **last** parameter of a list takes any number of arguments;
    * a **namespace** that is given must be where the qualified name begins. -/

namespace CompanionSource.Snapshot

/-! ### Issues -/

/-- The sorts of issues. -/
inductive IssueKind where
  | blankName
  | duplicateDeclaration
  | duplicateMember
  | varargNotLast
  | invalidNamespace
  deriving DecidableEq, Repr

/-- What is wrong at a place. -/
inductive Complaint where
  | blankSegment
  | declaredTwice
  | outsideNamespace (scope : String)
  | blankTypeParameter
  | blankFunction
  | blankProperty
  | propertyTwice
  | blankParameter
  | parameterTwice (name : String)
  | varargBeforeLast (name : String)
  deriving DecidableEq, Repr

namespace Complaint

/-- The sort of a complaint. -/
def kind : Complaint → IssueKind
  | blankSegment | blankTypeParameter | blankFunction | blankProperty | blankParameter => .blankName
  | declaredTwice => .duplicateDeclaration
  | propertyTwice | parameterTwice _ => .duplicateMember
  | varargBeforeLast _ => .varargNotLast
  | outsideNamespace _ => .invalidNamespace

/-- The wording of a complaint. -/
def wording : Complaint → String
  | blankSegment => "qualified name has a blank segment"
  | declaredTwice => "declared more than once"
  | outsideNamespace scope => "namespace `" ++ scope ++ "` is not a prefix of the qualified name"
  | blankTypeParameter => "blank type parameter name"
  | blankFunction => "blank function name"
  | blankProperty => "blank property name"
  | propertyTwice => "property declared more than once"
  | blankParameter => "blank parameter name"
  | parameterTwice name => "parameter `" ++ name ++ "` declared more than once"
  | varargBeforeLast name => "vararg parameter `" ++ name ++ "` must be last"

end Complaint

/-- Something that is wrong, and where. -/
structure Issue where
  /-- The declaration or member. -/
  location : String
  /-- What is wrong with it. -/
  complaint : Complaint
  deriving DecidableEq, Repr

/-- The message for the user. -/
def Issue.message (i : Issue) : String := i.location ++ ": " ++ i.complaint.wording

/-! ### Checks -/

/-- An issue at a place, if there is one. -/
def issueIf (found : Bool) (location : String) (complaint : Complaint) : List Issue :=
  if found then [⟨location, complaint⟩] else []

/-- The namespace contains the name: it is empty, or the name goes on from it with a dot and
    something more. -/
def containsName (scope name : String) : Bool :=
  scope.isEmpty || match Name.within? scope name with
    | some rest => !rest.isEmpty
    | none => false

/-- The issues of parameters in a list, given the names before them.  A parameter without a name
    is not checked further. -/
def parameterIssuesFrom (location : String) (seen : List String) :
    List (String × Bool) → List Issue
  | [] => []
  | (name, vararg) :: rest =>
    if Text.isBlankText name then
      ⟨location, .blankParameter⟩ :: parameterIssuesFrom location seen rest
    else
      issueIf (seen.contains name) location (.parameterTwice name)
        ++ issueIf (vararg && !rest.isEmpty) location (.varargBeforeLast name)
        ++ parameterIssuesFrom location (name :: seen) rest

/-- The issues of a list of parameters, given by name and whether they take many arguments. -/
def parameterIssues (location : String) (parameters : List (String × Bool)) : List Issue :=
  parameterIssuesFrom location [] parameters

/-- The issues of a function of the declaration `owner`. -/
def functionIssues (owner : String) (f : Declared.Function) : List Issue :=
  issueIf (Text.isBlankText f.name) owner .blankFunction
    ++ parameterIssues (owner ++ "." ++ f.name) (f.parameters.map fun p => (p.name, p.vararg))

/-- The issues of properties, given the names before them. -/
def propertyIssuesFrom (owner : String) (seen : List String) :
    List Declared.Property → List Issue
  | [] => []
  | p :: rest =>
    if Text.isBlankText p.name then
      ⟨owner, .blankProperty⟩ :: propertyIssuesFrom owner seen rest
    else
      issueIf (seen.contains p.name) (owner ++ "." ++ p.name) .propertyTwice
        ++ propertyIssuesFrom owner (p.name :: seen) rest

/-- The issues of a declaration within itself, from its namespace on. -/
def innerIssues (d : Declaration) : List Issue :=
  (match d.scope? with
      | some scope => issueIf (!containsName scope d.name) d.name (.outsideNamespace scope)
      | none => [])
    ++ d.typeParameters.flatMap (fun v =>
      issueIf (Text.isBlankText v.name) d.name .blankTypeParameter)
    ++ (match d.constructor? with
      | some ps => parameterIssues (d.name ++ ".<init>") (ps.map fun p => (p.name, p.vararg))
      | none => [])
    ++ d.functions.flatMap (functionIssues d.name)
    ++ propertyIssuesFrom d.name [] d.properties

/-- The issues of a declaration, given the names of those before it. -/
def declarationIssues (seen : List String) (d : Declaration) : List Issue :=
  issueIf ((Name.segments d.name).any Text.isBlankText) d.name .blankSegment
    ++ issueIf (seen.contains d.name) d.name .declaredTwice
    ++ innerIssues d

/-- The issues of declarations, given the names of those before them. -/
def issuesFrom (seen : List String) : List Declaration → List Issue
  | [] => []
  | d :: rest => declarationIssues seen d ++ issuesFrom (d.name :: seen) rest

/-- All issues of a list of declarations. -/
def issues (ds : List Declaration) : List Issue := issuesFrom [] ds

end CompanionSource.Snapshot
