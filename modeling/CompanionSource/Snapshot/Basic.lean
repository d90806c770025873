import CompanionSource.Snapshot.Issue

/-! # Snapshots

    A snapshot is a list of declarations without issues, in the order of discovery.  It answers
    what a name or a type refers to. -/

namespace CompanionSource

/-- Declarations without issues. -/
structure Snapshot where
  /-- The declarations, in the order of discovery. -/
  declarations : List Declaration
  /-- Nothing is wrong with them. -/
  sound : Snapshot.issues declarations = []

namespace Snapshot

/-- The snapshot of a list of declarations, or what is wrong with it. -/
def ofDeclarations (ds : List Declaration) : Except (List Issue) Snapshot :=
  match h : issues ds with
  | [] => .ok ⟨ds, h⟩
  | found => .error found

/-- The positions of the declarations by their names, the last declaration first. -/
def index (s : Snapshot) : List (String × Nat) :=
  (s.declarations.zipIdx.map fun (d, i) => (d.name, i)).reverse

/-- The declaration with a qualified name. -/
def declaration? (s : Snapshot) (name : String) : Option Declaration :=
  (s.index.lookup name).bind fun i => s.declarations[i]?

/-- The declaration that a type refers to when it is written in the namespace `scope`.  What lies
    in the namespace comes before what has the name as its qualified name. -/
def resolve? (s : Snapshot) (type : TypeExpr) (scope : String) : Option Declaration :=
  if scope.isEmpty then s.declaration? type.name
  else (s.declaration? (scope ++ "." ++ type.name)).or (s.declaration? type.name)

/-- The declarations with a marker, in the order of discovery. -/
def markedWith (s : Snapshot) (marker : String) : List Declaration :=
  s.declarations.filter fun d => d.isMarked marker

end Snapshot

end CompanionSource
