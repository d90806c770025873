import CompanionSource.Text.Pieces

/-! # Paths

    Paths as they are written, with `/` between the names; what a file system takes as a path; and
    places, which paths lead to.  A path is walked step by step: a name leads below a place, `.`
    stays there, and `..` leads back.  Its parent is read off the text and not the places. -/

namespace CompanionSource.Files

/-- A place: the names on the way to it from the root. -/
abbrev Place : Type := List String

/-! ### As written -/

/-- A path begins at the root. -/
def isAbsolute (path : String) : Bool :=
  path.toList.head? == some '/'

/-- A path ends with a `/`, so that it can only mean a directory. -/
def endsWithSlash (path : String) : Bool :=
  path.toList.getLast? == some '/'

/-- `path` below `directory`.  A path that begins at the root stands for itself. -/
def join (directory path : String) : String :=
  if isAbsolute path || directory.isEmpty then path
  else if endsWithSlash directory then directory ++ path
  else directory ++ "/" ++ path

/-- What stands between the `/` of a path. -/
def pieces (path : String) : List String := (path.toList.splitOn '/').map String.ofList

/-- The names on a path.  One `/` is as good as many. -/
def names (path : String) : List String := (pieces path).filter fun n => !n.isEmpty

/-- The steps of a path.  A `/` at the end is one more step that stays. -/
def steps (path : String) : List String :=
  names path ++ if endsWithSlash path then ["."] else []

/-! ### Parents -/

/-- A piece of a path that leads nowhere. -/
def isIdle (piece : String) : Bool := piece.isEmpty || piece == "."

/-- The steps of a path that lead somewhere. -/
def moves (path : String) : List String := (pieces path).filter fun piece => !isIdle piece

/-- The pieces without the idle ones at their end. -/
def dropIdleEnd (ps : List String) : List String := (ps.reverse.dropWhile isIdle).reverse

/-- The path with these pieces.  If the first is empty it begins at the root. -/
def ofPieces (first : String) (others : List String) : String :=
  if first.isEmpty && others.isEmpty then "/" else "/".intercalate (first :: others)

/-- The path of the directory that holds what a path leads to: the path up to its last piece, and
    without idle pieces there.  The root has no parent, and neither has the empty path. -/
def parent? (path : String) : Option String :=
  match pieces path with
  | [] => none
  | first :: others =>
    match dropIdleEnd others with
    | [] => if first.isEmpty then none else some ""
    | kept => some (ofPieces first (dropIdleEnd kept.dropLast))

/-! ### As a file system takes them -/

/-- The most bytes of a name. -/
def nameLimit : Nat := 255

/-- The most bytes of a path. -/
def pathLimit : Nat := 4095

/-- A path that a file system takes: neither it nor a name on it is too long, and the zero
    character, which ends a path there, is not in it. -/
def isAdmissible (path : String) : Bool :=
  decide (path.utf8ByteSize ≤ pathLimit) && !path.toList.contains '\x00'
    && (steps path).all fun n => decide (n.utf8ByteSize ≤ nameLimit)

/-! ### As walked -/

/-- Where a step leads.  The root is its own parent. -/
def Place.step (place : Place) (name : String) : Place :=
  if name = "." then place
  else if name = ".." then place.dropLast
  else place ++ [name]

/-- The place at which a path begins that is given in the directory `home`. -/
def start (home : Place) (path : String) : Place :=
  if isAbsolute path then [] else home

end CompanionSource.Files
