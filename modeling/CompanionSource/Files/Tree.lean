import CompanionSource.Files.Path

/-! # File trees

    Directories and files by their place.  A place holds a directory or a file but not both.  Each
    step of a path is taken from a directory that is there: a path with `..` in it can fail even
    where the place that it would lead to holds a file.

    Directories are made one after another.  If one cannot be made, those before it stay. -/

namespace CompanionSource.Files

/-- The directories and files of a file system.  The root is always a directory. -/
structure Tree where
  /-- The places of directories. -/
  directories : List Place := []
  /-- The places of files, with their texts. -/
  files : List (Place × String) := []

namespace Tree

/-! ### By place -/

/-- The text of the file at a place. -/
def file? (t : Tree) (place : Place) : Option String := t.files.lookup place

/-- There is a directory at a place. -/
def isDirectory (t : Tree) (place : Place) : Bool :=
  place.isEmpty || t.directories.contains place

/-- The tree with a directory at a place, whose parent is one.  It fails at a file. -/
def makeDirectory? (t : Tree) (place : Place) : Option Tree :=
  if t.isDirectory place then some t
  else if (t.file? place).isSome then none
  else some { t with directories := place :: t.directories }

/-- The tree with a text in the file at a place, whose parent is a directory.  It fails at a
    directory. -/
def write? (t : Tree) (place : Place) (text : String) : Option Tree :=
  if t.isDirectory place then none
  else if (t.file? place).isSome then
    some { t with files := t.files.map fun f => if f.1 = place then (place, text) else f }
  else some { t with files := t.files ++ [(place, text)] }

/-! ### By path -/

/-- Where steps lead from a directory. -/
def walk? (t : Tree) (place : Place) : List String → Option Place
  | [] => some place
  | n :: ns =>
    if ns.isEmpty || t.isDirectory (place.step n) then t.walk? (place.step n) ns else none

/-- The text of the file that a path given in `home` leads to. -/
def read? (t : Tree) (home : Place) (path : String) : Option String :=
  (t.walk? (start home path) (steps path)).bind t.file?

/-- The tree with a text in the file that a path given in `home` leads to, through directories that
    are there.  A path without steps leads to no file. -/
def writeAt? (t : Tree) (home : Place) (path text : String) : Option Tree :=
  if (steps path).isEmpty then none
  else (t.walk? (start home path) (steps path)).bind fun place => t.write? place text

/-- The tree with a directory wherever steps from a place lead, up to the first that cannot be made,
    and whether all of them could. -/
def makeAlong (place : Place) : List String → Tree → Bool × Tree
  | [], t => (true, t)
  | n :: ns, t =>
    match t.makeDirectory? (place.step n) with
    | none => (false, t)
    | some next => makeAlong (place.step n) ns next

/-- The tree with a directory where a path given in `home` leads and all the way to it, as far as
    they can be made. -/
def makeDirectories (t : Tree) (home : Place) (path : String) : Bool × Tree :=
  makeAlong (start home path) (moves path) t

/-- The tree with a directory where a path leads and all the way to it, if they can be made. -/
def makeDirectories? (t : Tree) (home : Place) (path : String) : Option Tree :=
  match t.makeDirectories home path with
  | (false, _) => none
  | (true, made) => some made

/-- The tree with a text in the file that a path leads to, and with the directories on the way to
    it, if all of them can be made. -/
def put? (t : Tree) (home : Place) (path text : String) : Option Tree :=
  (parent? path).bind fun directory =>
    (t.makeDirectories? home directory).bind fun made => made.writeAt? home path text

end Tree

end CompanionSource.Files
