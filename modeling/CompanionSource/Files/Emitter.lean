import CompanionSource.Files.Tree
import CompanionSource.Round.Emitter

/-! # Emitting files

    Units written as files below an output directory: directories for the segments of the
    namespace, and in them a file with the name of the unit. -/

namespace CompanionSource.Files

/-- Where and how units are written. -/
structure Target where
  /-- The directory in which paths are given. -/
  home : Place
  /-- The path of the output directory. -/
  root : String
  /-- The extension of files. -/
  extension : String
  /-- The number of blanks per level of indentation. -/
  step : Nat
  /-- The paths that can be written at all. -/
  admits : String → Bool := fun _ => true

/-- What was written. -/
structure Output where
  /-- The file system. -/
  tree : Tree
  /-- The paths written so far, in order. -/
  written : List String := []

namespace Target

/-- The path of a unit. -/
def path (t : Target) (u : SourceUnit) : String := join t.root (u.relativePath t.extension)

/-- The tree with the directory that a path is in, or the directory that could not be made.  What
    was made on the way to it stays. -/
def makeParent (t : Target) (path : String) (tree : Tree) : Except EmitError Unit × Tree :=
  match parent? path with
  | none => (.ok (), tree)
  | some directory =>
    match if t.admits directory then tree.makeDirectories t.home directory else (false, tree) with
    | (false, made) => (.error (.unwritable directory), made)
    | (true, made) => (.ok (), made)

/-- What happens to a unit: first its directory is made, and then its file is written.  Directories
    stay, also if the file cannot be written. -/
def write (t : Target) (u : SourceUnit) (o : Output) : Except EmitError Unit × Output :=
  let path := t.path u
  match t.makeParent path o.tree with
  | (.error e, made) => (.error e, { o with tree := made })
  | (.ok (), made) =>
    match if t.admits path then made.writeAt? t.home path (u.text t.step) else none with
    | none => (.error (.unwritable path), { o with tree := made })
    | some tree => (.ok (), { tree, written := o.written ++ [path] })

/-- The emitter that writes files. -/
def emitter (t : Target) : Emitter Output where
  submit := t.write

end Target

end CompanionSource.Files
