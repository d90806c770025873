import CompanionSource.Files.Path
import CompanionSource.Source.Member

/-! # Source files

    A file: its annotations, its package, its imports and the declarations in it, with an empty
    line between any two of these. -/

namespace CompanionSource.Source

/-- A declaration at the top level of a file. -/
inductive TopLevel where
  | ofClass (c : Class)
  | ofFunction (f : Function)
  | ofProperty (p : Property)

namespace TopLevel

/-- The declared name. -/
def name : TopLevel → String
  | .ofClass c => c.name
  | .ofFunction f => f.name
  | .ofProperty p => p.name

/-- The annotations of the declaration. -/
def annotations : TopLevel → List Annotation
  | .ofClass c => c.annotations
  | .ofFunction f => f.annotations
  | .ofProperty p => p.annotations

/-- The lines of the declaration. -/
def lines (imports : Imports) : TopLevel → List Line
  | .ofClass c => c.lines imports
  | .ofFunction f => f.lines imports
  | .ofProperty p => p.lines imports

end TopLevel

/-- A source file. -/
structure File where
  /-- The package, which may be empty. -/
  package : String
  /-- The name of the file, without its extension. -/
  name : String
  /-- Annotations of the file as a whole. -/
  annotations : List Annotation := []
  /-- The imported names. -/
  imports : Imports := {}
  /-- The declarations. -/
  members : List TopLevel := []
  /-- The number of blanks per level of indentation. -/
  step : Nat := 4

namespace File

/-- The parts of a file that an empty line sets apart.  None of them is empty. -/
def sections (f : File) : List (List Line) :=
  (if f.annotations.isEmpty then [] else [annotationLines f.imports f.annotations])
    ++ (if f.package.isEmpty then []
      else [[{ text := "package " ++ Name.writtenDotted f.package }]])
    ++ (if f.imports.names.isEmpty then []
      else [f.imports.names.map fun n => { text := "import " ++ Name.writtenDotted n }])
    ++ f.members.map (TopLevel.lines f.imports)

/-- The lines of a file. -/
def lines (f : File) : List Line := Line.spaced f.sections

/-- The text of a file. -/
def text (f : File) : String :=
  ({ step := f.step, imports := f.imports : Page }.putLines f.lines).text

/-- Where a file lies below an output directory: a directory for each segment of the package that
    is not empty. -/
def relativePath (f : File) (extension : String) : String :=
  Files.join
    ((Name.segments f.package).filter (fun s => !s.isEmpty) |>.foldl Files.join "")
    (f.name ++ "." ++ extension)

end File

end CompanionSource.Source
