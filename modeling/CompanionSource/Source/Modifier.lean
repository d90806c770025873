/-! # Modifiers

    The modifiers of declarations.  They are listed in the order in which they are written, and
    a set of them is kept in that order. -/

namespace CompanionSource

/-- A modifier of a declaration. -/
inductive Modifier where
  | public_
  | protected_
  | private_
  | internal
  | expect
  | actual
  | final_
  | open_
  | abstract
  | sealed
  | const
  | external
  | override
  | lateinit
  | tailrec
  | suspend
  | inner
  | enumClass
  | annotationClass
  | companion
  | inline_
  | valueClass
  | infix_
  | operator
  | dataClass
  deriving DecidableEq, Repr

namespace Modifier

/-- All modifiers, in the order in which they are written. -/
def all : List Modifier :=
  [public_, protected_, private_, internal, expect, actual, final_, open_, abstract, sealed,
    const, external, override, lateinit, tailrec, suspend, inner, enumClass, annotationClass,
    companion, inline_, valueClass, infix_, operator, dataClass]

theorem mem_all (m : Modifier) : m ∈ all := by
  cases m <;> decide

/-- The place of a modifier in the order in which modifiers are written. -/
def rank (m : Modifier) : Nat := all.idxOf m

/-- The keyword. -/
def word : Modifier → String
  | public_ => "public"
  | protected_ => "protected"
  | private_ => "private"
  | internal => "internal"
  | expect => "expect"
  | actual => "actual"
  | final_ => "final"
  | open_ => "open"
  | abstract => "abstract"
  | sealed => "sealed"
  | const => "const"
  | external => "external"
  | override => "override"
  | lateinit => "lateinit"
  | tailrec => "tailrec"
  | suspend => "suspend"
  | inner => "inner"
  | enumClass => "enum"
  | annotationClass => "annotation"
  | companion => "companion"
  | inline_ => "inline"
  | valueClass => "value"
  | infix_ => "infix"
  | operator => "operator"
  | dataClass => "data"

/-- The modifier that a keyword names. -/
def ofWord? (word : String) : Option Modifier :=
  all.find? fun m => m.word == word

/-- The modifier says who may see the declaration. -/
def isVisibility (m : Modifier) : Bool :=
  m == public_ || m == protected_ || m == private_ || m == internal

end Modifier

/-- A set of modifiers, in the order in which they are written. -/
structure ModifierSet where
  /-- The modifiers of the set. -/
  toList : List Modifier := []
  /-- They are in order and none comes twice. -/
  ordered : toList.Pairwise fun m n => m.rank < n.rank := by simp

namespace ModifierSet

/-- No modifiers. -/
def empty : ModifierSet := {}

/-- The modifiers of a list. -/
def ofList (ms : List Modifier) : ModifierSet :=
  ⟨Modifier.all.filter ms.contains, List.Pairwise.filter _ (by decide)⟩

/-- The modifier is in the set. -/
def contains (s : ModifierSet) (m : Modifier) : Bool := s.toList.contains m

theorem contains_ofList {ms : List Modifier} {m : Modifier} :
    (ofList ms).contains m = ms.contains m := by
  simp [ofList, contains, Modifier.mem_all]

/-- The keywords of the set, each with a blank behind it. -/
def code (s : ModifierSet) : String :=
  String.join (s.toList.map fun m => m.word ++ " ")

end ModifierSet

end CompanionSource
