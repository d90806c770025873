import CompanionSource.TypeExpr.Basic

/-! # Imported names

    The names a file imports, in ascending order and each once.  A type whose name is imported
    is written by its last segment. -/

namespace CompanionSource.Source

/-- A set of names, kept in ascending order. -/
structure Imports where
  /-- The names, in ascending order. -/
  names : List String := []
  /-- No name comes twice. -/
  ascending : names.Pairwise (· < ·) := by simp

namespace Imports

/-- No imports. -/
def empty : Imports := {}

/-- `name` put in its place. -/
def insertName (name : String) : List String → List String
  | [] => [name]
  | n :: ns =>
    if name < n then name :: n :: ns
    else if n < name then n :: insertName name ns
    else n :: ns

theorem mem_insertName {x name : String} {ns : List String} :
    x ∈ insertName name ns ↔ x = name ∨ x ∈ ns := by
  induction ns with
  | nil => simp [insertName]
  | cons n ns ih =>
    unfold insertName
    split
    · simp
    · next hlt =>
      split
      · simp only [List.mem_cons, ih, or_left_comm]
      · next hgt =>
        have : name = n := String.le_antisymm (String.not_lt.1 hgt) (String.not_lt.1 hlt)
        simp [this]

theorem ascending_insertName {name : String} {ns : List String} (h : ns.Pairwise (· < ·)) :
    (insertName name ns).Pairwise (· < ·) := by
  induction ns with
  | nil => simp [insertName]
  | cons n ns ih =>
    obtain ⟨hn, hns⟩ := List.pairwise_cons.1 h
    unfold insertName
    split
    · next hlt =>
      refine List.pairwise_cons.2 ⟨fun m hm => ?_, h⟩
      rcases List.mem_cons.1 hm with rfl | hm
      · exact hlt
      · exact String.lt_trans hlt (hn m hm)
    · split
      · next hgt =>
        refine List.pairwise_cons.2 ⟨fun m hm => ?_, ih hns⟩
        rcases mem_insertName.1 hm with rfl | hm
        · exact hgt
        · exact hn m hm
      · exact h

/-- The imports and one more name. -/
def insert (imports : Imports) (name : String) : Imports :=
  ⟨insertName name imports.names, ascending_insertName imports.ascending⟩

/-- The names of a list. -/
def ofList (names : List String) : Imports :=
  names.foldl insert empty

/-- The name is imported. -/
def contains (imports : Imports) (name : String) : Bool :=
  imports.names.contains name

end Imports

/-! ### Types under imports -/

mutual

/-- The source text of a type in a file with these imports. -/
def typeCode (imports : Imports) : TypeExpr → String
  | ⟨name, arguments, nullable⟩ =>
    (if imports.contains name then Name.written (Name.simple name) else Name.writtenDotted name)
      ++ (if arguments.isEmpty then ""
        else "<" ++ ", ".intercalate (typeArgumentCodes imports arguments) ++ ">")
      ++ (if nullable then "?" else "")

/-- The source texts of type arguments. -/
def typeArgumentCodes (imports : Imports) : List (TypeArgument TypeExpr) → List String
  | [] => []
  | a :: as => typeArgumentCode imports a :: typeArgumentCodes imports as

/-- The source text of one type argument. -/
def typeArgumentCode (imports : Imports) : TypeArgument TypeExpr → String
  | .star => "*"
  | .of (some v) t => v.word ++ " " ++ typeCode imports t
  | .of none t => typeCode imports t

end

theorem typeArgumentCodes_eq_map (imports : Imports) (as : List (TypeArgument TypeExpr)) :
    typeArgumentCodes imports as = as.map (typeArgumentCode imports) := by
  induction as with
  | nil => rfl
  | cons a as ih => simp [typeArgumentCodes, ih]

end CompanionSource.Source
