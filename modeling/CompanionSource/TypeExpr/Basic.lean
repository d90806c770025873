import CompanionSource.Name

/-! # Type expressions

    A type as a declaration writes it: a dotted name, type arguments and a question mark if it
    admits null.  The name holds no backticks; printing puts them where a segment needs them. -/

namespace CompanionSource

/-- The direction of a projected type argument. -/
inductive Variance where
  /-- `in`: the argument is only consumed. -/
  | consumed
  /-- `out`: the argument is only produced. -/
  | produced
  deriving DecidableEq, Repr

/-- The word that marks the direction. -/
def Variance.word : Variance → String
  | .consumed => "in"
  | .produced => "out"

/-- A type argument over the types `α`. -/
inductive TypeArgument (α : Type) where
  /-- `*`, any argument. -/
  | star
  /-- A type, projected if a variance is given. -/
  | of (variance : Option Variance) (type : α)
  deriving DecidableEq, Repr

/-- A type expression. -/
structure TypeExpr where
  /-- The dotted name, without backticks. -/
  name : String
  /-- The type arguments, in order. -/
  arguments : List (TypeArgument TypeExpr) := []
  /-- The type ends in a question mark. -/
  nullable : Bool := false

namespace TypeExpr

/-- The type that is only a name. -/
def named (name : String) : TypeExpr := { name }

/-- The type `name` applied to the types with the given names. -/
def applied (name : String) (names : List String) : TypeExpr :=
  { name, arguments := names.map fun v => .of none (named v) }

/-- The last segment of the name. -/
def simpleName (t : TypeExpr) : String := Name.simple t.name

/-- The type of no value: a function that returns it returns nothing. -/
def isUnit (t : TypeExpr) : Bool :=
  !t.nullable && t.arguments.isEmpty && (t.name == "Unit" || t.name == "kotlin.Unit")

/-! ### Text -/

mutual

/-- The source text of a type. -/
def text : TypeExpr → String
  | ⟨name, arguments, nullable⟩ =>
    Name.writtenDotted name
      ++ (if arguments.isEmpty then "" else "<" ++ ", ".intercalate (argumentTexts arguments) ++ ">")
      ++ (if nullable then "?" else "")

/-- The source texts of type arguments. -/
def argumentTexts : List (TypeArgument TypeExpr) → List String
  | [] => []
  | a :: as => argumentText a :: argumentTexts as

/-- The source text of one type argument. -/
def argumentText : TypeArgument TypeExpr → String
  | .star => "*"
  | .of (some v) t => v.word ++ " " ++ text t
  | .of none t => text t

end

theorem argumentTexts_eq_map (as : List (TypeArgument TypeExpr)) :
    argumentTexts as = as.map argumentText := by
  induction as with
  | nil => rfl
  | cons a as ih => simp [argumentTexts, ih]

end TypeExpr

/-- A declared type parameter with its upper bounds. -/
structure TypeVariable where
  /-- The name of the parameter. -/
  name : String
  /-- The upper bounds; none leaves it unconstrained. -/
  bounds : List TypeExpr := []

end CompanionSource
