import CompanionSource.Source.Imports
import CompanionSource.Source.Literal

/-! # Expressions and statements

    The bodies of generated functions and accessors, and their source text.  Each expression is
    written on one line. -/

namespace CompanionSource.Source

/-- A part of a string template over the expressions `α`. -/
inductive Piece (α : Type) where
  /-- Text that stands for itself. -/
  | literal (text : String)
  /-- The value of an expression. -/
  | value (expr : α)
  deriving DecidableEq, Repr

/-- An argument of a call over the expressions `α`. -/
structure Argument (α : Type) where
  /-- The parameter it is passed for, if it is passed by name. -/
  name : Option String := none
  /-- The elements of an array are passed one by one. -/
  spread : Bool := false
  /-- What is passed. -/
  value : α
  deriving DecidableEq, Repr

/-- An expression. -/
inductive Expr where
  /-- A simple name. -/
  | name (name : String)
  /-- A type where an expression stands, such as a class whose constructor is called. -/
  | type (type : TypeExpr)
  /-- The receiver of the enclosing function or class. -/
  | this
  /-- A member of the receiver; a safe access yields null on a null receiver. -/
  | member (receiver : Expr) (name : String) (safe : Bool)
  /-- A call. -/
  | call (callee : Expr) (types : List TypeExpr) (arguments : List (Argument Expr))
  /-- A string template. -/
  | template (pieces : List (Piece Expr))

/-- The pieces of a string template. -/
abbrev Template : Type := List (Piece Expr)

namespace Template

/-- The template with literal text at its end.  It joins the literal text already there. -/
def literal (t : Template) (text : String) : Template :=
  if text.isEmpty then t
  else match t.getLast? with
    | some (.literal last) => t.dropLast ++ [.literal (last ++ text)]
    | _ => t ++ [.literal text]

/-- The template with the value of an expression at its end. -/
def value (t : Template) (expr : Expr) : Template :=
  t ++ [.value expr]

/-- The template with another piece at its end. -/
def add (t : Template) : Piece Expr → Template
  | .literal text => t.literal text
  | .value expr => t.value expr

/-- The template of these pieces, literal texts joined and empty ones left out. -/
def ofPieces (pieces : List (Piece Expr)) : Template :=
  pieces.foldl add []

end Template

/-! ### Text of expressions -/

namespace Expr

/-- A member access that is not safe. -/
def dot (receiver : Expr) (name : String) : Expr := .member receiver name false

/-- A call without type arguments. -/
def apply (callee : Expr) (arguments : List (Argument Expr)) : Expr := .call callee [] arguments

mutual

/-- The source text of an expression. -/
def code (imports : Imports) : Expr → String
  | .name n => Name.written n
  | .type t => typeCode imports t
  | .this => "this"
  | .member receiver n safe =>
    code imports receiver ++ (if safe then "?." else ".") ++ Name.written n
  | .call callee types arguments =>
    code imports callee
      ++ (if types.isEmpty then ""
        else "<" ++ ", ".intercalate (types.map (typeCode imports)) ++ ">")
      ++ "(" ++ ", ".intercalate (argumentCodes imports arguments) ++ ")"
  | .template pieces => "\"" ++ String.join (pieceCodes imports pieces) ++ "\""

/-- The source texts of arguments. -/
def argumentCodes (imports : Imports) : List (Argument Expr) → List String
  | [] => []
  | a :: as => argumentCode imports a :: argumentCodes imports as

/-- The source text of one argument. -/
def argumentCode (imports : Imports) : Argument Expr → String
  | ⟨label, spread, value⟩ =>
    (match label with
      | some n => Name.written n ++ " = "
      | none => "")
      ++ (if spread then "*" else "") ++ code imports value

/-- The source texts of the pieces of a template. -/
def pieceCodes (imports : Imports) : List (Piece Expr) → List String
  | [] => []
  | p :: ps => pieceCode imports p :: pieceCodes imports ps

/-- The source text of one piece, as it stands between the quotes. -/
def pieceCode (imports : Imports) : Piece Expr → String
  | .literal text => escaped text
  | .value expr => "$\x7b" ++ code imports expr ++ "\x7d"

end

theorem argumentCodes_eq_map (imports : Imports) (as : List (Argument Expr)) :
    argumentCodes imports as = as.map (argumentCode imports) := by
  induction as with
  | nil => rfl
  | cons a as ih => simp [argumentCodes, ih]

end Expr

/-- The source text of a template, quotes included. -/
def Template.code (imports : Imports) (t : Template) : String :=
  Expr.code imports (.template t)

/-! ### Statements -/

/-- A statement. -/
inductive Stmt where
  /-- A local value. -/
  | val (name : String) (value : Expr)
  /-- An expression evaluated for its effect. -/
  | expr (value : Expr)
  /-- An assignment. -/
  | assign (target value : Expr)
  /-- The end of the body, with its result if it has one. -/
  | ret (value : Option Expr)

/-- The source text of a statement. -/
def Stmt.code (imports : Imports) : Stmt → String
  | .val name value => "val " ++ Name.written name ++ " = " ++ value.code imports
  | .expr value => value.code imports
  | .assign target value => target.code imports ++ " = " ++ value.code imports
  | .ret (some value) => "return " ++ value.code imports
  | .ret none => "return"

end CompanionSource.Source
