import CompanionSource.Source.Expr
import Mathlib.Data.List.Induction

/-! # Templates as pieces

    A template is made piece by piece.  What comes out are the pieces **joined**: texts that are
    not parted by an expression are one text, and no text is empty.

    The cases of one piece more are said once, and what is true of all templates follows by
    induction on the pieces. -/

namespace CompanionSource.Source

/-! ### Joined pieces -/

/-- The pieces behind literal text: it joins the text they begin with. -/
def prepend {α : Type} (text : String) (pieces : List (Piece α)) : List (Piece α) :=
  if text.isEmpty then pieces
  else match pieces with
    | .literal more :: others => .literal (text ++ more) :: others
    | _ => .literal text :: pieces

/-- The pieces with neighbouring texts joined and empty ones left out. -/
def joined {α : Type} : List (Piece α) → List (Piece α)
  | [] => []
  | .literal text :: pieces => prepend text (joined pieces)
  | .value expr :: pieces => .value expr :: joined pieces

section joined
variable {α : Type}

@[simp] theorem prepend_empty (pieces : List (Piece α)) : prepend "" pieces = pieces := rfl

theorem prepend_append (first second : String) (pieces : List (Piece α)) :
    prepend (first ++ second) pieces = prepend first (prepend second pieces) := by
  by_cases hfirst : first = ""
  · simp [hfirst]
  by_cases hsecond : second = ""
  · simp [hsecond]
  have hboth : first ++ second ≠ "" := by simp [hfirst]
  cases pieces with
  | nil => simp [prepend, hfirst, hsecond]
  | cons p ps => cases p <;> simp [prepend, hfirst, hsecond, String.append_assoc]

/-- Text in front can be joined before or after what follows is. -/
theorem joined_prepend (text : String) (pieces others : List (Piece α)) :
    joined (prepend text pieces ++ others) = prepend text (joined (pieces ++ others)) := by
  by_cases htext : text = ""
  · simp [htext]
  cases pieces with
  | nil => simp [prepend, htext, joined]
  | cons p pieces =>
    cases p with
    | literal more =>
      have hfront : prepend text (.literal more :: pieces) = .literal (text ++ more) :: pieces := by
        simp [prepend, htext]
      rw [hfront]
      exact prepend_append text more _
    | value e => simp [prepend, htext, joined]

/-- Pieces that are joined already can be joined with others. -/
theorem joined_append (pieces others : List (Piece α)) :
    joined (joined pieces ++ others) = joined (pieces ++ others) := by
  induction pieces with
  | nil => rfl
  | cons p pieces ih =>
    cases p with
    | literal text =>
      show joined (prepend text (joined pieces) ++ others) = prepend text (joined (pieces ++ others))
      rw [joined_prepend, ih]
    | value e => exact congrArg (_ :: ·) ih

theorem joined_append_congr_right (pieces : List (Piece α)) {others others' : List (Piece α)}
    (h : joined others = joined others') : joined (pieces ++ others) = joined (pieces ++ others') := by
  induction pieces with
  | nil => exact h
  | cons p pieces ih =>
    cases p with
    | literal text => exact congrArg (prepend text) ih
    | value e => exact congrArg (_ :: ·) ih

theorem joined_append_congr_left {pieces pieces' : List (Piece α)} (h : joined pieces = joined pieces')
    (others : List (Piece α)) : joined (pieces ++ others) = joined (pieces' ++ others) := by
  rw [← joined_append, h, joined_append]

end joined

/-! ### One piece more -/

/-- What becomes of a template that is given one more piece. -/
inductive Adds (t : Template) : Piece Expr → Template → Prop
  /-- Empty text is left out. -/
  | empty : Adds t (.literal "") t
  /-- Text joins the text at the end. -/
  | joins {init : Template} {last text : String} (hlast : t = init ++ [.literal last]) :
      Adds t (.literal text) (init ++ [.literal (last ++ text)])
  /-- Any other piece is put at the end. -/
  | ends (p : Piece Expr) : Adds t p (t ++ [p])

theorem adds_add (t : Template) (p : Piece Expr) : Adds t p (t.add p) := by
  cases p with
  | value e => exact .ends _
  | literal text =>
    show Adds t (.literal text) (t.literal text)
    unfold Template.literal
    split
    · next hempty =>
      obtain rfl : text = "" := String.isEmpty_iff.mp hempty
      exact .empty
    · split
      · next last hlast =>
        obtain ⟨init, rfl⟩ := List.getLast?_eq_some_iff.mp hlast
        rw [List.dropLast_concat]
        exact .joins rfl
      · exact .ends _

theorem value_mem_add {t : Template} {p : Piece Expr} {e : Expr} :
    .value e ∈ t.add p ↔ .value e ∈ t ∨ p = .value e := by
  have hadds := adds_add t p
  generalize t.add p = t' at hadds
  cases hadds with
  | empty => simp
  | joins hlast => simp [hlast]
  | ends => simp [eq_comm]

theorem joined_add (t : Template) (p : Piece Expr) : joined (t.add p) = joined (t ++ [p]) := by
  have hadds := adds_add t p
  generalize t.add p = t' at hadds
  cases hadds with
  | empty =>
    have hright : joined (t ++ [.literal ""]) = joined (t ++ []) := joined_append_congr_right t rfl
    rw [hright, List.append_nil]
  | @joins init last text hlast =>
    have hends : joined [Piece.literal (last ++ text)]
        = joined [(.literal last : Piece Expr), .literal text] := prepend_append last text []
    rw [hlast, List.append_assoc]
    exact joined_append_congr_right init hends
  | ends => rfl

/-! ### All pieces -/

theorem ofPieces_concat (ps : List (Piece Expr)) (p : Piece Expr) :
    Template.ofPieces (ps ++ [p]) = (Template.ofPieces ps).add p := by
  simp [Template.ofPieces]

/-- To join literal texts does not change the values. -/
theorem value_mem_ofPieces {ps : List (Piece Expr)} {e : Expr} :
    .value e ∈ Template.ofPieces ps ↔ .value e ∈ ps := by
  induction ps using List.reverseRecOn with
  | nil => rfl
  | append_singleton ps p ih =>
    rw [ofPieces_concat, value_mem_add, ih]
    simp [eq_comm]

/-- A template is its pieces, joined. -/
theorem joined_ofPieces (ps : List (Piece Expr)) : joined (Template.ofPieces ps) = joined ps := by
  induction ps using List.reverseRecOn with
  | nil => rfl
  | append_singleton ps p ih =>
    rw [ofPieces_concat, joined_add]
    exact joined_append_congr_left ih [p]

end CompanionSource.Source
