import CompanionSource.TypeExpr.Basic

/-! # Reading type expressions

    A reader takes characters from the front of its input and answers with what it read and
    what is left.  It either takes at least one character or fails, so what is left is shorter
    and the readers may call one another on it.

    * **Blanks** may stand before a type, `<`, `,`, `>`, `?` and `*`, never around the dots of
      a name.
    * **Projections**: the words `in` and `out` mark a variance only when blanks and the start
      of another identifier follow; otherwise they are the name of a type.
    * **Faults** carry the input that was left, so that the offset can be told at the end. -/

namespace CompanionSource.TypeExpr

/-- What is wrong with a text that is no type. -/
inductive Complaint where
  | identifierExpected
  | backticksUnterminated
  | backticksEmpty
  | commaOrCloseExpected
  | inputTrailing
  deriving DecidableEq, Repr

/-- The wording of a complaint. -/
def Complaint.wording : Complaint → String
  | .identifierExpected => "expected identifier"
  | .backticksUnterminated => "unterminated backticked identifier"
  | .backticksEmpty => "empty backticked identifier"
  | .commaOrCloseExpected => "expected `,` or `>`"
  | .inputTrailing => "unexpected trailing input"

/-- A text that is no type, where reading stopped and why. -/
structure ParseError where
  /-- The whole text. -/
  text : String
  /-- The number of characters before the fault. -/
  position : Nat
  /-- What is wrong there. -/
  complaint : Complaint
  deriving DecidableEq, Repr

/-- The message for the user. -/
def ParseError.message (e : ParseError) : String :=
  "invalid type `" ++ e.text ++ "` at offset " ++ toString e.position ++ ": "
    ++ e.complaint.wording

namespace Parser

open Text (skipBlanks length_dropWhile_le length_skipBlanks_le)

/-- Reading failed: the input that was left and the complaint about it. -/
structure Fault where
  /-- The input from the fault on. -/
  rest : List Char
  /-- What is wrong there. -/
  complaint : Complaint

/-- A value read from the front of `input`. -/
structure Taken (α : Type) (input : List Char) where
  /-- What was read. -/
  value : α
  /-- What is left. -/
  rest : List Char
  /-- At least one character was taken. -/
  shorter : rest.length < input.length

/-- The input after the character `c` at its front. -/
def symbol (c : Char) : (input : List Char) → Option { rest : List Char // rest.length < input.length }
  | [] => none
  | d :: ds => if d = c then some ⟨ds, by simp⟩ else none

/-- The input after the character `c` and any blanks in front of it. -/
def blanksSymbol (c : Char) (input : List Char) :
    Option { rest : List Char // rest.length < input.length } :=
  (symbol c (skipBlanks input)).map fun ⟨rest, h⟩ =>
    ⟨rest, Nat.lt_of_lt_of_le h (length_skipBlanks_le input)⟩

/-- The characters up to a backtick, which is taken too.  `none` if there is no backtick. -/
def untilBacktick : (input : List Char) → Option (Taken (List Char) input)
  | [] => none
  | c :: cs =>
    if c = '`' then some ⟨[], cs, by simp⟩
    else match untilBacktick cs with
      | none => none
      | some ⟨name, rest, h⟩ => some ⟨c :: name, rest, by simp; omega⟩

/-- One identifier, bare or between backticks. -/
def identifier : (input : List Char) → Except Fault (Taken String input)
  | [] => .error ⟨[], .identifierExpected⟩
  | c :: cs =>
    if c = '`' then
      match untilBacktick cs with
      | none => .error ⟨[], .backticksUnterminated⟩
      | some ⟨[], rest, _⟩ => .error ⟨rest, .backticksEmpty⟩
      | some ⟨name, rest, h⟩ => .ok ⟨String.ofList name, rest, by simp; omega⟩
    else if Text.startsName c then
      .ok ⟨String.ofList (c :: cs.takeWhile Text.continuesName),
        cs.dropWhile Text.continuesName,
        Nat.lt_succ_of_le (length_dropWhile_le _ _)⟩
    else .error ⟨c :: cs, .identifierExpected⟩

/-- Identifiers joined by dots. -/
def dottedName (input : List Char) : Except Fault (Taken String input) :=
  match identifier input with
  | .error f => .error f
  | .ok ⟨first, rest, h⟩ =>
    match symbol '.' rest with
    | none => .ok ⟨first, rest, h⟩
    | some ⟨more, hmore⟩ =>
      match dottedName more with
      | .error f => .error f
      | .ok ⟨others, rest', h'⟩ => .ok ⟨first ++ "." ++ others, rest', by omega⟩
termination_by input.length

/-- Blanks and then the start of another identifier. -/
def nameFollows : List Char → Bool
  | [] => false
  | c :: cs =>
    Text.isBlank c && match skipBlanks cs with
      | [] => false
      | d :: _ => d == '`' || Text.startsName d

/-- The variance that `word` marks in front of `rest`. -/
def variance? (word : String) (rest : List Char) : Option Variance :=
  if !nameFollows rest then none
  else if word = "in" then some .consumed
  else if word = "out" then some .produced
  else none

/-- A question mark, after blanks, if there is one. -/
def questionMark (input : List Char) :
    Bool × { rest : List Char // rest.length ≤ input.length } :=
  match blanksSymbol '?' input with
  | some ⟨rest, h⟩ => (true, ⟨rest, Nat.le_of_lt h⟩)
  | none => (false, ⟨input, Nat.le_refl _⟩)

mutual

/-- A type. -/
def typeExpr (input : List Char) : Except Fault (Taken TypeExpr input) :=
  have hin := length_skipBlanks_le input
  match dottedName (skipBlanks input) with
  | .error f => .error f
  | .ok ⟨name, rest, h⟩ =>
    match blanksSymbol '<' rest with
    | none =>
      match questionMark rest with
      | (nullable, ⟨rest', h'⟩) => .ok ⟨⟨name, [], nullable⟩, rest', by omega⟩
    | some ⟨inside, hinside⟩ =>
      match arguments inside with
      | .error f => .error f
      | .ok ⟨args, after, hafter⟩ =>
        match questionMark after with
        | (nullable, ⟨rest', h'⟩) => .ok ⟨⟨name, args, nullable⟩, rest', by omega⟩
termination_by 3 * input.length

/-- Type arguments up to the closing bracket, which is taken too. -/
def arguments (input : List Char) : Except Fault (Taken (List (TypeArgument TypeExpr)) input) :=
  match argument input with
  | .error f => .error f
  | .ok ⟨first, rest, h⟩ =>
    match blanksSymbol ',' rest with
    | some ⟨more, hmore⟩ =>
      match arguments more with
      | .error f => .error f
      | .ok ⟨others, rest', h'⟩ => .ok ⟨first :: others, rest', by omega⟩
    | none =>
      match blanksSymbol '>' rest with
      | some ⟨rest', h'⟩ => .ok ⟨[first], rest', by omega⟩
      | none => .error ⟨skipBlanks rest, .commaOrCloseExpected⟩
termination_by 3 * input.length + 2

/-- One type argument. -/
def argument (input : List Char) : Except Fault (Taken (TypeArgument TypeExpr) input) :=
  have hin := length_skipBlanks_le input
  match blanksSymbol '*' input with
  | some ⟨rest, h⟩ => .ok ⟨.star, rest, h⟩
  | none =>
    match identifier (skipBlanks input) with
    | .error f => .error f
    | .ok ⟨word, rest, h⟩ =>
      match variance? word rest with
      | some v =>
        match typeExpr rest with
        | .error f => .error f
        | .ok ⟨t, rest', h'⟩ => .ok ⟨.of (some v) t, rest', by omega⟩
      | none =>
        match typeExpr (skipBlanks input) with
        | .error f => .error f
        | .ok ⟨t, rest', h'⟩ => .ok ⟨.of none t, rest', by omega⟩
termination_by 3 * input.length + 1
decreasing_by
  · omega
  · exact Nat.lt_succ_of_le (Nat.mul_le_mul_left 3 hin)

end

end Parser

/-- The type that the text writes.  Blanks may stand around it. -/
def parse (text : String) : Except ParseError TypeExpr :=
  let fault (rest : List Char) (c : Complaint) : ParseError :=
    { text, position := text.toList.length - rest.length, complaint := c }
  match Parser.typeExpr text.toList with
  | .error f => .error (fault f.rest f.complaint)
  | .ok ⟨t, rest, _⟩ =>
    match Text.skipBlanks rest with
    | [] => .ok t
    | more => .error (fault more .inputTrailing)

end CompanionSource.TypeExpr
