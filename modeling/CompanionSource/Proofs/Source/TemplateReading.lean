import CompanionSource.Proofs.Name
import CompanionSource.Proofs.Source.LiteralReading

/-! # Templates read back

    A string template that is printed is read as the pieces it was made of, joined.

    The texts are read back as any printed text is.  The code of an interpolation must be such
    that the reader **passes over** it up to the closing brace that the printer put there: no brace
    in it stands outside backticks, and its backticks come in pairs.  This is so for names without
    a backtick, and then for whatever is built from them without a template inside. -/

namespace CompanionSource.Source

/-! ### Interpolated code -/

/-- The name has no backtick. -/
def IsUnquoted (name : String) : Prop :=
  '`' ∉ name.toList

instance (name : String) : Decidable (IsUnquoted name) :=
  inferInstanceAs (Decidable (_ ∉ _))

/-- The expression is built from names, types, the receiver, member accesses and calls, and none
    of the names in it has a backtick.  It is no template. -/
inductive Expr.Unquoted : Expr → Prop
  | name {n : String} (hn : IsUnquoted n) : Unquoted (.name n)
  | type {t : TypeExpr} (ht : t.EveryName IsUnquoted) : Unquoted (.type t)
  | this : Unquoted .this
  | member {receiver : Expr} {n : String} {safe : Bool} (hreceiver : Unquoted receiver)
      (hn : IsUnquoted n) : Unquoted (.member receiver n safe)
  | call {callee : Expr} {types : List TypeExpr} {arguments : List (Argument Expr)}
      (hcallee : Unquoted callee) (htypes : ∀ t ∈ types, t.EveryName IsUnquoted)
      (hlabels : ∀ a ∈ arguments, ∀ n ∈ a.name, IsUnquoted n)
      (hvalues : ∀ a ∈ arguments, Unquoted a.value) : Unquoted (.call callee types arguments)

/-- The reader of an interpolation passes over the code: no brace in it closes the interpolation,
    and its backticks come in pairs. -/
def Passes (code : String) : Prop :=
  ∀ cs, readCode false (code.toList ++ cs) = codeBefore code (readCode false cs)

theorem codeBefore_codeBefore (first second : String)
    (read : Option (String × List (Piece String) × List Char)) :
    codeBefore first (codeBefore second read) = codeBefore (first ++ second) read := by
  cases read with
  | none => rfl
  | some found => simp [codeBefore, String.append_assoc]

theorem codeBefore_empty (read : Option (String × List (Piece String) × List Char)) :
    codeBefore "" read = read := by
  cases read with
  | none => rfl
  | some found => simp [codeBefore]

theorem passes_empty : Passes "" := fun _ => (codeBefore_empty _).symm

theorem Passes.append {first second : String} (hfirst : Passes first) (hsecond : Passes second) :
    Passes (first ++ second) := by
  intro cs
  rw [String.toList_append, List.append_assoc, hfirst, hsecond, codeBefore_codeBefore]

/-- Characters that stand outside backticks and close nothing. -/
theorem passes_of_not_mem {code : String} (h : '\x7d' ∉ code.toList ∧ '`' ∉ code.toList) :
    Passes code := by
  obtain ⟨hbrace, hquote⟩ := h
  obtain ⟨chars, rfl⟩ : ∃ chars, code = String.ofList chars := ⟨code.toList, by simp⟩
  rw [String.toList_ofList] at hbrace hquote
  intro cs
  rw [String.toList_ofList]
  induction chars with
  | nil => exact (codeBefore_empty _).symm
  | cons c chars ih =>
    obtain ⟨hnoBrace, hbrace⟩ := List.ne_and_not_mem_of_not_mem_cons hbrace
    obtain ⟨hnoQuote, hquote⟩ := List.ne_and_not_mem_of_not_mem_cons hquote
    rw [List.cons_append, readCode]
    simp only [hnoBrace.symm, hnoQuote.symm, false_and, if_false, ih hbrace hquote,
      codeBefore_codeBefore, String.ofList_cons]

/-- Inside backticks anything but a backtick is passed over. -/
theorem readCode_quoted {chars : List Char} (h : '`' ∉ chars) (cs : List Char) :
    readCode true (chars ++ '`' :: cs)
      = codeBefore (String.ofList chars ++ "`") (readCode false cs) := by
  induction chars with
  | nil => simp [readCode]
  | cons c chars ih =>
    rw [List.mem_cons, not_or] at h
    rw [List.cons_append, readCode]
    simp only [Bool.true_eq_false, and_false, if_false, Ne.symm h.1, ih h.2,
      codeBefore_codeBefore, String.ofList_cons, String.append_assoc]

theorem passes_quoted {name : String} (h : IsUnquoted name) : Passes ("`" ++ name ++ "`") := by
  intro cs
  have hchars : ("`" ++ name ++ "`").toList ++ cs = '`' :: (name.toList ++ '`' :: cs) := by
    simp [String.toList_append]
  rw [hchars, readCode]
  simp only [show ('`' : Char) ≠ '\x7d' by decide, false_and, if_false, if_true, Bool.not_false,
    readCode_quoted h, codeBefore_codeBefore, String.ofList_toList]
  rfl

/-- A name without a backtick is passed over, bare or between backticks. -/
theorem passes_written {name : String} (h : IsUnquoted name) : Passes (Name.written name) := by
  rcases Name.written_cases name with hquoted | ⟨hbare, hplain⟩
  · rw [hquoted]
    exact passes_quoted h
  · rw [hbare]
    exact passes_of_not_mem ⟨Name.not_mem_of_isPlain hplain (by decide), h⟩

theorem passes_intercalate {separator : String} (hseparator : Passes separator)
    {codes : List String} (h : ∀ code ∈ codes, Passes code) :
    Passes (separator.intercalate codes) :=
  Text.intercalate_induction passes_empty (fun _ _ hfront hback => hfront.append hback)
    hseparator h

theorem passes_writtenDotted {name : String} (h : IsUnquoted name) :
    Passes (Name.writtenDotted name) := by
  refine passes_intercalate (passes_of_not_mem (by decide)) ?_
  intro code hcode
  obtain ⟨segment, hsegment, rfl⟩ := List.mem_map.mp hcode
  exact passes_written fun hmem => h (Name.mem_of_mem_segments hsegment hmem)

/-- The code of a type is passed over, whatever is imported. -/
theorem passes_typeCode (imports : Imports) {t : TypeExpr} (h : t.EveryName IsUnquoted) :
    Passes (typeCode imports t) := by
  induction h with
  | @mk name arguments nullable hname _ ih =>
    have hfront : Passes (if imports.contains name then Name.written (Name.simple name)
        else Name.writtenDotted name) := by
      split
      · exact passes_written fun hmem =>
          hname (Name.mem_of_mem_segments (Name.simple_mem_segments name) hmem)
      · exact passes_writtenDotted hname
    have harguments : ∀ code ∈ typeArgumentCodes imports arguments, Passes code := by
      rw [typeArgumentCodes_eq_map, List.forall_mem_map]
      intro a ha
      cases a with
      | star =>
        show Passes "*"
        exact passes_of_not_mem (by decide)
      | of variance t =>
        have ht := ih variance t ha
        cases variance with
        | none => exact ht
        | some v =>
          have hword : Passes (v.word ++ " ") := by
            cases v <;> exact passes_of_not_mem (by decide)
          exact hword.append ht
    have hcomma : Passes ", " := passes_of_not_mem (by decide)
    have hopen : Passes "<" := passes_of_not_mem (by decide)
    have hclose : Passes ">" := passes_of_not_mem (by decide)
    rw [typeCode]
    refine (hfront.append ?_).append ?_
    · split
      · exact passes_empty
      · exact (hopen.append (passes_intercalate hcomma harguments)).append hclose
    · split
      · exact passes_of_not_mem (by decide)
      · exact passes_empty

theorem passes_argumentCode (imports : Imports) {a : Argument Expr}
    (hlabel : ∀ n ∈ a.name, IsUnquoted n) (hvalue : Passes (a.value.code imports)) :
    Passes (Expr.argumentCode imports a) := by
  obtain ⟨label, spread, value⟩ := a
  unfold Expr.argumentCode
  refine (Passes.append ?_ ?_).append hvalue
  · cases label with
    | none => exact passes_empty
    | some n => exact (passes_written (hlabel n rfl)).append (passes_of_not_mem (by decide))
  · cases spread with
    | false => exact passes_empty
    | true => exact passes_of_not_mem (by decide)

/-- The code of an expression without a template in it is passed over. -/
theorem passes_code (imports : Imports) {e : Expr} (h : e.Unquoted) :
    Passes (e.code imports) := by
  induction h with
  | name hn => exact passes_written hn
  | type ht => exact passes_typeCode imports ht
  | this =>
    show Passes "this"
    exact passes_of_not_mem (by decide)
  | @member _ _ safe _ hn ih =>
    have haccess : Passes (if safe then "?." else ".") := by
      cases safe <;> exact passes_of_not_mem (by decide)
    exact (ih.append haccess).append (passes_written hn)
  | @call callee types arguments _ htypes hlabels _ ihcallee ihvalues =>
    have hcomma : Passes ", " := passes_of_not_mem (by decide)
    have hopen : Passes "<" := passes_of_not_mem (by decide)
    have hclose : Passes ">" := passes_of_not_mem (by decide)
    have hbegin : Passes "(" := passes_of_not_mem (by decide)
    have hend : Passes ")" := passes_of_not_mem (by decide)
    have htypeCodes : Passes (", ".intercalate (types.map (typeCode imports))) := by
      refine passes_intercalate hcomma (List.forall_mem_map.mpr ?_)
      intro t ht
      exact passes_typeCode imports (htypes t ht)
    have hbrackets : Passes (if types.isEmpty then ""
        else "<" ++ ", ".intercalate (types.map (typeCode imports)) ++ ">") := by
      split
      · exact passes_empty
      · exact (hopen.append htypeCodes).append hclose
    have harguments : Passes (", ".intercalate (Expr.argumentCodes imports arguments)) := by
      rw [Expr.argumentCodes_eq_map]
      refine passes_intercalate hcomma (List.forall_mem_map.mpr ?_)
      intro a ha
      exact passes_argumentCode imports (hlabels a ha) (ihvalues a ha)
    rw [Expr.code]
    exact (((ihcallee.append hbrackets).append hbegin).append harguments).append hend

/-! ### Templates -/

/-- A piece with the code of its expression. -/
def Piece.coded (imports : Imports) : Piece Expr → Piece String
  | .literal text => .literal text
  | .value expr => .value (expr.code imports)

/-- Every expression in the pieces is unquoted. -/
def AllUnquoted (pieces : List (Piece Expr)) : Prop :=
  ∀ e, .value e ∈ pieces → e.Unquoted

/-- The printed pieces are read up to the closing quote. -/
theorem readText_pieceCodes (imports : Imports) {pieces : List (Piece Expr)}
    (h : AllUnquoted pieces) (rest : List Char) :
    readText ((String.join (Expr.pieceCodes imports pieces)).toList ++ '"' :: rest)
      = some (joined (pieces.map (Piece.coded imports)), rest) := by
  induction pieces with
  | nil => rfl
  | cons p pieces ih =>
    have hmore := ih fun e he => h e (List.mem_cons_of_mem _ he)
    rw [Expr.pieceCodes, String.join_cons, String.toList_append, List.append_assoc]
    cases p with
    | literal text =>
      rw [Expr.pieceCode, readText_escaped, hmore]
      rfl
    | value e =>
      have hpasses := passes_code imports (h e List.mem_cons_self)
      have hchars (cs : List Char) : ("$\x7b" ++ e.code imports ++ "\x7d").toList ++ cs
          = '$' :: '\x7b' :: ((e.code imports).toList ++ '\x7d' :: cs) := by
        simp [String.toList_append]
      rw [Expr.pieceCode, hchars, readText, hpasses, readCode]
      simp only [and_self, if_true, hmore]
      simp [codeBefore, joined, Piece.coded]

theorem joined_coded (imports : Imports) (pieces : List (Piece Expr)) :
    joined (pieces.map (Piece.coded imports)) = (joined pieces).map (Piece.coded imports) := by
  induction pieces with
  | nil => rfl
  | cons p pieces ih =>
    cases p with
    | literal text =>
      show prepend text (joined (pieces.map (Piece.coded imports)))
        = (prepend text (joined pieces)).map (Piece.coded imports)
      rw [ih]
      by_cases htext : text = ""
      · simp [htext]
      cases joined pieces with
      | nil => simp [prepend, htext, Piece.coded]
      | cons q others => cases q <;> simp [prepend, htext, Piece.coded]
    | value e => exact congrArg (_ :: ·) ih

/-- **Templates read back.**  Whatever pieces a template is made of, and whatever is imported: its
    printed text is a literal up to its last character, and is read as the pieces, joined.  No text
    in it can end the literal or begin an interpolation, and each is read as itself. -/
theorem template_reads_back (imports : Imports) (pieces : List (Piece Expr))
    (h : AllUnquoted pieces) :
    readLiteral ((Template.ofPieces pieces).code imports).toList
        = some (joined (pieces.map (Piece.coded imports)), []) ∧
      ∀ text, IsClean (escaped text).toList ∧
        readText ((escaped text).toList ++ ['"']) = some (joined [.literal text], []) := by
  constructor
  · have hunquoted : AllUnquoted (Template.ofPieces pieces) := by
      intro e he
      exact h e (value_mem_ofPieces.mp he)
    have hchars : ((Template.ofPieces pieces).code imports).toList
        = '"' :: ((String.join (Expr.pieceCodes imports (Template.ofPieces pieces))).toList
          ++ ['"']) := by
      simp [Template.code, Expr.code, String.toList_append]
    rw [hchars, readLiteral, readText_pieceCodes imports hunquoted, joined_coded, joined_ofPieces,
      ← joined_coded]
  · intro text
    refine ⟨isClean_escaped text, ?_⟩
    rw [readText_escaped, readText]
    rfl

/-- Texts that end in a backslash or a dollar in front of an interpolation, and names that must
    stand between backticks. -/
def edges : List (Piece Expr) :=
  [.literal "cost \\", .literal "", .literal "$", .value (.name "in"), .literal "\"\x01\n$",
    .value (.call (.member .this "a\x7db" true) [.applied "kotlin.List" ["out"]]
      [{ name := some "fun", spread := true, value := .name "it" }])]

theorem template_reads_back_edges :
    AllUnquoted edges ∧
      readLiteral ((Template.ofPieces edges).code (.ofList ["kotlin.List"])).toList
        = some ([.literal "cost \\$", .value "`in`", .literal "\"\x01\n$",
          .value "this?.`a\x7db`<List<out>>(`fun` = *it)"], []) := by
  have hunquoted : AllUnquoted edges := by
    intro e he
    simp only [edges, List.mem_cons, reduceCtorEq, Piece.value.injEq, List.not_mem_nil, or_false,
      false_or] at he
    rcases he with rfl | rfl
    · exact .name (by decide)
    · have hargument : (TypeExpr.named "out").EveryName IsUnquoted := .mk (by decide) (by simp)
      have htype : (TypeExpr.applied "kotlin.List" ["out"]).EveryName IsUnquoted := by
        refine .mk (by decide) ?_
        rintro v t (_ | ⟨_, ⟨⟩⟩)
        exact hargument
      refine .call (.member .this (by decide)) (by simpa using htype) ?_ ?_
      · simp [IsUnquoted]
      · simpa using Expr.Unquoted.name (by decide)
  refine ⟨hunquoted, ?_⟩
  rw [(template_reads_back _ edges hunquoted).1]
  decide

end CompanionSource.Source
