import CompanionSource.Proofs.Source.Template

/-! # Literals read back

    A reader of double-quoted literals, by the rules of the printed language and not by those of
    the printer, and what it makes of printed text.

    * The **reader** decodes escapes, lets `$` with an opening brace begin an interpolation, and
      ends at the first quote that is not escaped.  It refuses any other dollar and any other
      escape.
    * An **interpolation** ends at the first closing brace that stands outside backticks.  The
      reader does not look into the code in front of it.
    * **Printed text** is read as the text it was printed for, and nothing in it can end the
      literal or begin an interpolation. -/

namespace CompanionSource.Source

/-! ### The reader -/

/-- The value of a hexadecimal digit. -/
def hexValue? (c : Char) : Option Nat :=
  if '0' ≤ c ∧ c ≤ '9' then some (c.toNat - 48)
  else if 'a' ≤ c ∧ c ≤ 'f' then some (c.toNat - 87)
  else if 'A' ≤ c ∧ c ≤ 'F' then some (c.toNat - 55)
  else none

/-- The character whose code point has these four digits. -/
def decodedPoint? (a b c d : Char) : Option Char := do
  let n := 4096 * (← hexValue? a) + 256 * (← hexValue? b) + 16 * (← hexValue? c) + (← hexValue? d)
  if n.isValidChar then some (Char.ofNat n) else none

/-- The character that a backslash and this one stand for. -/
def decoded? : Char → Option Char
  | '\\' => some '\\'
  | '"' => some '"'
  | '$' => some '$'
  | 'n' => some '\n'
  | 'r' => some '\r'
  | 't' => some '\t'
  | 'b' => some '\x08'
  | _ => none

/-- What was read, with literal text in front of it. -/
def textBefore (text : String) (read : Option (List (Piece String) × List Char)) :
    Option (List (Piece String) × List Char) :=
  read.map fun (pieces, rest) => (prepend text pieces, rest)

/-- What was read from inside an interpolation, with code in front of it. -/
def codeBefore (code : String) (read : Option (String × List (Piece String) × List Char)) :
    Option (String × List (Piece String) × List Char) :=
  read.map fun (more, pieces, rest) => (code ++ more, pieces, rest)

mutual

/-- The pieces up to the closing quote, and what is left behind it. -/
def readText : List Char → Option (List (Piece String) × List Char)
  | [] => none
  | '"' :: rest => some ([], rest)
  | '$' :: '\x7b' :: cs =>
    (readCode false cs).map fun (code, pieces, rest) => (.value code :: pieces, rest)
  | '$' :: _ => none
  | '\\' :: 'u' :: a :: b :: c :: d :: cs =>
    (decodedPoint? a b c d).bind fun point => textBefore (String.singleton point) (readText cs)
  | '\\' :: c :: cs =>
    (decoded? c).bind fun char => textBefore (String.singleton char) (readText cs)
  | c :: cs => textBefore (String.singleton c) (readText cs)

/-- The code up to the brace that closes an interpolation, the pieces behind it up to the closing
    quote, and what is left.  `quoted` tells if a backtick is open. -/
def readCode (quoted : Bool) : List Char → Option (String × List (Piece String) × List Char)
  | [] => none
  | c :: cs =>
    if c = '\x7d' ∧ quoted = false then (readText cs).map fun (pieces, rest) => ("", pieces, rest)
    else codeBefore (String.singleton c) (readCode (if c = '`' then !quoted else quoted) cs)

end

/-- The pieces of a literal, and what is left behind it. -/
def readLiteral : List Char → Option (List (Piece String) × List Char)
  | '"' :: cs => readText cs
  | _ => none

/-! ### Printed text is read -/

theorem textBefore_textBefore (first second : String)
    (read : Option (List (Piece String) × List Char)) :
    textBefore first (textBefore second read) = textBefore (first ++ second) read := by
  cases read with
  | none => rfl
  | some found => simp [textBefore, prepend_append]

theorem hexValue?_hexDigit : ∀ d < 16, hexValue? (hexDigit d) = some d := by
  decide

/-- Four hexadecimal digits give back the character they were written for. -/
theorem decodedPoint?_hexDigits {c : Char} (h : c.toNat < 65536) :
    ∃ d₃ d₂ d₁ d₀, hexDigits 4 c.toNat = [d₃, d₂, d₁, d₀] ∧ decodedPoint? d₃ d₂ d₁ d₀ = some c := by
  have hvalue (n : Nat) : hexValue? (hexDigit (n % 16)) = some (n % 16) :=
    hexValue?_hexDigit _ (Nat.mod_lt _ (by decide))
  have hsum : 4096 * (c.toNat / 16 / 16 / 16 % 16) + 256 * (c.toNat / 16 / 16 % 16)
      + 16 * (c.toNat / 16 % 16) + c.toNat % 16 = c.toNat := by omega
  have hvalid : c.toNat.isValidChar := c.valid
  refine ⟨_, _, _, _, rfl, ?_⟩
  simp only [decodedPoint?, hvalue, Option.bind_eq_bind, Option.bind_some, hsum, hvalid, if_true,
    Char.ofNat_toNat]

theorem toNat_lt_of_isControl {c : Char} (h : Text.isControl c) : c.toNat < 65536 := by
  simp only [Text.isControl, Bool.or_eq_true, Bool.and_eq_true, decide_eq_true_eq] at h
  omega

/-- How a character can stand in a literal. -/
inductive Printed (c : Char) : List Char → Prop
  /-- Behind a backslash. -/
  | marked (h : c ∈ ['\\', '"', '$']) : Printed c ['\\', c]
  /-- By the letter of its escape. -/
  | short {letter : Char} (h : (c, letter) ∈ shortEscapes) : Printed c ['\\', letter]
  /-- By its code point. -/
  | point (h : Text.isControl c) : Printed c ('\\' :: 'u' :: hexDigits 4 c.toNat)
  /-- As it is. -/
  | plain (hmarked : c ∉ ['\\', '"', '$']) (hcontrol : ¬Text.isControl c) : Printed c [c]

theorem printed_escapedChar (c : Char) : Printed c (escapedChar c) := by
  unfold escapedChar
  split
  · next hmarked => exact .marked (by simpa using hmarked)
  · next hmarked =>
    split
    · next letter hshort =>
      obtain ⟨before, after, hsplit, -⟩ := List.lookup_eq_some_iff.mp hshort
      exact .short (by simp [hsplit])
    · split
      · next hcontrol => exact .point hcontrol
      · next hcontrol => exact .plain (by simpa using hmarked) hcontrol

/-- One printed character is read as itself. -/
theorem readText_printed {c : Char} {chars : List Char} (h : Printed c chars) (cs : List Char) :
    readText (chars ++ cs) = textBefore (String.singleton c) (readText cs) := by
  cases h with
  | marked h =>
    simp only [List.mem_cons, List.not_mem_nil, or_false] at h
    rcases h with rfl | rfl | rfl
    · rfl
    · rfl
    · rfl
  | short h =>
    simp only [shortEscapes, List.mem_cons, Prod.mk.injEq, List.not_mem_nil, or_false] at h
    rcases h with ⟨rfl, rfl⟩ | ⟨rfl, rfl⟩ | ⟨rfl, rfl⟩ | ⟨rfl, rfl⟩
    · rfl
    · rfl
    · rfl
    · rfl
  | point h =>
    obtain ⟨d₃, d₂, d₁, d₀, hdigits, hpoint⟩ := decodedPoint?_hexDigits (toNat_lt_of_isControl h)
    rw [hdigits]
    simp [readText, hpoint]
  | plain hmarked =>
    simp only [List.mem_cons, List.not_mem_nil, or_false, not_or] at hmarked
    obtain ⟨hbackslash, hquote, hdollar⟩ := hmarked
    rw [List.singleton_append, readText]
    all_goals simp_all

/-- A printed text is read as itself. -/
theorem readText_escapedChars (text cs : List Char) :
    readText (escapedChars text ++ cs) = textBefore (String.ofList text) (readText cs) := by
  induction text with
  | nil =>
    show readText cs = (readText cs).map fun (pieces, rest) => (pieces, rest)
    simp
  | cons c text ih =>
    have hchars : escapedChars (c :: text) ++ cs = escapedChar c ++ (escapedChars text ++ cs) := by
      simp [escapedChars]
    rw [hchars, readText_printed (printed_escapedChar c), ih, textBefore_textBefore,
      String.ofList_cons]

theorem readText_escaped (text : String) (cs : List Char) :
    readText ((escaped text).toList ++ cs) = textBefore text (readText cs) := by
  rw [escaped, String.toList_ofList, readText_escapedChars, String.ofList_toList]

/-! ### Escapes in printed text -/

/-- The characters of a printed text that belong to no pair of a backslash and what it escapes. -/
def unescaped : List Char → List Char
  | '\\' :: _ :: cs => unescaped cs
  | c :: cs => c :: unescaped cs
  | [] => []

theorem unescaped_cons {c : Char} (hc : c ≠ '\\') (cs : List Char) :
    unescaped (c :: cs) = c :: unescaped cs := by
  rw [unescaped]
  simp [hc]

/-- The text can stand between quotes: it has no control character, and neither a quote nor a
    dollar that is not escaped. -/
structure IsClean (cs : List Char) : Prop where
  no_control : ∀ c ∈ cs, ¬Text.isControl c
  no_quote : '"' ∉ unescaped cs
  no_dollar : '$' ∉ unescaped cs

/-- The digits of a code point need no escape. -/
theorem hexDigit_clean : ∀ d < 16, ¬Text.isControl (hexDigit d) ∧
    hexDigit d ≠ '\\' ∧ hexDigit d ≠ '"' ∧ hexDigit d ≠ '$' := by
  decide

theorem mem_hexDigits {width n : Nat} {c : Char} (h : c ∈ hexDigits width n) :
    ∃ d < 16, c = hexDigit d := by
  induction width generalizing n with
  | zero => cases h
  | succ width ih =>
    rcases List.mem_append.mp h with h | h
    · exact ih h
    · exact ⟨_, Nat.mod_lt _ (by decide), List.mem_singleton.mp h⟩

theorem IsClean.cons {c : Char} {cs : List Char} (h : IsClean cs) (hcontrol : ¬Text.isControl c)
    (hc : c ∉ ['\\', '"', '$']) : IsClean (c :: cs) := by
  simp only [List.mem_cons, List.not_mem_nil, or_false, not_or] at hc
  obtain ⟨hbackslash, hquote, hdollar⟩ := hc
  refine ⟨?_, ?_, ?_⟩
  · exact List.forall_mem_cons.mpr ⟨hcontrol, h.no_control⟩
  · rw [unescaped_cons hbackslash]
    simp [h.no_quote, Ne.symm hquote]
  · rw [unescaped_cons hbackslash]
    simp [h.no_dollar, Ne.symm hdollar]

theorem IsClean.pair {c : Char} {cs : List Char} (h : IsClean cs) (hcontrol : ¬Text.isControl c) :
    IsClean ('\\' :: c :: cs) := by
  refine ⟨?_, h.no_quote, h.no_dollar⟩
  exact List.forall_mem_cons.mpr ⟨by decide, List.forall_mem_cons.mpr ⟨hcontrol, h.no_control⟩⟩

theorem IsClean.append_digits {cs digits : List Char} (h : IsClean cs)
    (hdigits : ∀ c ∈ digits, ∃ d < 16, c = hexDigit d) : IsClean (digits ++ cs) := by
  induction digits with
  | nil => exact h
  | cons c digits ih =>
    obtain ⟨⟨d, hd, rfl⟩, hmore⟩ := List.forall_mem_cons.mp hdigits
    obtain ⟨hcontrol, hbackslash, hquote, hdollar⟩ := hexDigit_clean d hd
    exact (ih hmore).cons hcontrol (by simp [hbackslash, hquote, hdollar])

theorem IsClean.append_printed {c : Char} {chars cs : List Char} (h : IsClean cs)
    (hprinted : Printed c chars) : IsClean (chars ++ cs) := by
  cases hprinted with
  | marked hmarked =>
    have hcontrol : ['\\', '"', '$'].all (fun c => !Text.isControl c) = true := by decide
    exact h.pair (by simpa using List.all_eq_true.mp hcontrol c hmarked)
  | @short letter hshort =>
    have hcontrol : ∀ p ∈ shortEscapes, ¬Text.isControl p.2 := by decide
    exact h.pair (hcontrol (c, letter) hshort)
  | point => exact (h.append_digits fun _ => mem_hexDigits).pair (by decide)
  | plain hmarked hcontrol => exact h.cons hcontrol hmarked

theorem isClean_escaped (text : String) : IsClean (escaped text).toList := by
  rw [escaped, String.toList_ofList]
  induction text.toList with
  | nil => exact ⟨List.forall_mem_nil _, List.not_mem_nil, List.not_mem_nil⟩
  | cons c cs ih =>
    rw [escapedChars, List.flatMap_cons]
    exact IsClean.append_printed ih (printed_escapedChar c)

end CompanionSource.Source
