import CompanionSource.Text.Letter

/-! # Pieces of text

    Trimming, leading parts and replacement.  The work is done on lists of characters; the
    functions on strings are the same ones between `toList` and `ofList`. -/

namespace CompanionSource.Text

/-! ### Leading parts -/

/-- The text from its first character on that is not blank. -/
def skipBlanks (cs : List Char) : List Char :=
  cs.dropWhile isBlank

theorem length_dropWhile_le (p : Char → Bool) (cs : List Char) :
    (cs.dropWhile p).length ≤ cs.length :=
  (List.dropWhile_suffix p).length_le

theorem length_skipBlanks_le (cs : List Char) : (skipBlanks cs).length ≤ cs.length :=
  length_dropWhile_le _ _

/-- What follows `lead`, when the text begins with it. -/
def afterChars : (lead text : List Char) → Option (List Char)
  | [], text => some text
  | _ :: _, [] => none
  | l :: lead, c :: text => if l = c then afterChars lead text else none

/-- A text begins with `lead` exactly when it is `lead` and something more. -/
theorem afterChars_eq_some_iff {lead text rest : List Char} :
    afterChars lead text = some rest ↔ text = lead ++ rest := by
  induction lead generalizing text with
  | nil => simp [afterChars, eq_comm]
  | cons l lead ih =>
    cases text with
    | nil => simp [afterChars]
    | cons c text =>
      by_cases h : l = c
      · simp [afterChars, h, ih]
      · simp [afterChars, h, Ne.symm h]

/-! ### Trimming -/

/-- The text without the blanks at its end. -/
def dropBlankEnd (cs : List Char) : List Char :=
  (cs.reverse.dropWhile isBlank).reverse

/-- The text without the blanks at either end. -/
def trimChars (cs : List Char) : List Char :=
  dropBlankEnd (skipBlanks cs)

/-- The text without the blanks at either end. -/
def trim (s : String) : String :=
  String.ofList (trimChars s.toList)

/-- Nothing but blanks, or nothing at all. -/
def isBlankText (s : String) : Bool :=
  s.toList.all isBlank

theorem dropWhile_isBlank_eq_nil_iff {cs : List Char} :
    cs.dropWhile isBlank = [] ↔ ∀ c ∈ cs, isBlank c := by
  induction cs with
  | nil => simp
  | cons c cs ih => by_cases h : isBlank c <;> simp [h, ih]

theorem trimChars_eq_nil_iff {cs : List Char} : trimChars cs = [] ↔ ∀ c ∈ cs, isBlank c := by
  have hall : ∀ l : List Char, dropBlankEnd l = [] ↔ ∀ c ∈ l, isBlank c := by
    intro l
    rw [dropBlankEnd, List.reverse_eq_nil_iff, dropWhile_isBlank_eq_nil_iff]
    simp only [List.mem_reverse]
  rw [trimChars, skipBlanks, hall]
  induction cs with
  | nil => simp
  | cons c cs ih => by_cases h : isBlank c <;> simp [h, ih]

/-- Trimming leaves nothing exactly of a blank text. -/
theorem trim_eq_empty_iff {s : String} : trim s = "" ↔ isBlankText s := by
  rw [trim, ← String.toList_inj, String.toList_ofList]
  simpa [isBlankText] using @trimChars_eq_nil_iff s.toList

/-! ### Replacement -/

/-- The text with every occurrence of the two characters `a`, `b` replaced, from left to
    right. -/
def replacePair (a b : Char) (by_ : List Char) : List Char → List Char
  | [] => []
  | [c] => [c]
  | c :: d :: rest =>
    if c = a ∧ d = b then by_ ++ replacePair a b by_ rest
    else c :: replacePair a b by_ (d :: rest)

end CompanionSource.Text
