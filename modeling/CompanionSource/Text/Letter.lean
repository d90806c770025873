import CompanionSource.Text.Ranges

/-! # Character classes

    Letters, digits, blanks and control characters, over all of Unicode.  Identifiers are read
    and checked with the first two, trimming and blank names with the third, and literals
    escape the fourth. -/

namespace CompanionSource.Text

/-- The property Alphabetic. -/
def isLetter (c : Char) : Bool :=
  if c.toNat < 128 then c.isAlpha else inRanges alphabeticRanges c.toNat

/-- A decimal digit, a letter number or any other numeric sign (Nd, Nl, No). -/
def isNumeral (c : Char) : Bool :=
  if c.toNat < 128 then c.isDigit else inRanges numericRanges c.toNat

/-- The code points with the property White_Space. -/
def blankPoints : List Nat :=
  [0x9, 0xA, 0xB, 0xC, 0xD, 0x20, 0x85, 0xA0, 0x1680, 0x2000, 0x2001, 0x2002, 0x2003, 0x2004,
    0x2005, 0x2006, 0x2007, 0x2008, 0x2009, 0x200A, 0x2028, 0x2029, 0x202F, 0x205F, 0x3000]

/-- The property White_Space. -/
def isBlank (c : Char) : Bool :=
  blankPoints.contains c.toNat

/-- The general category Cc. -/
def isControl (c : Char) : Bool :=
  c.toNat < 0x20 || (0x7F ≤ c.toNat && c.toNat < 0xA0)

/-- What an identifier may begin with. -/
def startsName (c : Char) : Bool :=
  c == '_' || isLetter c

/-- What an identifier may go on with. -/
def continuesName (c : Char) : Bool :=
  c == '_' || isLetter c || isNumeral c

theorem continuesName_of_startsName {c : Char} (h : startsName c) : continuesName c := by
  simp only [startsName, continuesName, Bool.or_eq_true] at h ⊢
  exact .inl h

/-- What goes on with no identifier begins none. -/
theorem startsName_eq_false {c : Char} (h : continuesName c = false) : startsName c = false := by
  rw [Bool.eq_false_iff] at h ⊢
  exact mt continuesName_of_startsName h

/-- No blank belongs to an identifier. -/
theorem not_continuesName_of_isBlank {c : Char} (h : isBlank c) : continuesName c = false := by
  have h' : c.toNat ∈ blankPoints := by simpa [isBlank] using h
  have key : ∀ n ∈ blankPoints, continuesName (Char.ofNat n) = false := by decide +kernel
  simpa using key _ h'

/-- None of the given characters belongs to an identifier. -/
theorem not_continuesName_of_mem {c : Char}
    (h : c ∈ ['`', '.', '<', '>', ',', '?', '*', ':', '/', '"', '$', '\x7b', '\x7d', '(', ')', '\\']) :
    continuesName c = false := by
  rw [← Bool.not_eq_true']
  exact (List.all_eq_true (p := fun c => !continuesName c)).mp (by decide +kernel) c h

end CompanionSource.Text
