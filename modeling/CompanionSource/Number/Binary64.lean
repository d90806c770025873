/-! # Floating point numbers

    Double precision numbers as their 64 bits, and the reading of decimals into them.  All of it
    is arithmetic on natural numbers, so that nothing is left to the hardware. -/

namespace CompanionSource

/-- A double precision number: sign, eleven bits of exponent, 52 bits of fraction. -/
structure Binary64 where
  /-- The bit pattern, the sign first. -/
  bits : UInt64
  deriving DecidableEq, Repr

namespace Binary64

/-! ### Taking numbers apart -/

/-- What the sign bit counts: above exponent and fraction. -/
def signUnit : Nat := Nat.pow 2 63

/-- What the lowest bit of the exponent counts: above the fraction. -/
def exponentUnit : Nat := Nat.pow 2 52

/-- The sign bit. -/
def isNegative (x : Binary64) : Bool := signUnit ≤ x.bits.toNat

/-- The bits of exponent and fraction, as one number. -/
def magnitude (x : Binary64) : Nat := x.bits.toNat % signUnit

/-- The magnitude of infinity: all exponent bits set, no fraction. -/
def infiniteMagnitude : Nat := 0x7FF * exponentUnit

/-- The number is neither finite nor infinite. -/
def isNaN (x : Binary64) : Bool := infiniteMagnitude < x.magnitude

/-- The number is infinite, of either sign. -/
def isInfinite (x : Binary64) : Bool := x.magnitude == infiniteMagnitude

/-- `m` and `q` such that a finite number is `m * 2 ^ q`, up to its sign. -/
def scaled (x : Binary64) : Nat × Int :=
  let e : Nat := x.magnitude / exponentUnit
  let f := x.magnitude % exponentUnit
  if e = 0 then (f, -1074) else (f + exponentUnit, (e : Int) - 1075)

/-! ### Reading decimals -/

/-- The fraction `num / den` rounded to the nearest whole number, a half to the even one. -/
def roundHalfEven (num den : Nat) : Nat :=
  let q := num / den
  let r := num % den
  if 2 * r < den then q
  else if den < 2 * r then q + 1
  else q + q % 2

/-- `n * b ^ e` as a fraction. -/
def powerFraction (n b : Nat) (e : Int) : Nat × Nat :=
  if 0 ≤ e then (n * b.pow e.toNat, 1) else (n, b.pow (-e).toNat)

/-- The exponent of the power of two at or just below the positive fraction `num / den`. -/
def floorLog2 (num den : Nat) : Int :=
  let guess : Int := (num.log2 : Int) - den.log2
  let (a, b) := powerFraction den 2 guess
  if a ≤ num * b then guess else guess - 1

/-- The magnitude of the number nearest to the positive fraction `num / den`, a tie going to the
    even one, and infinity if it lies beyond the last finite number. -/
def nearestMagnitude (num den : Nat) : Nat :=
  let q := max (floorLog2 num den - 52) (-1074)
  let (a, b) := powerFraction den 2 q
  min ((q + 1074).toNat * exponentUnit + roundHalfEven (num * b) a) infiniteMagnitude

/-- The magnitude nearest to `digits * 10 ^ e`.  Far outside the range of exponents the answer is
    known without computing the power. -/
def decimalMagnitude (digits : Nat) (e : Int) : Nat :=
  let size : Int := (Nat.toDigits 10 digits).length + e
  if digits = 0 ∨ size < -400 then 0
  else if 400 < size then infiniteMagnitude
  else
    let (num, den) := powerFraction digits 10 e
    nearestMagnitude num den

/-- The number with the given sign and magnitude. -/
def ofMagnitude (negative : Bool) (magnitude : Nat) : Binary64 :=
  ⟨(magnitude + if negative then signUnit else 0).toUInt64⟩

/-- The number nearest to `digits * 10 ^ e`, with a sign. -/
def ofDecimal (negative : Bool) (digits : Nat) (e : Int) : Binary64 :=
  ofMagnitude negative (decimalMagnitude digits e)

/-- The number nearest to a whole number. -/
def ofInt (i : Int) : Binary64 :=
  ofDecimal (i < 0) i.natAbs 0

/-- Infinity with a sign. -/
def infinity (negative : Bool) : Binary64 := ofMagnitude negative infiniteMagnitude

/-- The quiet number that is not a number, with a sign. -/
def nan (negative : Bool) : Binary64 := ofMagnitude negative (infiniteMagnitude + exponentUnit / 2)

end Binary64

end CompanionSource
