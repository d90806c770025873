import CompanionSource.Number.Binary64

/-! # Shortest decimal text

    A finite number is written with the fewest decimal digits that read back as the same
    number, and among those with the digits nearest to it.

    * **Interval**: the decimals that read back as `m * 2 ^ q` reach half way to either
      neighbour, the ends included if `m` is even.  Below a power of two the lower neighbour is
      twice as near.
    * **Grid**: with `n` digits, only the two grid points around the number can be the nearest
      decimal.  The first `n` for which one of them lies in the interval wins; of two, the
      nearer, and on a tie the upper. -/

namespace CompanionSource.Binary64

/-! ### Digits -/

/-- The number of decimal digits of `n`. -/
def digitCount (n : Nat) : Nat := (Nat.toDigits 10 n).length

/-- The exponent of the power of ten at or just below the positive fraction `num / den`. -/
def floorLog10 (num den : Nat) : Int :=
  if den ≤ num then (digitCount (num / den) : Int) - 1
  else -(digitCount ((den - 1) / num) : Int)

/-- The fractions that read back as one number. -/
structure ReadBack where
  /-- The number itself is `value / den`. -/
  value : Nat
  /-- The lower end is `low / den`. -/
  low : Nat
  /-- The upper end is `high / den`. -/
  high : Nat
  /-- The common denominator. -/
  den : Nat
  /-- The ends belong to the interval. -/
  closed : Bool

/-- The fractions that read back as `m * 2 ^ q`. -/
def readBack (m : Nat) (q : Int) : ReadBack :=
  let below := if m = exponentUnit then 1 else 2
  let (scale, den) := powerFraction 1 2 (q - 2)
  { value := 4 * m * scale
    low := (4 * m - below) * scale
    high := (4 * m + 2) * scale
    den
    closed := m % 2 == 0 }

/-- The fraction `num / den` lies in the interval. -/
def ReadBack.admits (r : ReadBack) (num den : Nat) : Bool :=
  let x := num * r.den
  let low := r.low * den
  let high := r.high * den
  if r.closed then low ≤ x && x ≤ high else low < x && x < high

/-- The best decimal `d * 10 ^ k` with `n` digits that lies in the interval, if there is one. -/
def ReadBack.onGrid? (r : ReadBack) (n : Nat) : Option (Nat × Int) :=
  let k : Int := floorLog10 r.value r.den - n + 1
  let (up, down) := powerFraction 1 10 k
  let lower := r.value * down / (r.den * up)
  let admitted (d : Nat) : Bool := r.admits (d * up) down
  let remainder := r.value * down % (r.den * up)
  match admitted lower, admitted (lower + 1) with
  | false, false => none
  | true, false => some (lower, k)
  | false, true => some (lower + 1, k)
  | true, true => some (if 2 * remainder < r.den * up then lower else lower + 1, k)

/-- The shortest digits of a positive number `m * 2 ^ q`: `d` and `k` that write it as
    `d * 10 ^ k`.  Seventeen digits are always enough. -/
def shortestDigits (m : Nat) (q : Int) : Nat × Int :=
  let r := readBack m q
  ((List.range 17).findSome? fun n => r.onGrid? (n + 1)).getD (0, 0)

/-! ### Layout -/

/-- The digits of `d`, without zeros at the end. -/
def significantDigits (d : Nat) : List Char :=
  ((Nat.toDigits 10 d).reverse.dropWhile (· == '0')).reverse

/-- The exponents of the first digit for which numbers are written out in full: from `0.0001`
    up to, but not including, `10 ^ 16`. -/
def isPositional (e : Int) : Bool := -4 ≤ e && e < 16

/-- The digits, the first of which counts `10 ^ e`, written out in full.  There is always a digit
    after the point. -/
def positionalText (ds : List Char) (e : Int) : List Char :=
  if e < 0 then '0' :: '.' :: List.replicate ((-e).toNat - 1) '0' ++ ds
  else
    let whole := e.toNat + 1
    let fraction := ds.drop whole
    (ds.take whole ++ List.replicate (whole - ds.length) '0')
      ++ '.' :: (if fraction.isEmpty then ['0'] else fraction)

/-- The digits, the first of which counts `10 ^ e`, with an exponent. -/
def exponentText (ds : List Char) (e : Int) : List Char :=
  (match ds with
    | [] => []
    | [d] => [d]
    | d :: more => d :: '.' :: more)
    ++ 'e' :: (toString e).toList

/-- The text of a positive number `m * 2 ^ q`. -/
def positiveText (m : Nat) (q : Int) : List Char :=
  let (d, k) := shortestDigits m q
  let ds := significantDigits d
  let e : Int := k + digitCount d - 1
  if isPositional e then positionalText ds e else exponentText ds e

/-- The text of a number. -/
def text (x : Binary64) : String :=
  if x.isNaN then "NaN"
  else
    let sign := if x.isNegative then "-" else ""
    if x.isInfinite then sign ++ "inf"
    else if x.magnitude = 0 then sign ++ "0.0"
    else sign ++ String.ofList (positiveText x.scaled.1 x.scaled.2)

end CompanionSource.Binary64
