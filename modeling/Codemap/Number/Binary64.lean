namespace Codemap

/-!
# Double-precision numbers

A double-precision number is its sixty-four bits, so equality of numbers in this
library is equality of representations: the two zeros differ and a number that
is not a number equals itself.  Arithmetic is defined on the rational value
`m * 2^q` that the bits denote, followed by one rounding to the nearest
representable value with ties to the even significand.
-/

/-- A double-precision number, given by its bits. -/
structure Binary64 where
  bits : UInt64
deriving DecidableEq, Repr, Inhabited

namespace Binary64

/-! ## Taking a number apart -/

/-- The sign bit is set. -/
def isNegative (x : Binary64) : Bool :=
  x.bits.toNat / Nat.pow 2 63 == 1

/-- The biased exponent field. -/
def exponentField (x : Binary64) : Nat :=
  x.bits.toNat / Nat.pow 2 52 % Nat.pow 2 11

/-- The significand field without its implicit bit. -/
def fraction (x : Binary64) : Nat :=
  x.bits.toNat % Nat.pow 2 52

/-- The number is not a number. -/
def isNaN (x : Binary64) : Bool :=
  x.exponentField == 2047 && x.fraction != 0

/-- The number is one of the two infinities. -/
def isInfinite (x : Binary64) : Bool :=
  x.exponentField == 2047 && x.fraction == 0

/-- The integer significand `m` of the magnitude `m * 2^q`. -/
def significand (x : Binary64) : Nat :=
  if x.exponentField = 0 then x.fraction else x.fraction + Nat.pow 2 52

/-- The exponent `q` of the magnitude `m * 2^q`. -/
def exponent (x : Binary64) : Int :=
  if x.exponentField = 0 then -1074 else (x.exponentField : Int) - 1075

/-- The magnitude as a quotient of natural numbers. -/
def ratio (x : Binary64) : Nat × Nat :=
  if 0 ≤ x.exponent then (x.significand * Nat.pow 2 x.exponent.toNat, 1)
  else (x.significand, Nat.pow 2 (-x.exponent).toNat)

/-! ## Putting a number together -/

/-- Build a number from a sign and the bits of its magnitude. -/
def ofMagnitude (negative : Bool) (magnitude : Nat) : Binary64 :=
  ⟨UInt64.ofNat (magnitude + if negative then Nat.pow 2 63 else 0)⟩

/-- The infinity of the given sign. -/
def infinity (negative : Bool) : Binary64 :=
  ofMagnitude negative (2047 * Nat.pow 2 52)

/-- The number that is not a number. -/
def nan : Binary64 :=
  ofMagnitude false (2047 * Nat.pow 2 52 + Nat.pow 2 51)

/-- The zero of the given sign. -/
def zero (negative : Bool) : Binary64 :=
  ofMagnitude negative 0

/-- The integer nearest to `num / den`, ties to the even one. -/
def roundDiv (num den : Nat) : Nat :=
  let quotient := num / den
  let twice := 2 * (num % den)
  if twice < den then quotient
  else if twice > den then quotient + 1
  else if quotient % 2 = 0 then quotient else quotient + 1

/-- `num / den` in units of `2^q`, as a quotient of natural numbers. -/
def scaled (num den : Nat) (q : Int) : Nat × Nat :=
  if 0 ≤ q then (num, den * Nat.pow 2 q.toNat) else (num * Nat.pow 2 (-q).toNat, den)

/-- The number nearest to the quotient `num / den` with the given sign. -/
def ofRatio (negative : Bool) (num den : Nat) : Binary64 :=
  if num = 0 ∨ den = 0 then zero negative
  else
    let estimate : Int := (num.log2 : Int) - den.log2 - 53
    let coarse := scaled num den estimate
    let normal := if coarse.1 / coarse.2 ≥ Nat.pow 2 53 then estimate + 1 else estimate
    let q := max normal (-1074)
    let units := scaled num den q
    let rounded := roundDiv units.1 units.2
    let (m, q) := if rounded = Nat.pow 2 53 then (Nat.pow 2 52, q + 1) else (rounded, q)
    if q > 971 then infinity negative
    else if m < Nat.pow 2 52 then ofMagnitude negative m
    else ofMagnitude negative ((q + 1075).toNat * Nat.pow 2 52 + (m - Nat.pow 2 52))

/-- The number nearest to an integer. -/
def ofInt (n : Int) : Binary64 :=
  ofRatio (decide (n < 0)) n.natAbs 1

/-- The number nearest to `digits * 10^exponent`, where `count` is the number of
digits.  Exponents far outside the representable range are decided without
computing the power of ten. -/
def ofDecimal (negative : Bool) (digits : Nat) (count : Nat) (exponent : Int) : Binary64 :=
  if digits = 0 then zero negative
  else if (count : Int) + exponent < -400 then zero negative
  else if exponent > 400 then infinity negative
  else if 0 ≤ exponent then ofRatio negative (digits * Nat.pow 10 exponent.toNat) 1
  else ofRatio negative digits (Nat.pow 10 (-exponent).toNat)

/-! ## Arithmetic -/

/-- The same magnitude with the opposite sign. -/
def negate (x : Binary64) : Binary64 :=
  if x.isNegative then ⟨x.bits - 0x8000000000000000⟩ else ⟨x.bits + 0x8000000000000000⟩

/-- The numerator of the value with its sign; the denominator is that of `ratio`. -/
def signedNumerator (x : Binary64) : Int :=
  if x.isNegative then -(x.ratio.1 : Int) else x.ratio.1

/-- The rounded sum.  Infinities of opposite signs have none. -/
def add (x y : Binary64) : Binary64 :=
  if x.isNaN || y.isNaN then nan
  else if x.isInfinite then
    if y.isInfinite && x.isNegative != y.isNegative then nan else x
  else if y.isInfinite then y
  else
    let sum := x.signedNumerator * y.ratio.2 + y.signedNumerator * x.ratio.2
    if sum = 0 then zero (x.isNegative && y.isNegative)
    else ofRatio (decide (sum < 0)) sum.natAbs (x.ratio.2 * y.ratio.2)

/-- The rounded product.  Zero and infinity have none. -/
def mul (x y : Binary64) : Binary64 :=
  let negative := x.isNegative != y.isNegative
  if x.isNaN || y.isNaN then nan
  else if x.isInfinite || y.isInfinite then
    if x.significand = 0 || y.significand = 0 then nan else infinity negative
  else ofRatio negative (x.ratio.1 * y.ratio.1) (x.ratio.2 * y.ratio.2)

/-! ## Comparison of values -/

/-- The two numbers have the same value: equal bits, or two zeros; a number that
is not a number has the value of none. -/
def sameValue (x y : Binary64) : Bool :=
  !x.isNaN && (x == y || (x.significand == 0 && y.significand == 0 &&
    x.exponentField == 0 && y.exponentField == 0))

/-- The number is finite and its value is this integer. -/
def equalsInt (x : Binary64) (n : Int) : Bool :=
  let (num, den) := x.ratio
  x.exponentField != 2047 && num == n.natAbs * den &&
    (n == 0 || x.isNegative == decide (n < 0))

end Binary64
end Codemap
