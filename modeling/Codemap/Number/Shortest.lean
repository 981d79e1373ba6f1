import Codemap.Number.Binary64
import Codemap.Number.Integer

namespace Codemap

/-!
# The shortest decimal that reads back

A double-precision number is written with the fewest decimal digits that read
back as the same number, and among those with the digits nearest to it.  The
reals that round to `m * 2^q` form an interval around it whose ends belong to it
exactly when `m` is even.  For one, two, and up to seventeen digits the two
neighbours of the number on the grid of that many digits are tested against the
interval; the first grid with a hit decides.
-/

namespace Binary64

/-- A quotient of natural numbers, compared by cross multiplication. -/
structure Quotient where
  num : Nat
  den : Nat

namespace Quotient

/-- The first quotient is smaller. -/
def lt (a b : Quotient) : Bool := a.num * b.den < b.num * a.den

/-- The distance between two quotients. -/
def distance (a b : Quotient) : Quotient :=
  let left := a.num * b.den
  let right := b.num * a.den
  ⟨if left < right then right - left else left - right, a.den * b.den⟩

end Quotient

/-- `m * 2^q / 4` as a quotient; the quarter keeps every end point integral. -/
def quarterUnits (m : Nat) (q : Int) : Quotient :=
  if 2 ≤ q then ⟨m * Nat.pow 2 (q - 2).toNat, 1⟩ else ⟨m, Nat.pow 2 (2 - q).toNat⟩

/-- `digits * 10^exponent` as a quotient. -/
def decimalQuotient (digits : Nat) (exponent : Int) : Quotient :=
  if 0 ≤ exponent then ⟨digits * Nat.pow 10 exponent.toNat, 1⟩
  else ⟨digits, Nat.pow 10 (-exponent).toNat⟩

/-- A decimal lies in the interval of reals that round to the number. -/
def roundsBack (x : Binary64) (candidate : Quotient) : Bool :=
  let m := x.significand
  let q := x.exponent
  let high := quarterUnits (4 * m + 2) q
  let low :=
    if x.fraction = 0 ∧ x.exponentField > 1 then quarterUnits (4 * m - 1) q
    else quarterUnits (4 * m - 2) q
  if m % 2 = 0 then !candidate.lt low && !high.lt candidate
  else low.lt candidate && candidate.lt high

/-- The exponent of the leading decimal digit of a positive quotient. -/
def leadingExponent (value : Quotient) : Int :=
  let digitsOf (n : Nat) : Int := (Nat.toDigits 10 n).length
  let estimate := digitsOf value.num - digitsOf value.den
  if value.lt (decimalQuotient 1 estimate) then estimate - 1 else estimate

/-- The best of the two neighbours of the number on the grid `10^unit`. -/
def neighbour? (x : Binary64) (value : Quotient) (unit : Int) : Option Nat :=
  let scaledDown : Quotient :=
    if 0 ≤ unit then ⟨value.num, value.den * Nat.pow 10 unit.toNat⟩
    else ⟨value.num * Nat.pow 10 (-unit).toNat, value.den⟩
  let below := scaledDown.num / scaledDown.den
  let lower := decimalQuotient below unit
  let upper := decimalQuotient (below + 1) unit
  let lowerFits := below != 0 && x.roundsBack lower
  let upperFits := x.roundsBack upper
  if lowerFits && upperFits then
    let down := lower.distance value
    let up := upper.distance value
    if down.lt up then some below
    else if up.lt down then some (below + 1)
    else if below % 2 = 0 then some below else some (below + 1)
  else if lowerFits then some below
  else if upperFits then some (below + 1)
  else none

/-- Try grids of more and more digits; `fuel` is the number of grids left. -/
def shortestFrom (x : Binary64) (value : Quotient) (top : Int) (count : Nat) :
    Nat → Nat × Int
  | 0 => (0, 0)
  | fuel + 1 =>
      let unit := top - count + 1
      match x.neighbour? value unit with
      | some digits => (digits, unit)
      | none => shortestFrom x value top (count + 1) fuel

/-- The shortest digits of a finite, non-zero magnitude and the exponent of the
last one. -/
def shortest (x : Binary64) : Nat × Int :=
  let (num, den) := x.ratio
  let value : Quotient := ⟨num, den⟩
  shortestFrom x value (leadingExponent value) 1 17

/-- How the digits of a number are laid out. -/
structure Layout where
  /-- Positional notation is used from `10^lowest` up to, but not including,
  `10^highest`. -/
  lowest : Int
  highest : Int
  /-- The least number of digits of an exponent. -/
  exponentDigits : Nat
  /-- Texts of positive infinity and of the number that is not a number. -/
  infinityText : Text
  nanText : Text

/-- Pad a number with zeros on the left. -/
def padded (width n : Nat) : Text :=
  let digits := Text.ofNat n
  List.replicate (width - digits.length) '0' ++ digits

/-- Write the magnitude of a finite number. -/
def layoutMagnitude (layout : Layout) (x : Binary64) : Text :=
  if x.significand = 0 then "0.0".toList
  else
    let (digits, unit) := x.shortest
    let all := Text.ofNat digits
    let text := Text.dropTrailing (· == '0') all
    let point : Int := all.length + unit
    if layout.lowest < point ∧ point ≤ layout.highest then
      if point ≤ 0 then "0.".toList ++ List.replicate (-point).toNat '0' ++ text
      else if (text.length : Int) ≤ point then
        text ++ List.replicate (point.toNat - text.length) '0' ++ ".0".toList
      else text.take point.toNat ++ '.' :: text.drop point.toNat
    else
      let exponent := point - 1
      let lead := match text with
        | [] => []
        | [digit] => [digit]
        | digit :: more => digit :: '.' :: more
      lead ++ ['e', if exponent < 0 then '-' else '+'] ++
        padded layout.exponentDigits exponent.natAbs

/-- Write a number. -/
def write (layout : Layout) (x : Binary64) : Text :=
  if x.isNaN then layout.nanText
  else
    let magnitude := if x.isInfinite then layout.infinityText else x.layoutMagnitude layout
    if x.isNegative then '-' :: magnitude else magnitude

/-- The plain text of a number: positional from a ten-thousandth up to ten to
the sixteenth, otherwise with an exponent of at least two digits. -/
def plainLayout : Layout where
  lowest := -4
  highest := 16
  exponentDigits := 2
  infinityText := "inf".toList
  nanText := "nan".toList

/-- The plain text of a number. -/
def text (x : Binary64) : Text :=
  x.write plainLayout

/-! ## Reading -/

/-- The digits at the front of a text and what follows them. -/
def takeDigits (text : Text) : Text × Text :=
  (text.takeWhile Char.isDigit, text.dropWhile Char.isDigit)

/-- The value of a text of ASCII digits. -/
def digitsValue (digits : Text) : Nat :=
  Text.numberOfDigits 10 (digits.map fun c => c.toNat - 48)

/-- The exponent that a text writes after its significand: nothing at all, or a
mark, an optional sign and at least one digit. -/
def readExponent? : Text → Option Int
  | [] => some 0
  | c :: rest =>
      if c = 'e' ∨ c = 'E' then
        let (negative, digits) := Text.splitSign rest
        if digits.isEmpty || !digits.all Char.isDigit then none
        else some (Text.withSign negative (digitsValue digits))
      else none

/-- Read an unsigned decimal with digits before or after an optional point. -/
def readDecimal? (negative : Bool) (text : Text) : Option Binary64 :=
  let (whole, rest) := takeDigits text
  let (places, rest) := match rest with
    | '.' :: later => takeDigits later
    | _ => ([], rest)
  if whole.isEmpty && places.isEmpty then none
  else
    (readExponent? rest).map fun exponent =>
      let digits := whole ++ places
      ofDecimal negative (digitsValue digits) digits.length (exponent - places.length)

/-- A text in which every digit is an ASCII one. -/
def plainDigits (text : Text) : Text :=
  text.map fun c => match digitValue? c with
    | some value => Char.ofNat (48 + value)
    | none => c

/-- Read a number: an optional sign before a decimal, or before a name of infinity or
of the number that is not a number, in letters of either case.  Blanks may surround
it. -/
def ofText? (text : Text) : Option Binary64 :=
  let (negative, body) := Text.splitSign (plainDigits text.trimNumber)
  let name := body.map Char.toLower
  if name = "inf".toList ∨ name = "infinity".toList then some (infinity negative)
  else if name = "nan".toList then some nan
  else readDecimal? negative body

end Binary64
end Codemap
