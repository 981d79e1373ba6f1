import Codemap.Limits
import Codemap.Text.Digit

namespace Codemap

/-!
# Integers as text

An integer is written in decimal with a minus sign before a negative one.  What
is accepted on reading is wider: surrounding blanks, a sign of either kind,
digits of any script, and single underscores between digits.
-/

namespace Text

/-- The decimal digits of a natural number. -/
def ofNat (n : Nat) : Text :=
  Nat.toDigits 10 n

/-- The decimal digits of an integer, after a minus sign if it is negative. -/
def ofInt : Int → Text
  | .ofNat n => ofNat n
  | .negSucc n => '-' :: ofNat (n + 1)

/-- An integer has more decimal digits than the limit, and is not written. -/
def isTooLong (n : Int) : Bool :=
  digitLimit < (ofNat n.natAbs).length

/-- The number written by a list of digit values, most significant first. -/
def numberOfDigits (base : Nat) (digits : List Nat) : Nat :=
  digits.foldl (fun value digit => value * base + digit) 0

/-- A text without its sign, and whether the sign is a minus. -/
def splitSign : Text → Bool × Text
  | '-' :: rest => (true, rest)
  | '+' :: rest => (false, rest)
  | text => (false, text)

/-- Give a magnitude the sign that was read. -/
def withSign (negative : Bool) (magnitude : Nat) : Int :=
  if negative then -(magnitude : Int) else magnitude

/-- The blanks that may surround a number.  The separators of files, groups,
records and units are not among them. -/
def isNumberBlank (c : Char) : Bool :=
  isBlank c && !(28 ≤ c.toNat && c.toNat ≤ 31)

/-- A text without the blanks around a number. -/
def trimNumber (text : Text) : Text :=
  Text.dropTrailing isNumberBlank (text.dropWhile isNumberBlank)

/-- The value of a digit of any script, or of a letter that continues the digits. -/
def digitOrLetterValue? (c : Char) : Option Nat :=
  let n := c.toNat
  if 97 ≤ n ∧ n ≤ 122 then some (n - 87)
  else if 65 ≤ n ∧ n ≤ 90 then some (n - 55)
  else digitValue? c

/-- The value of a digit to a base. -/
def digitIn? (base : Nat) (c : Char) : Option Nat :=
  (digitOrLetterValue? c).bind fun value => if value < base then some value else none

/-- The digit values of a text of digits to a base in which single underscores may
stand between two digits.  `digitBefore` says that a digit precedes. -/
def groupedDigits? (base : Nat) (digitBefore : Bool) : Text → Option (List Nat)
  | [] => if digitBefore then some [] else none
  | '_' :: rest => if digitBefore then groupedDigits? base false rest else none
  | c :: rest =>
      match digitIn? base c with
      | some value => (groupedDigits? base true rest).map (value :: ·)
      | none => none

/-- The digits after the mark of a base, which an underscore may follow. -/
def dropBaseMark (base : Nat) (text : Text) : Text :=
  match text with
  | '0' :: mark :: rest =>
      let marks : List Char :=
        if base = 2 then ['b', 'B'] else if base = 8 then ['o', 'O']
        else if base = 16 then ['x', 'X'] else []
      if marks.contains mark then
        match rest with
        | '_' :: digits => digits
        | _ => rest
      else text
  | _ => text

/-- Why a text writes no integer. -/
inductive IntegerFault where
  | notAnInteger
  | tooManyDigits (count : Nat)
deriving DecidableEq, Repr, Inhabited

/-- Read an integer to a base.  Reading digits is limited only where the base is not
a power of two, since only then its cost grows faster than their number. -/
def readInteger (base : Nat) (text : Text) : Except IntegerFault Int :=
  let (negative, body) := splitSign text.trimNumber
  match groupedDigits? base false (dropBaseMark base body) with
  | some digits =>
      if base = 10 ∧ digitLimit < digits.length then .error (.tooManyDigits digits.length)
      else .ok (withSign negative (numberOfDigits base digits))
  | none => .error .notAnInteger

/-- Read a decimal integer; nothing if the text does not write one or has more digits
than the limit. -/
def readInteger? (text : Text) : Option Int :=
  (readInteger 10 text).toOption

end Text
end Codemap
