import Codemap.Text.Basic

namespace Codemap
namespace Yaml

/-!
# Why a document cannot be read

A document is malformed when its text breaks the rules of the format, or when a
value in it breaks the rules for composing values: an unknown anchor, a second
document, a key that cannot be a key.  Beside that, a scalar may be recognised by
the shape of its text and still write no value, such as the thirteenth month.
And a document may be nested more deeply than the stack of the program allows.
These kinds are kept apart, because a caller may treat malformed text as ordinary
text and still be stopped by an impossible scalar.
-/

/-- Why a scalar of a recognised shape has no value. -/
inductive ScalarFault where
  /-- No digits where an integer to this base has to stand. -/
  | notAnInteger (base : Nat) (text : Text)
  | tooManyDigits (count : Nat)
  | notAFloat (text : Text)
  | emptyNumber
  | unknownTruth (text : Text)
  | notATimestamp
  /-- A mapping stands for a moment by its default value. -/
  | timestampOfMapping
  | yearOutOfRange (year : Nat)
  | monthOutOfRange
  | dayOutOfRange
  | hourOutOfRange
  | minuteOutOfRange
  | secondOutOfRange
  | offsetOutOfRange
  /-- A group of a number to the base sixty weighs more than any number with a point. -/
  | weightTooLarge
  | noSuchCodePoint
  | codePointTooLarge
deriving DecidableEq, Repr, Inhabited

/-- Why a document cannot be read. -/
inductive Fault where
  | malformed
  | scalar (why : ScalarFault)
  /-- Collections, merged mappings or default values are nested more deeply than there is
  room for, or without end. -/
  | nestedTooDeeply
deriving DecidableEq, Repr, Inhabited

end Yaml
end Codemap
