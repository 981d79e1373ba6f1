import Codemap.Text.Basic

namespace Codemap
namespace Yaml

/-!
# What scalars hold

A document is a text, and most scalars hold a part of it.  But an escape may name any code
point, and the surrogates among them are no characters.  They stand for nothing by themselves;
only where a text is compared, written or used as the name of a file do they make a difference.
-/

/-- What a scalar holds.  Escapes may name surrogates, which are code points but no characters;
a text with surrogates is torn and kept as its code points. -/
inductive Content where
  | whole (text : Text)
  | torn (points : List Nat)
deriving DecidableEq, Repr, Inhabited

namespace Content

/-- A code point that is no character. -/
def isSurrogate (point : Nat) : Bool :=
  0xD800 ≤ point && point < 0xE000

/-- What is made of code points. -/
def ofPoints (points : List Nat) : Content :=
  if points.any isSurrogate then .torn points else .whole (points.map Char.ofNat)

/-- The code points. -/
def points : Content → List Nat
  | .whole text => text.map Char.toNat
  | .torn points => points

/-- The text, if there is no surrogate. -/
def whole? : Content → Option Text
  | .whole text => some text
  | .torn _ => none

/-- The text, with the replacement character in the place of each surrogate. -/
def text : Content → Text
  | .whole text => text
  | .torn points => points.map fun point => if isSurrogate point then '\uFFFD' else Char.ofNat point

/-- The names between slashes, like those of the path that the text writes. -/
def names (content : Content) : List (List Nat) :=
  (content.points.splitOn 0x2F).filter fun name => !name.isEmpty && name != [0x2E]

end Content
end Yaml
end Codemap
