import Codemap.Yaml.Content
import Codemap.Yaml.Fault

namespace Codemap
namespace Yaml

/-!
# Tokens of a document

A document is a sequence of tokens.  The indentation of block collections has
become explicit: a collection opens with a token of its own and closes with
`blockEnd`.  A token list ends in `streamEnd`, or in `broken` where the text
could not be cut into tokens.
-/

/-- A directive before a document. -/
inductive Directive where
  | version (major minor : Nat)
  | handle (name start : Text)
  | other
deriving DecidableEq, Repr, Inhabited

/-- A token. -/
inductive Token where
  | directive (content : Directive)
  | documentStart
  | documentEnd
  | blockSequenceStart
  | blockMappingStart
  | blockEnd
  | flowSequenceStart
  | flowSequenceEnd
  | flowMappingStart
  | flowMappingEnd
  | flowEntry
  | blockEntry
  | key
  | value
  | alias (name : Text)
  | anchor (name : Text)
  /-- A tag: its handle, if it has one, and the rest. -/
  | tag (handle : Option Text) (suffix : Text)
  | scalar (content : Content) (isPlain : Bool)
  | streamEnd
  | broken (why : Fault)
deriving DecidableEq, Repr, Inhabited

/-- A token with which a collection may begin. -/
def Token.opens : Token → Bool
  | .blockSequenceStart | .blockMappingStart | .flowSequenceStart | .flowMappingStart => true
  | .blockEntry | .key => true
  | _ => false

/-- The characters that break a line in a document. -/
def isBreak (c : Char) : Bool :=
  c == '\n' || c == '\r' || c == '\x85' || c == '\u2028' || c == '\u2029'

/-- A document holds printable characters only; among the controls these are the
tab, the line feed, the carriage return and the next-line character. -/
def isPrintable (c : Char) : Bool :=
  let n := c.toNat
  n == 9 || n == 10 || n == 13 || (0x20 ≤ n && n ≤ 0x7E) || n == 0x85 ||
    (0xA0 ≤ n && n ≤ 0xD7FF) || (0xE000 ≤ n && n ≤ 0xFFFD) || 0x10000 ≤ n

/-- An end of text, a blank, or a line break: what may follow an indicator. -/
def isGap (c : Option Char) : Bool :=
  c.all fun c => c == ' ' || c == '\t' || isBreak c

/-- An end of text, a space, or a line break. -/
def isSpaceOrEnd (c : Option Char) : Bool :=
  c.all fun c => c == ' ' || isBreak c

/-- A letter or digit of ASCII, a hyphen or an underscore. -/
def isNameChar (c : Char) : Bool :=
  c.isAlphanum || c == '-' || c == '_'

/-- A character of a tag's address. -/
def isAddressChar (c : Char) : Bool :=
  c.isAlphanum || "-;/?:@&=+$,_.!~*\x27()[]%".toList.contains c

/-- The value of a hexadecimal digit. -/
def hexDigit? (c : Char) : Option Nat :=
  let n := c.toNat
  if 48 ≤ n ∧ n ≤ 57 then some (n - 48)
  else if 97 ≤ n ∧ n ≤ 102 then some (n - 87)
  else if 65 ≤ n ∧ n ≤ 70 then some (n - 55)
  else none

/-- The number written by hexadecimal digits; nothing if one of them is not. -/
def hexNumber? (digits : Text) : Option Nat :=
  digits.foldl
    (fun value c => value.bind fun n => (hexDigit? c).map fun digit => n * 16 + digit) (some 0)

end Yaml
end Codemap
