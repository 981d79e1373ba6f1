import Codemap.Json.Value

namespace Codemap

/-!
# Writing JSON

JSON is written in ASCII: every character outside the printable ASCII range is
escaped, beyond the basic plane as two surrogates.  There are three layouts of
the same content: with no spaces at all, with a space after each separator, and
over several lines with an indent per level.
-/

namespace Json

/-- A lower-case hexadecimal digit. -/
def hexDigit (n : Nat) : Char :=
  Nat.digitChar n

/-- Four hexadecimal digits. -/
def hex4 (n : Nat) : Text :=
  [hexDigit (n / 4096 % 16), hexDigit (n / 256 % 16), hexDigit (n / 16 % 16), hexDigit (n % 16)]

/-- The escape of a code unit. -/
def unicodeEscape (n : Nat) : Text :=
  '\\' :: 'u' :: hex4 n

/-- One character inside a string. -/
def escapeChar (c : Char) : Text :=
  if c = '\x22' then ['\\', '\x22']
  else if c = '\\' then ['\\', '\\']
  else if c = '\n' then ['\\', 'n']
  else if c = '\r' then ['\\', 'r']
  else if c = '\t' then ['\\', 't']
  else if c.toNat = 8 then ['\\', 'b']
  else if c.toNat = 12 then ['\\', 'f']
  else if 32 ≤ c.toNat ∧ c.toNat < 127 then [c]
  else if c.toNat < 0x10000 then unicodeEscape c.toNat
  else
    let beyond := c.toNat - 0x10000
    unicodeEscape (0xD800 + beyond / 1024) ++ unicodeEscape (0xDC00 + beyond % 1024)

/-- A string with its quotes. -/
def quoted (text : Text) : Text :=
  '\x22' :: text.flatMap escapeChar ++ ['\x22']

/-- The spelling of non-finite numbers in JSON texts; all others are plain. -/
def numberLayout : Binary64.Layout :=
  { Binary64.plainLayout with infinityText := "Infinity".toList, nanText := "NaN".toList }

/-- The separators of a one-line layout. -/
structure Separators where
  item : Text
  colon : Text

/-- No spaces. -/
def Separators.compact : Separators := ⟨[','], [':']⟩

/-- A space after each separator. -/
def Separators.spaced : Separators := ⟨", ".toList, ": ".toList⟩

mutual

/-- Write a value on one line. -/
def render (separators : Separators) : Json → Text
  | .null => "null".toList
  | .bool true => "true".toList
  | .bool false => "false".toList
  | .int n => Text.ofInt n
  | .float x => x.write numberLayout
  | .str text => quoted text
  | .arr items => '[' :: renderItems separators true items ++ [']']
  | .obj members => '{' :: renderMembers separators true members ++ ['}']

/-- Write the items of an array, with a separator before all but the first. -/
def renderItems (separators : Separators) (isFirst : Bool) : List Json → Text
  | [] => []
  | item :: rest =>
      (if isFirst then [] else separators.item) ++ render separators item ++
        renderItems separators false rest

/-- Write the members of an object, with a separator before all but the first. -/
def renderMembers (separators : Separators) (isFirst : Bool) : List (Text × Json) → Text
  | [] => []
  | (name, value) :: rest =>
      (if isFirst then [] else separators.item) ++ quoted name ++ separators.colon ++
        render separators value ++ renderMembers separators false rest

end

/-- A line break followed by the indent of a level. -/
def newLine (level : Nat) : Text :=
  '\n' :: List.replicate (2 * level) ' '

mutual

/-- Write a value over several lines, two spaces per level; empty arrays and
objects stay on one line. -/
def renderIndented (level : Nat) : Json → Text
  | .arr [] => "[]".toList
  | .arr (item :: rest) =>
      '[' :: newLine (level + 1) ++ renderIndented (level + 1) item ++
        indentedItems (level + 1) rest ++ newLine level ++ [']']
  | .obj [] => ['{', '}']
  | .obj ((name, value) :: rest) =>
      '{' :: newLine (level + 1) ++ quoted name ++ ": ".toList ++
        renderIndented (level + 1) value ++ indentedMembers (level + 1) rest ++
        newLine level ++ ['}']
  | .null => "null".toList
  | .bool true => "true".toList
  | .bool false => "false".toList
  | .int n => Text.ofInt n
  | .float x => x.write numberLayout
  | .str text => quoted text

/-- The items after the first, each on a line of its own. -/
def indentedItems (level : Nat) : List Json → Text
  | [] => []
  | item :: rest => ',' :: newLine level ++ renderIndented level item ++ indentedItems level rest

/-- The members after the first, each on a line of its own. -/
def indentedMembers (level : Nat) : List (Text × Json) → Text
  | [] => []
  | (name, value) :: rest =>
      ',' :: newLine level ++ quoted name ++ ": ".toList ++ renderIndented level value ++
        indentedMembers level rest

end

mutual

/-- The same value with the members of every object sorted by name. -/
def sortKeys : Json → Json
  | .arr items => .arr (sortKeysItems items)
  | .obj members => .obj ((sortKeysMembers members).mergeSort fun a b => Text.le a.1 b.1)
  | value => value

/-- Sort the members inside each item. -/
def sortKeysItems : List Json → List Json
  | [] => []
  | item :: rest => sortKeys item :: sortKeysItems rest

/-- Sort the members inside each member. -/
def sortKeysMembers : List (Text × Json) → List (Text × Json)
  | [] => []
  | (name, value) :: rest => (name, sortKeys value) :: sortKeysMembers rest

end

end Json
end Codemap
