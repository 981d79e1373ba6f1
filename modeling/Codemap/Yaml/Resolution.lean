import Codemap.Pattern.Match

namespace Codemap
namespace Yaml

/-!
# What a scalar without a tag is

A plain scalar is recognised by its text: it may be a truth value, a number, a
point in time, the null value, or one of the two texts with a meaning inside
mappings.  The tests are made in a fixed order, and only those whose first
characters include the first character of the text.  Everything else is a string.

A test accepts a text that is followed by a single line feed as well; the writer
relies on that to quote such texts.
-/

open Pattern Pattern.Node

/-- The kinds of values that tags name. -/
inductive Tag where
  | null
  | bool
  | int
  | float
  | str
  | binary
  | timestamp
  | set
  | orderedPairs
  | pairs
  | sequence
  | mapping
  | merge
  | default
  /-- A tag to which no kind of value belongs. -/
  | foreign
deriving DecidableEq, Repr, Inhabited

namespace Tag

/-- The common beginning of the tags of the format. -/
def common : Text := "tag:yaml.org,2002:".toList

/-- The names of the tags of the format. -/
def names : List (String × Tag) :=
  [("null", .null), ("bool", .bool), ("int", .int), ("float", .float), ("str", .str),
    ("binary", .binary), ("timestamp", .timestamp), ("set", .set), ("omap", .orderedPairs),
    ("pairs", .pairs), ("seq", .sequence), ("map", .mapping), ("merge", .merge),
    ("value", .default)]

/-- The tag with a full name. -/
def ofText (text : Text) : Tag :=
  match names.find? fun entry => common ++ entry.1.toList == text with
  | some (_, tag) => tag
  | none => .foreign

end Tag

/-- A test for the whole of a scalar. -/
structure Shape where
  tag : Tag
  first : String
  pattern : Node

/-- The end of a scalar. -/
def scalarEnd : Node := .anchor .textEndOrLastBreak

/-- A decimal digit. -/
def digit : Node := .oneOf { items := [.range '0' '9'] }

/-- A decimal digit or an underscore. -/
def digitOrBar : Node := .oneOf { items := [.range '0' '9', .range '_' '_'] }

/-- A sign or nothing. -/
def optSign : Node := opt (among "-+")

/-- A group of a number to the base sixty. -/
def sixtieth : Node :=
  seq [.char ':', opt (.oneOf { items := [.range '0' '5'] }), digit]

/-- An exponent with a sign, or nothing. -/
def optExponent : Node :=
  opt (seq [among "eE", among "-+", atLeastOne digit])

/-- The shape of a number with a point. -/
def floatShape : Node :=
  choice
    [seq [optSign, digit, many digitOrBar, .char '.', many digitOrBar, optExponent],
      seq [.char '.', digit, many digitOrBar, optExponent],
      seq [optSign, digit, many digitOrBar, atLeastOne sixtieth, .char '.', many digitOrBar],
      seq [optSign, .char '.', words ["inf", "Inf", "INF"]],
      seq [.char '.', words ["nan", "NaN", "NAN"]]]

/-- The shape of an integer in binary, octal, decimal, hexadecimal or to the base
sixty. -/
def intShape : Node :=
  let nonZero : Node := .oneOf { items := [.range '1' '9'] }
  choice
    [seq [optSign, Node.text "0b".toList,
        atLeastOne (.oneOf { items := [.range '0' '1', .range '_' '_'] })],
      seq [optSign, .char '0',
        atLeastOne (.oneOf { items := [.range '0' '7', .range '_' '_'] })],
      seq [optSign, .alt (.char '0') (.cat nonZero (many digitOrBar))],
      seq [optSign, Node.text "0x".toList,
        atLeastOne
          (.oneOf { items := [.range '0' '9', .range 'a' 'f', .range 'A' 'F', .range '_' '_'] })],
      seq [optSign, nonZero, many digitOrBar, atLeastOne sixtieth]]

/-- Exactly so many digits. -/
def digits (n : Nat) : Node :=
  seq (List.replicate n digit)

/-- One or two digits. -/
def oneOrTwoDigits : Node :=
  .cat digit (opt digit)

/-- The blanks that may stand inside a point in time. -/
def timeBlank : Node := among " \t"

/-- The shape of a date or a point in time. -/
def timestampShape : Node :=
  choice
    [seq [digits 4, .char '-', digits 2, .char '-', digits 2],
      seq [digits 4, .char '-', oneOrTwoDigits, .char '-', oneOrTwoDigits,
        .alt (among "Tt") (atLeastOne timeBlank), oneOrTwoDigits, .char ':', digits 2, .char ':',
        digits 2, opt (.cat (.char '.') (many digit)),
        opt (.cat (many timeBlank)
          (.alt (.char 'Z')
            (seq [among "-+", oneOrTwoDigits, opt (.cat (.char ':') (digits 2))])))]]

/-- The tests in their order. -/
def shapes : List Shape :=
  [⟨.bool, "yYnNtTfFoO",
      words ["yes", "Yes", "YES", "no", "No", "NO", "true", "True", "TRUE", "false", "False",
        "FALSE", "on", "On", "ON", "off", "Off", "OFF"]⟩,
    ⟨.float, "-+0123456789.", floatShape⟩,
    ⟨.int, "-+0123456789", intShape⟩,
    ⟨.merge, "<", Node.text "<<".toList⟩,
    ⟨.null, "~nN", words ["~", "null", "Null", "NULL"]⟩,
    ⟨.timestamp, "0123456789", timestampShape⟩,
    ⟨.default, "=", .char '='⟩,
    ⟨.foreign, "!&*", among "!&*"⟩]

/-- The tag of a plain scalar. -/
def plainTag (text : Text) : Tag :=
  match text with
  | [] => .null
  | c :: _ =>
      match shapes.find? fun shape =>
          shape.first.toList.contains c && (Node.cat shape.pattern scalarEnd).matchesStart text with
      | some shape => shape.tag
      | none => .str

end Yaml
end Codemap
