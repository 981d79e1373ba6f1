import Codemap.Yaml.Token
import Codemap.Yaml.Resolution

namespace Codemap
namespace Yaml

/-!
# Writing scalars

A pen knows the column it stands in, whether a gap precedes it, and whether nothing
but indentation and indicators stand before it on the line.  With it a scalar is
written in one of four styles.  Lines are broken at spaces once they are longer than
the width; a broken line goes on at the indentation of the scalar, and inside a key
no line is broken.
-/

/-- A hand that writes a document. -/
structure Pen where
  /-- What has been written, the last character first. -/
  written : Text := []
  column : Nat := 0
  afterGap : Bool := true
  atLineStart : Bool := true
deriving Repr, Inhabited

namespace Pen

/-- The column after which lines are broken. -/
def width : Nat := 80

/-- Write a text as it is. -/
def put (pen : Pen) (text : Text) : Pen :=
  { pen with written := text.reverse ++ pen.written, column := pen.column + text.length }

/-- Write an indicator, after a gap if it needs one.  `opensGap` says that what follows
needs no further gap, and `keepsStart` that it still counts as the start of the line. -/
def indicator (pen : Pen) (text : Text) (needsGap opensGap keepsStart : Bool) : Pen :=
  let placed := pen.put (if needsGap && !pen.afterGap then ' ' :: text else text)
  { placed with afterGap := opensGap, atLineStart := pen.atLineStart && keepsStart }

/-- End the line. -/
def breakLine (pen : Pen) : Pen :=
  { written := '\n' :: pen.written }

/-- Go to a column, on a new line unless the current one is free up to there. -/
def indentTo (pen : Pen) (indent : Nat) : Pen :=
  let ready :=
    if !pen.atLineStart || indent < pen.column || (pen.column == indent && !pen.afterGap) then
      pen.breakLine
    else pen
  if ready.column < indent then
    { ready.put (List.replicate (indent - ready.column) ' ') with afterGap := true }
  else ready

/-- Go on inside a scalar. -/
def inside (pen : Pen) : Pen :=
  { pen with afterGap := false, atLineStart := false }

/-- The maximal runs of spaces, of line feeds and of other characters of a text. -/
def runs (text : Text) : List Text :=
  text.splitBy fun a b => (a == ' ') == (b == ' ') && (a == '\n') == (b == '\n')

/-- Break the line at a single space if it has become too long. -/
def breaksAt (pen : Pen) (split : Bool) (run : Text) : Bool :=
  split && run == [' '] && width < pen.column

/-! ## The four styles -/

/-- Write the runs of a plain scalar. -/
def plainRuns (pen : Pen) (indent : Nat) (split : Bool) : List Text → Pen
  | [] => pen
  | run :: rest =>
      if pen.breaksAt split run then plainRuns (pen.indentTo indent).inside indent split rest
      else plainRuns (pen.put run) indent split rest

/-- Write a scalar without quotes. -/
def plain (pen : Pen) (indent : Nat) (split : Bool) (text : Text) : Pen :=
  if text.isEmpty then pen
  else
    let placed := if pen.afterGap then pen else pen.put [' ']
    plainRuns placed.inside indent split (runs text)

/-- Write the runs of a scalar between single quotes.  A quote is written twice, and a
run of line feeds with one more than it has. -/
def singleRuns (pen : Pen) (indent : Nat) (split isFirst : Bool) : List Text → Pen
  | [] => pen
  | run :: rest =>
      let next :=
        if run.head? = some '\n' then
          (List.replicate (run.length + 1) ()).foldl (fun pen _ => pen.breakLine) pen
            |>.indentTo indent
        else if pen.breaksAt split run && !isFirst && !rest.isEmpty then pen.indentTo indent
        else pen.put (run.flatMap fun c => if c = '\x27' then ['\x27', '\x27'] else [c])
      singleRuns next indent split false rest

/-- Write a scalar between single quotes. -/
def single (pen : Pen) (indent : Nat) (split : Bool) (text : Text) : Pen :=
  let opened := pen.indicator ['\x27'] true false false
  (singleRuns opened indent split true (runs text)).indicator ['\x27'] false false false

/-- The escapes of one letter. -/
def letterEscapes : List (Char × Char) :=
  [('\x00', '0'), ('\x07', 'a'), ('\x08', 'b'), ('\t', 't'), ('\n', 'n'), ('\x0b', 'v'),
    ('\x0c', 'f'), ('\r', 'r'), ('\x1b', 'e'), ('\x22', '\x22'), ('\\', '\\'), ('\x85', 'N'),
    ('\xa0', '_'), ('\u2028', 'L'), ('\u2029', 'P')]

/-- The upper-case hexadecimal digits of a number, so many of them. -/
def upperHex (count n : Nat) : Text :=
  let digits := (Nat.toDigits 16 n).map Char.toUpper
  List.replicate (count - digits.length) '0' ++ digits

/-- The character with a code point that stands for itself between double quotes; all others
have to be escaped. -/
def unescaped? (point : Nat) : Option Char :=
  if 0x20 ≤ point && point ≤ 0x7E && point != 0x22 && point != 0x5C then some (Char.ofNat point)
  else none

/-- The escape of a code point. -/
def escape (point : Nat) : Text :=
  match letterEscapes.find? fun entry => entry.1.toNat == point with
  | some (_, letter) => ['\\', letter]
  | none =>
      if point ≤ 0xFF then '\\' :: 'x' :: upperHex 2 point
      else if point ≤ 0xFFFF then '\\' :: 'u' :: upperHex 4 point
      else '\\' :: 'U' :: upperHex 8 point

/-- End a line inside double quotes.  A space at the start of the next one is marked. -/
def breakQuoted (pen : Pen) (indent : Nat) (next : Option Nat) : Pen :=
  let moved := ((pen.put ['\\']).indentTo indent).inside
  if next = some 0x20 then moved.put ['\\'] else moved

/-- Write the code points of a scalar between double quotes; `held` are the characters
before the next one that are not written yet, the last one first. -/
def doublePoints (pen : Pen) (indent : Nat) (split isFirst : Bool) (held : Text) : List Nat → Pen
  | [] => pen.put held.reverse
  | point :: rest =>
      let mayBreak := split && !isFirst && !rest.isEmpty
      match unescaped? point with
      | none =>
          let placed := (pen.put held.reverse).put (escape point)
          if mayBreak && width < placed.column - 1 then
            doublePoints (placed.breakQuoted indent rest.head?) indent split false [] rest
          else doublePoints placed indent split false [] rest
      | some c =>
          if mayBreak && (c == ' ' || held.isEmpty) && width < pen.column + held.length then
            doublePoints ((pen.put held.reverse).breakQuoted indent (some point)) indent split
              false [c] rest
          else doublePoints pen indent split false (c :: held) rest

/-- Write a scalar between double quotes. -/
def double (pen : Pen) (indent : Nat) (split : Bool) (points : List Nat) : Pen :=
  let opened := pen.indicator ['\x22'] true false false
  (doublePoints opened indent split true [] points).indicator ['\x22'] false false false

/-- Write a scalar of several lines, each ended by a line feed, as it is. -/
def literal (pen : Pen) (indent : Nat) (text : Text) : Pen :=
  let opened := (pen.indicator ['|'] true false false).breakLine
  text.lines.foldl (fun pen line => ((pen.indentTo indent).put line).breakLine) opened

end Pen

/-! ## The choice of a style -/

/-- A style of a scalar. -/
inductive Style where
  | plain
  | single
  | double
  | literal
deriving DecidableEq, Repr, Inhabited

namespace Style

/-- A blank or break that may stand beside an indicator inside a scalar. -/
def isGapChar (c : Char) : Bool :=
  c == '\x00' || c == ' ' || c == '\t' || isBreak c

/-- The text is empty or begins with a blank or break. -/
def beginsWithGap (text : Text) : Bool :=
  text.head?.all isGapChar

/-- A colon before a gap, or a number sign after one, stands in the text. -/
def hasInnerIndicator (afterGap : Bool) : Text → Bool
  | [] => false
  | c :: rest =>
      (c == ':' && beginsWithGap rest) || (c == '#' && afterGap) ||
        hasInnerIndicator (isGapChar c) rest

/-- The text begins with something that has a meaning of its own in a document. -/
def hasLeadingIndicator (text : Text) : Bool :=
  text.startsWithAny ["---".toList, "...".toList] ||
    match text with
    | [] => false
    | c :: rest =>
        "#,[]\x7b\x7d&*!|>\x27\x22%@\x60".toList.contains c ||
          ("?:-".toList.contains c && beginsWithGap rest)

/-- The text holds only line feeds and printable characters of ASCII. -/
def isOrdinary (text : Text) : Bool :=
  text.all fun c => c == '\n' || (0x20 ≤ c.toNat && c.toNat ≤ 0x7E)

/-- The text extends over several lines. -/
def isMultiline (text : Text) : Bool :=
  text.any fun c => c == '\n' || c == '\x85' || c == '\u2028' || c == '\u2029'

/-- The text can be written without quotes. -/
def allowsPlain (text : Text) : Bool :=
  isOrdinary text && !text.contains '\n' && text.head? != some ' ' && text.getLast? != some ' ' &&
    !hasLeadingIndicator text && !hasInnerIndicator false text

/-- The text can be written between single quotes: no space stands next to a line
feed. -/
def allowsSingle (text : Text) : Bool :=
  isOrdinary text && !text.includes ['\n', ' '] && !text.includes [' ', '\n']

/-- The style of a scalar.  A text that would be taken for something else is quoted. -/
def choose (tag : Tag) (text : Text) (isKey : Bool) : Style :=
  if plainTag text = tag ∧ allowsPlain text ∧ !(isKey && (text.isEmpty || isMultiline text)) then
    .plain
  else if tag = .binary then
    if text.isEmpty || isKey then .double else .literal
  else if allowsSingle text && !(isKey && isMultiline text) then .single
  else .double

end Style

/-- Write a scalar in a style.  Only between double quotes can surrogates be written, and only
that style is chosen for them. -/
def Pen.scalar (pen : Pen) (style : Style) (indent : Nat) (split : Bool) (content : Content) : Pen :=
  match style with
  | .plain => pen.plain indent split content.text
  | .single => pen.single indent split content.text
  | .double => pen.double indent split content.points
  | .literal => pen.literal indent content.text

end Yaml
end Codemap
