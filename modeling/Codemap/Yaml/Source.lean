import Codemap.Yaml.Token

namespace Codemap
namespace Yaml

/-!
# The position of a reader in a document

The reader of a document keeps, beside the text it has not read yet, the number
of characters, line breaks and columns it has passed.  A byte order mark takes
no column.  The readers of the small parts of a document (line breaks, runs of
spaces, comments) are functions on this position.
-/

/-- A position in a document. -/
structure Source where
  rest : Text
  index : Nat := 0
  line : Nat := 0
  column : Nat := 0
deriving Repr, Inhabited

namespace Source

/-- The next character. -/
def peek (source : Source) : Option Char :=
  source.rest.head?

/-- The character after a number of others. -/
def peekAt (source : Source) (n : Nat) : Option Char :=
  source.rest[n]?

/-- Step over one character. -/
def step (source : Source) : Source :=
  match source.rest with
  | [] => source
  | c :: rest =>
      let endsLine := c == '\n' || c == '\x85' || c == '\u2028' || c == '\u2029' ||
        (c == '\r' && rest.head? != some '\n')
      { rest
        index := source.index + 1
        line := if endsLine then source.line + 1 else source.line
        column :=
          if endsLine then 0 else if c = '\uFEFF' then source.column else source.column + 1 }

/-- Step over a number of characters. -/
def steps (source : Source) : Nat → Source
  | 0 => source
  | n + 1 => source.step.steps n

/-- The longest run of characters that satisfy `keep`, and the position after it. -/
def takeRun (source : Source) (keep : Char → Bool) : Text × Source :=
  let run := source.rest.takeWhile keep
  (run, source.steps run.length)

/-- The position after the longest run of characters that satisfy `skip`. -/
def skipRun (source : Source) (skip : Char → Bool) : Source :=
  (source.takeRun skip).2

/-- The position after a run of spaces. -/
def skipSpaces (source : Source) : Source :=
  source.skipRun (· == ' ')

/-- The position after the spaces that lead up to a column. -/
def skipSpacesTo (source : Source) (column : Nat) : Source :=
  let spaces := (source.rest.takeWhile (· == ' ')).length
  source.steps (min spaces (column - source.column))

/-- A line break, as the text it stands for, and the position after it.  All breaks
but the two Unicode separators stand for a line feed. -/
def lineBreak? (source : Source) : Option (Text × Source) :=
  match source.rest with
  | '\r' :: '\n' :: _ => some (['\n'], source.steps 2)
  | c :: _ =>
      if c = '\r' ∨ c = '\n' ∨ c = '\x85' then some (['\n'], source.step)
      else if c = '\u2028' ∨ c = '\u2029' then some ([c], source.step)
      else none
  | [] => none

/-- The position after a comment, if one begins here. -/
def skipComment (source : Source) : Source :=
  if source.peek = some '#' then source.skipRun fun c => !isBreak c else source

/-- A mark of three characters begins here and a gap follows it. -/
def atMark (source : Source) (mark : Text) : Bool :=
  mark.isPrefixOf source.rest && isGap (source.peekAt 3)

/-- A document separator begins here. -/
def atSeparator (source : Source) : Bool :=
  source.atMark "---".toList || source.atMark "...".toList

/-- What is left of a line that must hold nothing but a comment. -/
def finishLine (source : Source) : Except Fault Source :=
  let after := source.skipSpaces.skipComment
  match after.lineBreak? with
  | some (_, next) => .ok next
  | none => if after.rest.isEmpty then .ok after else .error .malformed

end Source
end Yaml
end Codemap
