import Codemap.Yaml.Source

namespace Codemap
namespace Yaml

/-!
# The texts of scalars

A scalar is written plainly, between quotes, or as a block.  In all three forms a
line break inside the scalar may be folded: a single one becomes a space, and of
several the first one is dropped.  The readers below return what the scalar
holds and the position after it.  Their loops run over the remaining characters,
whose number is the fuel that starts them.
-/

/-- A scalar that has been read. -/
structure ScalarText where
  content : Content
  after : Source

/-- Fold a line break and the empty lines after it. -/
def folded (first : Text) (breaks : Text) : Text :=
  if first ≠ ['\n'] then first ++ breaks
  else if breaks.isEmpty then [' ']
  else breaks

namespace Plain

/-- The characters that end a plain scalar inside a flow collection. -/
def flowMarks : Text := ",?[]\x7b\x7d".toList

/-- The longest run of plain characters without a blank. -/
def run (inFlow : Bool) : Text → Text
  | [] => []
  | c :: rest =>
      if c = ' ' ∨ c = '\t' ∨ isBreak c then []
      else if c = ':' ∧ (isGap rest.head? ∨
          (inFlow ∧ rest.head?.any fun next => ",[]\x7b\x7d".toList.contains next)) then []
      else if inFlow ∧ flowMarks.contains c then []
      else c :: run inFlow rest

/-- What stands between two runs of a plain scalar. -/
structure Between where
  /-- The text it contributes; empty if the scalar ends here. -/
  text : Text
  after : Source
  /-- A line break was crossed. -/
  brokeLine : Bool

/-- The empty lines and the indent after a line break; nothing if a document
separator is met. -/
def breaks (found : Text) : Nat → Source → Option Text × Source
  | 0, source => (some found, source)
  | fuel + 1, source =>
      if source.peek = some ' ' then breaks found fuel source.step
      else
        match source.lineBreak? with
        | none => (some found, source)
        | some (text, next) =>
            if next.atSeparator then (none, next) else breaks (found ++ text) fuel next

/-- Read what stands between two runs. -/
def between (source : Source) : Between :=
  let (spaces, after) := source.takeRun (· == ' ')
  match after.lineBreak? with
  | none => ⟨spaces, after, false⟩
  | some (first, next) =>
      if next.atSeparator then ⟨[], next, true⟩
      else
        match breaks [] next.rest.length next with
        | (none, stop) => ⟨[], stop, true⟩
        | (some found, stop) => ⟨folded first found, stop, true⟩

/-- A plain scalar that has been read, and whether a line break follows it. -/
structure Result where
  text : Text
  after : Source
  brokeLine : Bool

/-- Read the runs of a plain scalar.  `spaces` is what stands before the next run,
and a line that is indented less than `indent` ends the scalar. -/
def readFrom (inFlow : Bool) (indent : Int) (found spaces : Text) (brokeLine : Bool) :
    Nat → Source → Result
  | 0, source => ⟨found, source, brokeLine⟩
  | fuel + 1, source =>
      if source.peek = some '#' then ⟨found, source, brokeLine⟩
      else
        let next := run inFlow source.rest
        if next.isEmpty then ⟨found, source, brokeLine⟩
        else
          let gap := between (source.steps next.length)
          let text := found ++ spaces ++ next
          if gap.text.isEmpty ∨ gap.after.peek = some '#' ∨
              (¬ inFlow ∧ (gap.after.column : Int) < indent) then
            ⟨text, gap.after, gap.brokeLine⟩
          else readFrom inFlow indent text gap.text gap.brokeLine fuel gap.after

/-- Read a plain scalar. -/
def read (inFlow : Bool) (indent : Int) (source : Source) : Result :=
  readFrom inFlow indent [] [] false (source.rest.length + 1) source

end Plain

namespace Quoted

/-- The character a one-letter escape stands for. -/
def simpleEscape? (c : Char) : Option Char :=
  match c with
  | '0' => some '\x00'
  | 'a' => some '\x07'
  | 'b' => some '\x08'
  | 't' => some '\t'
  | '\t' => some '\t'
  | 'n' => some '\n'
  | 'v' => some '\x0b'
  | 'f' => some '\x0c'
  | 'r' => some '\r'
  | 'e' => some '\x1b'
  | ' ' => some ' '
  | '\x22' => some '\x22'
  | '\\' => some '\\'
  | '/' => some '/'
  | 'N' => some '\x85'
  | '_' => some '\xa0'
  | 'L' => some '\u2028'
  | 'P' => some '\u2029'
  | _ => none

/-- The number of hexadecimal digits after the letter of an escape. -/
def escapeLength? (c : Char) : Option Nat :=
  match c with
  | 'x' => some 2
  | 'u' => some 4
  | 'U' => some 8
  | _ => none

/-- The code point with a number, unless the number is beyond the last one. -/
def codePoint (n : Nat) : Except Fault Nat :=
  if n ≥ 0x80000000 then .error (.scalar .codePointTooLarge)
  else if n ≥ 0x110000 then .error (.scalar .noSuchCodePoint)
  else .ok n

/-- The code points of a text. -/
def pointsOf (text : Text) : List Nat :=
  text.map Char.toNat

/-- The line breaks after a first one; a document separator is refused. -/
def breaks (found : Text) : Nat → Source → Except Fault (Text × Source)
  | 0, source => .ok (found, source)
  | fuel + 1, source =>
      if source.atSeparator then .error .malformed
      else
        let inner := source.skipRun fun c => c == ' ' || c == '\t'
        match inner.lineBreak? with
        | some (text, next) => breaks (found ++ text) fuel next
        | none => .ok (found, inner)

/-- Read a backslash and what it escapes; the position is after the backslash. -/
def escape (source : Source) : Except Fault (List Nat × Source) :=
  match source.peek with
  | none => .error .malformed
  | some c =>
      match simpleEscape? c, escapeLength? c with
      | some plain, _ => .ok ([plain.toNat], source.step)
      | none, some length =>
          let digits := source.step.rest.take length
          if digits.length < length then .error .malformed
          else
            match hexNumber? digits with
            | none => .error .malformed
            | some n => (codePoint n).map fun point => ([point], source.step.steps length)
      | none, none =>
          match source.lineBreak? with
          | some (_, next) =>
              (breaks [] (next.rest.length + 1) next).map fun (found, stop) => (pointsOf found, stop)
          | none => .error .malformed

/-- Read characters up to a blank, a line break, or the closing quote. -/
def solid (isDouble : Bool) (found : List Nat) :
    Nat → Source → Except Fault (List Nat × Source)
  | 0, source => .ok (found, source)
  | fuel + 1, source =>
      let (run, after) := source.takeRun fun c =>
        !(c == '\x27' || c == '\x22' || c == '\\' || c == ' ' || c == '\t' || isBreak c)
      let points := found ++ pointsOf run
      match after.peek with
      | some '\x27' =>
          if isDouble then solid isDouble (points ++ pointsOf ['\x27']) fuel after.step
          else if after.peekAt 1 = some '\x27' then
            solid isDouble (points ++ pointsOf ['\x27']) fuel (after.steps 2)
          else .ok (points, after)
      | some '\x22' =>
          if isDouble then .ok (points, after)
          else solid isDouble (points ++ pointsOf ['\x22']) fuel after.step
      | some '\\' =>
          if isDouble then
            match escape after.step with
            | .ok (more, next) => solid isDouble (points ++ more) fuel next
            | .error why => .error why
          else solid isDouble (points ++ pointsOf ['\\']) fuel after.step
      | _ => .ok (points, after)

/-- Read blanks and line breaks between two solid parts. -/
def gap (source : Source) : Except Fault (Text × Source) :=
  let (blanks, after) := source.takeRun fun c => c == ' ' || c == '\t'
  if after.rest.isEmpty then .error .malformed
  else
    match after.lineBreak? with
    | none => .ok (blanks, after)
    | some (first, next) =>
        (breaks [] (next.rest.length + 1) next).map fun (found, stop) => (folded first found, stop)

/-- Read solid parts and gaps in turn up to the closing quote. -/
def readFrom (isDouble : Bool) (quote : Char) (found : List Nat) :
    Nat → Source → Except Fault ScalarText
  | 0, _ => .error .malformed
  | fuel + 1, source =>
      match solid isDouble found (source.rest.length + 1) source with
      | .error why => .error why
      | .ok (points, after) =>
          if after.peek = some quote then .ok ⟨.ofPoints points, after.step⟩
          else
            match gap after with
            | .error why => .error why
            | .ok (more, next) => readFrom isDouble quote (points ++ pointsOf more) fuel next

/-- Read a quoted scalar; the position is at the opening quote. -/
def read (isDouble : Bool) (source : Source) : Except Fault ScalarText :=
  readFrom isDouble (if isDouble then '\x22' else '\x27') [] (source.rest.length + 1) source.step

end Quoted

namespace Block

/-- What a block scalar does with the line breaks at its end. -/
inductive Chomping where
  | strip
  | clip
  | keep
deriving DecidableEq, Repr

/-- The head of a block scalar: its chomping, and its indentation if it is given. -/
structure Head where
  chomping : Chomping := .clip
  indent : Option Nat := none

/-- The chomping mark a character stands for. -/
def chomping? (c : Option Char) : Option Chomping :=
  match c with
  | some '+' => some .keep
  | some '-' => some .strip
  | _ => none

/-- The indentation a character stands for; zero is refused. -/
def indent? (c : Option Char) : Except Fault (Option Nat) :=
  match c with
  | some c =>
      if c.isDigit then
        if c = '0' then .error .malformed else .ok (some (c.toNat - 48))
      else .ok none
  | none => .ok none

/-- Read the marks after the character that opens a block scalar, in either order. -/
def head (source : Source) : Except Fault (Head × Source) :=
  let finish (found : Head) (after : Source) : Except Fault (Head × Source) :=
    if isSpaceOrEnd after.peek then .ok (found, after) else .error .malformed
  match chomping? source.peek with
  | some chomping =>
      match indent? source.step.peek with
      | .error why => .error why
      | .ok none => finish { chomping } source.step
      | .ok (some n) => finish { chomping, indent := some n } source.step.step
  | none =>
      match indent? source.peek with
      | .error why => .error why
      | .ok none => finish {} source
      | .ok (some n) =>
          match chomping? source.step.peek with
          | some chomping => finish { chomping, indent := some n } source.step.step
          | none => finish { indent := some n } source.step

/-- The empty lines at the beginning of a block scalar, and the largest column that
a run of spaces reaches before its first line that is not empty. -/
def leading (found : Text) (widest : Nat) : Nat → Source → Text × Nat × Source
  | 0, source => (found, widest, source)
  | fuel + 1, source =>
      if source.peek = some ' ' then
        leading found (max widest source.step.column) fuel source.step
      else
        match source.lineBreak? with
        | some (text, next) => leading (found ++ text) widest fuel next
        | none => (found, widest, source)

/-- The empty lines before the next line of a block scalar. -/
def breaks (indent : Nat) (found : Text) : Nat → Source → Text × Source
  | 0, source => (found, source)
  | fuel + 1, source =>
      let inner := source.skipSpacesTo indent
      match inner.lineBreak? with
      | some (text, next) => breaks indent (found ++ text) fuel next
      | none => (found, inner)

/-- The lines of a block scalar.  `pending` holds the empty lines before the next
line.  Returned are the text, the last line break, the empty lines at the end, and
the position after them. -/
def body (isFolded : Bool) (indent : Nat) (found pending lastBreak : Text) :
    Nat → Source → Text × Text × Text × Source
  | 0, source => (found, lastBreak, pending, source)
  | fuel + 1, source =>
      if source.column ≠ indent ∨ source.rest.isEmpty then (found, lastBreak, pending, source)
      else
        let isBlankStart (c : Option Char) : Bool := c == some ' ' || c == some '\t'
        let (line, after) := source.takeRun fun c => !isBreak c
        let (ending, next) := (after.lineBreak?).getD ([], after)
        let (empties, stop) := breaks indent [] (next.rest.length + 1) next
        let text := found ++ pending ++ line
        if stop.column ≠ indent ∨ stop.rest.isEmpty then (text, ending, empties, stop)
        else
          let joint :=
            if isFolded ∧ ending = ['\n'] ∧ ¬ isBlankStart source.peek ∧
                ¬ isBlankStart stop.peek then
              if empties.isEmpty then [' '] else []
            else ending
          body isFolded indent (text ++ joint) empties ending fuel stop

/-- Read a block scalar; the position is at the character that opens it, and
`parent` is the indentation of the collection around it. -/
def read (isFolded : Bool) (parent : Int) (source : Source) : Except Fault ScalarText := do
  let (marks, afterMarks) ← head source.step
  let start ← afterMarks.finishLine
  let least := (max (parent + 1) 1).toNat
  let (indent, empties, first) := match marks.indent with
    | some n =>
        let indent := least + n - 1
        let (found, stop) := breaks indent [] (start.rest.length + 1) start
        (indent, found, stop)
    | none =>
        let (found, widest, stop) := leading [] 0 (start.rest.length + 1) start
        (max least widest, found, stop)
  let (text, lastBreak, trailing, after) :=
    body isFolded indent [] empties [] (first.rest.length + 1) first
  let ending := match marks.chomping with
    | .strip => []
    | .clip => lastBreak
    | .keep => lastBreak ++ trailing
  return ⟨.whole (text ++ ending), after⟩

end Block
end Yaml
end Codemap
