import Codemap.Text.Letter
import Codemap.Source.Delimiters

namespace Codemap

/-!
# Signatures of declarations

A declaration's signature is the text from its first line up to the point where
the delimiters balance and nothing announces a continuation.  Lines are gathered
while a delimiter or a string literal is open, while the text so far ends in a
comma or an arrow, or while the next non-blank line starts with one of the
declaration's continuation words.  The gathering stops early at the first
balanced `{`, which opens the body and is not part of the signature, or at the
first balanced `;`, which is.

The search works on the list of lines from the declaration on.  The number of
lines it may still enter is a parameter that decreases with every line, so a
malformed text cannot make it run away.
-/

/-- A position in a list of lines. -/
structure Place where
  line : Nat
  column : Nat
deriving DecidableEq, Repr, Inhabited

/-- A signature, the lines it spans, and where its body opens, if it has one. -/
structure Signature where
  text : Text
  firstLine : Nat
  lastLine : Nat
  body : Option Place := none
deriving DecidableEq, Repr, Inhabited

namespace Signature

/-- A signature is followed over at most this many lines unless told otherwise. -/
def defaultLineLimit : Nat := 64

/-- The signature has a body. -/
def hasBody (signature : Signature) : Bool :=
  signature.body.isSome

/-- The parts gathered so far, as one text. -/
def joined (parts : List Text) : Text :=
  List.intercalate [' '] parts

/-- The gathered text announces a further line: something is open, or the text
ends in a comma or an arrow. -/
def needsMore (state : Delimiters) (parts : List Text) : Bool :=
  state.braces > 0 || state.parens > 0 || state.brackets > 0 || state.inString ||
    (joined parts).trimEnd.endsWithAny [",".toList, "=>".toList]

/-- A line starts, after its blanks, with a continuation word that ends there. -/
def startsWithWord (words : List Text) (line : Text) : Bool :=
  let stripped := line.trimStart
  words.any fun word =>
    word.isPrefixOf stripped && (stripped.drop word.length).head?.all fun c => !isAlphanumeric c

/-- The next non-blank line continues the declaration.  A text that ends in a
colon or semicolon is complete and is never continued in this way. -/
def continuesWith (words : List Text) (parts : List Text) (later : List Text) : Bool :=
  !words.isEmpty && !(joined parts).trimEnd.endsWithAny [":".toList, ";".toList] &&
    match later.dropWhile Text.isBlankText with
    | [] => false
    | line :: _ => startsWithWord words line

/-- A `{` that opens the next non-blank line opens the body of the declaration
before it.  `next` is the number of the first of the lines. -/
def openerBelow (next : Nat) : List Text → Option Place
  | [] => none
  | line :: later =>
      if Text.isBlankText line then openerBelow (next + 1) later
      else
        let stripped := line.trimStart
        if stripped.head? = some '{' then some ⟨next, line.length - stripped.length⟩ else none

/-- What remains to be decided once no further line is gathered: whether the
body opens on the next non-blank line. -/
def close (first index : Nat) (state : Delimiters) (parts : List Text) (later : List Text) :
    Signature :=
  let text := (joined parts).normalizeBlanks
  match if state.inString then none else openerBelow (index + 1) later with
  | some place => { text, firstLine := first, lastLine := place.line, body := some place }
  | none => { text, firstLine := first, lastLine := index }

/-- Gather lines from number `index` on.  `budget` is the number of lines that
may follow this one; a blank line is skipped when `skipping` is set and lines
may still follow. -/
def gather (words : List Text) (first : Nat) (state : Delimiters) (parts : List Text)
    (index budget offset : Nat) (skipping : Bool) : List Text → Signature
  | [] => close first index state parts []
  | line :: later =>
      if skipping && budget != 0 && Text.isBlankText line then
        gather words first state parts (index + 1) (budget - 1) 0 true later
      else
        let scan := state.feed line offset { atTerminator := true }
        match scan.halt with
        | some (c, column) =>
            if c = '{' then
              { text := (joined (parts ++ [line.slice offset column])).normalizeBlanks
                firstLine := first, lastLine := index, body := some ⟨index, column⟩ }
            else
              { text := (joined (parts ++ [line.slice offset (column + 1)])).normalizeBlanks
                firstLine := first, lastLine := index }
        | none =>
            let codeEnd := scan.commentStart.getD line.length
            let gathered := parts ++ [line.slice offset codeEnd]
            if budget = 0 then close first index scan.state gathered later
            else if needsMore scan.state gathered || continuesWith words gathered later then
              gather words first scan.state gathered (index + 1) (budget - 1) 0 true later
            else close first index scan.state gathered later

/-- The columns of the first line to which a declaration is confined. -/
structure Window where
  start : Nat := 0
  stop : Option Nat := none
deriving DecidableEq, Repr, Inhabited

/-- The signature of the declaration on line `start`, or nothing when there is no
such line.  `limit` bounds the number of lines and `words` are the words with
which a following line may continue the declaration. -/
def find? (lines : List Text) (start : Nat) (window : Window) (limit : Nat)
    (words : List Text) : Option Signature :=
  match lines.drop start with
  | [] => none
  | line :: later =>
      let clipped := match window.stop with
        | some stop => line.take stop
        | none => line
      let budget := min (lines.length - 1) (start + limit - 1) - start
      some (gather words start {} [] start budget window.start false (clipped :: later))

end Signature
end Codemap
