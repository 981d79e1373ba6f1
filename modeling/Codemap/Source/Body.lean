import Codemap.Source.Signature

namespace Codemap

/-!
# Bodies of declarations

A body is either enclosed in braces or set off by indentation.  In both cases
what matters is where it ends and which pieces of its lines stand at the level of
its members.  A piece of a line at that level is a `Segment`; the text inside
nested blocks, literals and comments belongs to no segment.
-/

/-- A piece of a line at the member level of a body. -/
structure Segment where
  line : Nat
  start : Nat
  stop : Option Nat := none
  text : Text
deriving DecidableEq, Repr, Inhabited

/-- The segments of a body and the number of its last line. -/
structure Body where
  segments : List Segment
  lastLine : Nat
deriving DecidableEq, Repr, Inhabited

namespace Body

/-- The scanner is directly inside the braces of the body, and in code. -/
def atMemberLevel (state : Delimiters) : Bool :=
  state.braces == 1 && state.parens ≤ 0 && state.brackets ≤ 0 && !state.inString &&
    !state.inBlockComment

/-- Walk a body enclosed in braces.  The state counts the opening brace of the
body, `index` is the number of the first of the lines, and `offset` is the column
at which the walk begins on it.  A body that is never closed ends with the last
line. -/
def bracedFrom (state : Delimiters) (index offset : Nat) : List Text → Body
  | [] => { segments := [], lastLine := index - 1 }
  | line :: later =>
      let scan := state.feed line offset { atClose := true }
      let stop := scan.halt.map Prod.snd
      let text := line.slice offset (stop.getD line.length)
      let here : List Segment :=
        if atMemberLevel state && !Text.isBlankText text then [⟨index, offset, stop, text⟩] else []
      match scan.halt with
      | some _ => { segments := here, lastLine := index }
      | none =>
          let below := bracedFrom scan.state (index + 1) 0 later
          { below with segments := here ++ below.segments }

/-- The body whose opening brace stands at the given place. -/
def braced (lines : List Text) (opener : Place) : Body :=
  bracedFrom { braces := 1 } opener.line (opener.column + 1) (lines.drop opener.line)

/-- The number of blanks at the beginning of a line. -/
def indent (line : Text) : Nat :=
  (line.takeWhile isBlank).length

/-- Walk a body set off by indentation.  `base` is the indentation of the
declaration, `level` that of the first line of the body once it is known, and
`last` the last line found so far.  Blank lines belong to the body only if a line
of it follows. -/
def indentedFrom (base : Nat) (level : Option Nat) (index last : Nat) : List Text → Body
  | [] => { segments := [], lastLine := last }
  | line :: later =>
      if Text.isBlankText line then indentedFrom base level (index + 1) last later
      else
        let width := indent line
        if width ≤ base then { segments := [], lastLine := last }
        else
          let members := level.getD width
          let here : List Segment := if width = members then [⟨index, 0, none, line⟩] else []
          let below := indentedFrom base (some members) (index + 1) index later
          { below with segments := here ++ below.segments }

/-- The body that follows line `header` of a declaration that begins on line
`index`. -/
def indented (lines : List Text) (index header : Nat) : Body :=
  indentedFrom (indent (lines.getD index [])) none (header + 1) header (lines.drop (header + 1))

end Body
end Codemap
