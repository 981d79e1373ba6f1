import Codemap.Text.Basic

namespace Codemap

/-!
# Delimiters, literals and comments of curly-brace code

Source text is read without a grammar of its language.  What can be known in all
supported languages is how deep the braces, parentheses and brackets are nested,
whether the text is inside a string literal, and whether it is inside a block
comment.  That knowledge is the state `Delimiters`; feeding it a line moves the
state across the line.

A line comment ends the line for the scanner.  A string literal may stay open at
the end of a line and then continues on the next one; an escape does not survive
the end of its line.  The counts may become negative: a stray closer is recorded
rather than refused, because the code may be malformed.
-/

/-- Open delimiters, the open string quote if any, and whether a block comment
is open. -/
structure Delimiters where
  braces : Int := 0
  parens : Int := 0
  brackets : Int := 0
  quote : Option Char := none
  inBlockComment : Bool := false
deriving DecidableEq, Repr, Inhabited

/-- What makes a scan stop before the end of its line. -/
structure Stops where
  /-- Stop at a `{` or `;` that is seen while the delimiters balance. -/
  atTerminator : Bool := false
  /-- Stop at the `}` that brings the brace count back to zero. -/
  atClose : Bool := false
deriving DecidableEq, Repr, Inhabited

/-- The outcome of scanning one line: the state afterwards, the column at which
a line comment begins, and the character and column at which the scan stopped. -/
structure Scan where
  state : Delimiters
  commentStart : Option Nat := none
  halt : Option (Char × Nat) := none
deriving DecidableEq, Repr, Inhabited

/-- The three characters that open and close string literals. -/
def isQuote (c : Char) : Bool :=
  c == '\x27' || c == '\x22' || c == '\x60'

/-- A hash sign opens a comment only where it stands like one: after a blank or
at the start of the line, and before a blank, another hash sign, an exclamation
mark or the end of the line.  So directives, attributes and private members
stay code. -/
def opensHashComment (before : Option Char) (rest : Text) : Bool :=
  before.all isBlank &&
    rest.head?.all fun c => c == ' ' || c == '\t' || c == '#' || c == '!'

namespace Delimiters

/-- A string literal is open. -/
def inString (state : Delimiters) : Bool :=
  state.quote.isSome

/-- No delimiter and no string literal is open.  An open block comment does not
count, and a surplus of closers counts as balanced. -/
def balanced (state : Delimiters) : Bool :=
  state.braces ≤ 0 && state.parens ≤ 0 && state.brackets ≤ 0 && state.quote.isNone

/-- Count one character of code. -/
def count (state : Delimiters) (c : Char) : Delimiters :=
  match c with
  | '{' => { state with braces := state.braces + 1 }
  | '}' => { state with braces := state.braces - 1 }
  | '(' => { state with parens := state.parens + 1 }
  | ')' => { state with parens := state.parens - 1 }
  | '[' => { state with brackets := state.brackets + 1 }
  | ']' => { state with brackets := state.brackets - 1 }
  | _ => state

/-- Scan the rest of a line.  `inert` says that its first character has no effect
of its own: a backslash inside a string literal precedes it, or it is the second
half of a comment mark.  `before` is the character before the rest, and `column`
is the column at which the rest begins. -/
def feedFrom (stops : Stops) (state : Delimiters) (inert : Bool) (before : Option Char)
    (column : Nat) : Text → Scan
  | [] => { state }
  | c :: rest =>
      if inert then feedFrom stops state false (some c) (column + 1) rest
      else if state.inBlockComment then
        if c = '*' ∧ rest.head? = some '/' then
          feedFrom stops { state with inBlockComment := false } true (some c) (column + 1) rest
        else feedFrom stops state false (some c) (column + 1) rest
      else
        match state.quote with
        | some quote =>
            if c = '\\' then feedFrom stops state true (some c) (column + 1) rest
            else if c = quote then
              feedFrom stops { state with quote := none } false (some c) (column + 1) rest
            else feedFrom stops state false (some c) (column + 1) rest
        | none =>
            if isQuote c then
              feedFrom stops { state with quote := some c } false (some c) (column + 1) rest
            else if c = '/' ∧ rest.head? = some '*' then
              feedFrom stops { state with inBlockComment := true } true (some c) (column + 1) rest
            else if c = '/' ∧ rest.head? = some '/' then { state, commentStart := some column }
            else if c = '#' ∧ opensHashComment before rest then
              { state, commentStart := some column }
            else if stops.atTerminator ∧ (c = '{' ∨ c = ';') ∧ state.balanced then
              { state, halt := some (c, column) }
            else
              let counted := state.count c
              if stops.atClose ∧ c = '}' ∧ counted.braces = 0 then
                { state := counted, halt := some (c, column) }
              else feedFrom stops counted false (some c) (column + 1) rest

/-- Scan a line from column `start` on. -/
def feed (state : Delimiters) (line : Text) (start : Nat) (stops : Stops) : Scan :=
  feedFrom stops state false (if start = 0 then none else (line.drop (start - 1)).head?) start
    (line.drop start)

/-- Starting at or beyond the end of a line changes nothing. -/
theorem feed_of_length_le (state : Delimiters) {line : Text} {start : Nat} (stops : Stops)
    (beyond : line.length ≤ start) : state.feed line start stops = { state } := by
  simp [feed, feedFrom, List.drop_eq_nil_of_le beyond]

end Delimiters
end Codemap
