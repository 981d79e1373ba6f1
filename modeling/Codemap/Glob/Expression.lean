import Codemap.Pattern.Match

namespace Codemap
namespace Glob

/-!
# Glob patterns

A glob is cut into pieces: literal characters, wild cards, character classes and
the brackets of alternatives.  Each piece has a text in the notation of regular
expressions and a meaning as a pattern, and both are defined here from the same
list of pieces.

Two stars that fill a segment stand for any number of directories; a star or
question mark stays within one segment.  A brace opens a list of alternatives
only if its closing brace follows, and a bracket opens a class only if a closing
bracket follows; otherwise they are literal.  A backslash makes the next
character literal.
-/

/-- A piece of a glob. -/
inductive Piece where
  | literal (c : Char)
  /-- Any run of characters within a segment. -/
  | segmentRun
  /-- One character within a segment. -/
  | segmentChar
  /-- Any number of directories, none included. -/
  | directories
  /-- Everything that is left. -/
  | everything
  /-- One character of a class; the text between the brackets, where a leading
  caret negates the class. -/
  | charClass (body : Text)
  | openBrace
  | bar
  | closeBrace
deriving DecidableEq, Repr

/-- The position after the opening bracket at which a closing bracket may stand:
after a negation mark and after a bracket in first place. -/
def classHead (rest : Text) : Text :=
  let mark := match rest with
    | c :: _ => if c = '!' ∨ c = '^' then [c] else []
    | [] => []
  let bracket := match rest.drop mark.length with
    | ']' :: _ => [']']
    | _ => []
  mark ++ bracket

/-- The text of a class after its opening bracket, without the closing one. -/
def classBody? (rest : Text) : Option Text :=
  let head := classHead rest
  let after := rest.drop head.length
  if ']' ∈ after then some (head ++ after.takeWhile (· != ']')) else none

/-- A closing brace matches the opening brace before the text; `depth` counts the
braces opened since. -/
def closesBrace (depth : Nat) : Text → Bool
  | [] => false
  | c :: rest =>
      if c = '\x7b' then closesBrace (depth + 1) rest
      else if c = '\x7d' then
        match depth with
        | 0 => true
        | depth + 1 => closesBrace depth rest
      else closesBrace depth rest

/-- Cut a glob into pieces.  `depth` counts the open alternatives, `before` is the
character in front, and `skip` counts the characters that a piece already covers. -/
def piecesFrom (depth : Nat) (before : Option Char) (skip : Nat) : Text → List Piece
  | [] => []
  | c :: rest =>
      if skip ≠ 0 then piecesFrom depth (some c) (skip - 1) rest
      else
        let atSegmentStart := before.all (· == '/')
        if c = '*' then
          if rest.head? = some '*' then
            if atSegmentStart && (rest.drop 1).head? == some '/' then
              .directories :: piecesFrom depth (some c) 2 rest
            else if atSegmentStart && (rest.drop 1).isEmpty then
              .everything :: piecesFrom depth (some c) 1 rest
            else .segmentRun :: piecesFrom depth (some c) 1 rest
          else .segmentRun :: piecesFrom depth (some c) 0 rest
        else if c = '?' then .segmentChar :: piecesFrom depth (some c) 0 rest
        else if c = '[' then
          match classBody? rest with
          | some body =>
              let marked := match body with
                | '!' :: more => '^' :: more
                | _ => body
              .charClass marked :: piecesFrom depth (some c) (body.length + 1) rest
          | none => .literal c :: piecesFrom depth (some c) 0 rest
        else if c = '\x7b' ∧ closesBrace 0 rest then
          .openBrace :: piecesFrom (depth + 1) (some c) 0 rest
        else if c = ',' ∧ depth ≠ 0 then .bar :: piecesFrom depth (some c) 0 rest
        else if c = '\x7d' ∧ depth ≠ 0 then
          .closeBrace :: piecesFrom (depth - 1) (some c) 0 rest
        else if c = '\\' then
          match rest.head? with
          | some escaped => .literal escaped :: piecesFrom depth (some c) 1 rest
          | none => .literal c :: piecesFrom depth (some c) 0 rest
        else .literal c :: piecesFrom depth (some c) 0 rest

/-- The pieces of a glob. -/
def pieces (glob : Text) : List Piece :=
  piecesFrom 0 none 0 glob

/-! ## The text of a piece -/

/-- The characters that are written with a backslash to be literal. -/
def specialChars : List Char :=
  "()[]\x7b\x7d?*+-|^$\\.&~# \t\n\r\x0b\x0c".toList

/-- A literal character as a regular expression. -/
def escaped (c : Char) : Text :=
  if c ∈ specialChars then ['\\', c] else [c]

namespace Piece

/-- A piece as a regular expression. -/
def text : Piece → Text
  | .literal c => escaped c
  | .segmentRun => "[^/]*".toList
  | .segmentChar => "[^/]".toList
  | .directories => "(?:.*/)?".toList
  | .everything => ".*".toList
  | .charClass body => '[' :: Text.replaceChar '\\' ['\\', '\\'] body ++ [']']
  | .openBrace => "(?:".toList
  | .bar => ['|']
  | .closeBrace => [')']

end Piece

/-- A glob as a regular expression for the whole of a path. -/
def expression (glob : Text) : Text :=
  (pieces glob).flatMap Piece.text

/-! ## The meaning of a piece -/

open Pattern

/-- The items of a class: single characters and ranges.  A hyphen before the end
is literal, and a range whose ends are in the wrong order makes the class
unusable. -/
def classItems? : Text → Option (List ClassItem)
  | [] => some []
  | [c] => some [.range c c]
  | [c, '-'] => some [.range c c, .range '-' '-']
  | low :: '-' :: high :: rest =>
      if high.toNat < low.toNat then none
      else (classItems? rest).map (.range low high :: ·)
  | c :: rest => (classItems? rest).map (.range c c :: ·)

/-- The class between two brackets. -/
def charClass? (body : Text) : Option CharClass :=
  match body with
  | '^' :: rest => (classItems? rest).map fun items => { negated := true, items }
  | _ => (classItems? body).map fun items => { items }

/-- Alternatives under construction: those already complete, and the pieces of the
current one, the last one first. -/
structure Level where
  complete : List Node := []
  current : List Node := []

namespace Level

/-- Add a pattern to the current alternative. -/
def push (level : Level) (node : Node) : Level :=
  { level with current := node :: level.current }

/-- Finish the current alternative and begin another one. -/
def split (level : Level) : Level :=
  { complete := level.complete ++ [Node.seq level.current.reverse] }

/-- The pattern of all alternatives. -/
def node (level : Level) : Node :=
  Node.choice (level.complete ++ [Node.seq level.current.reverse])

end Level

/-- One character within a segment. -/
def inSegment : Node := Node.noneOf "/"

/-- Any characters but a line feed. -/
def lineRun : Node := Node.many (Node.noneOf "\n")

/-- Build the pattern of a list of pieces.  The levels are those of the open
alternatives, the innermost first. -/
def assemble (level : Level) (outer : List Level) : List Piece → Option Node
  | [] => if outer.isEmpty then some level.node else none
  | piece :: rest =>
      match piece with
      | .literal c => assemble (level.push (.char c)) outer rest
      | .segmentRun => assemble (level.push (Node.many inSegment)) outer rest
      | .segmentChar => assemble (level.push inSegment) outer rest
      | .directories =>
          assemble (level.push (Node.opt (.cat lineRun (.char '/')))) outer rest
      | .everything => assemble (level.push lineRun) outer rest
      | .charClass body =>
          match charClass? body with
          | some cls => assemble (level.push (.oneOf cls)) outer rest
          | none => none
      | .openBrace => assemble {} (level :: outer) rest
      | .bar => assemble level.split outer rest
      | .closeBrace =>
          match outer with
          | enclosing :: others => assemble (enclosing.push level.node) others rest
          | [] => none

/-- The pattern of a glob, or nothing if the glob is unusable: a class has a range
in the wrong order, or an alternative stays open because its closing brace stands
inside a class. -/
def pattern? (glob : Text) : Option Node :=
  assemble {} [] (pieces glob)

end Glob
end Codemap
