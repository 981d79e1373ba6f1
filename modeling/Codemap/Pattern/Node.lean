import Codemap.Pattern.CharClass

namespace Codemap
namespace Pattern

/-!
# Patterns

A pattern is a tree.  Beside the regular constructions it has what a
backtracking matcher supports: numbered groups and references to them, anchors,
assertions about what follows or precedes, parts that are never reconsidered
once matched, and a choice that depends on whether a group took part.

Options such as ignoring case are not kept beside the tree: they are resolved
into its leaves when a pattern is read, so the meaning of a tree is its own.
-/

/-- A condition on a position that consumes nothing. -/
inductive Anchor where
  | textStart
  | lineStart
  | textEnd
  | textEndOrLastBreak
  | lineEnd
  | wordEdge (ascii : Bool)
  | notWordEdge (ascii : Bool)
deriving DecidableEq, Repr

/-- In which order the numbers of repetitions are tried. -/
inductive Greed where
  /-- More repetitions first. -/
  | greedy
  /-- Fewer repetitions first. -/
  | lazy
  /-- As many as possible, with no second try. -/
  | possessive
deriving DecidableEq, Repr

/-- A pattern. -/
inductive Node where
  | empty
  | char (c : Char)
  | oneOf (cls : CharClass)
  | cat (first second : Node)
  | alt (first second : Node)
  | rep (body : Node) (least : Nat) (most : Option Nat) (greed : Greed)
  | group (index : Nat) (body : Node)
  | anchor (condition : Anchor)
  | sameAs (index : Nat) (cases : CaseRule)
  /-- The body matches at the position, or `behind` characters before it; nothing
  is consumed. -/
  | look (behind : Nat) (negated : Bool) (body : Node)
  | atomic (body : Node)
  | ifGroup (index : Nat) (yes no : Node)
  | never
deriving DecidableEq, Repr, Inhabited

namespace Node

/-! ## Building patterns -/

/-- The patterns one after another. -/
def seq : List Node → Node
  | [] => .empty
  | [node] => node
  | node :: rest => .cat node (seq rest)

/-- The first of the patterns that leads to a match. -/
def choice : List Node → Node
  | [] => .never
  | [node] => node
  | node :: rest => .alt node (choice rest)

/-- A text, literally. -/
def text (literal : Text) : Node :=
  seq (literal.map .char)

/-- One of several literal texts. -/
def words (literals : List String) : Node :=
  choice (literals.map fun literal => text literal.toList)

/-- The pattern or nothing. -/
def opt (node : Node) : Node :=
  .rep node 0 (some 1) .greedy

/-- The pattern any number of times. -/
def many (node : Node) : Node :=
  .rep node 0 none .greedy

/-- The pattern at least once. -/
def atLeastOne (node : Node) : Node :=
  .rep node 1 none .greedy

/-- The pattern any number of times, as few as possible. -/
def fewest (node : Node) : Node :=
  .rep node 0 none .lazy

/-- The pattern at least once, as few times as possible. -/
def fewestSome (node : Node) : Node :=
  .rep node 1 none .lazy

/-- One of the listed characters. -/
def among (chars : String) : Node :=
  .oneOf (.ofChars chars.toList)

/-- Any character but the listed ones. -/
def noneOf (chars : String) : Node :=
  .oneOf (.notChars chars.toList)

/-- A blank. -/
def blank : Node :=
  .oneOf { items := [.category .space false false] }

/-- Any number of blanks. -/
def blanks : Node :=
  many blank

/-- At least one blank. -/
def gap : Node :=
  atLeastOne blank

/-- A word character, or one of the listed characters. -/
def wordCharOr (chars : String) : Node :=
  .oneOf { items := .category .word false false :: chars.toList.map fun c => .range c c }

/-- A non-empty run of word characters. -/
def name : Node :=
  atLeastOne (wordCharOr "")

end Node
end Pattern
end Codemap
