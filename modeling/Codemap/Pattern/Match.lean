import Codemap.Pattern.Node

namespace Codemap
namespace Pattern

/-!
# Matching by backtracking

Matching a pattern tries its possibilities in a fixed order and takes the first
one after which the rest of the pattern matches too.  The rest is passed along
as a continuation, so a pattern is matched by recursion on the tree alone.

An unbounded repetition cannot go on for ever: after a pass that consumed
nothing the loop ends, so the number of passes is bounded by the number of
characters that remain.  That bound is carried by the position itself.
-/

/-- A position in a text: what precedes it, nearest character first, and what
follows it.  The number of characters that follow is kept beside them. -/
structure Cursor where
  before : Text
  after : Text
  remaining : Nat
  remaining_eq : remaining = after.length

namespace Cursor

/-- The beginning of a text. -/
def start (text : Text) : Cursor :=
  ⟨[], text, text.length, rfl⟩

/-- Step over one character. -/
def next? (cursor : Cursor) : Option (Char × Cursor) :=
  match cursor with
  | ⟨_, [], _, _⟩ => none
  | ⟨before, c :: rest, remaining, length⟩ =>
      some (c, ⟨c :: before, rest, remaining - 1, by simp [length]⟩)

/-- Step back over a number of characters. -/
def back? (cursor : Cursor) : Nat → Option Cursor
  | 0 => some cursor
  | n + 1 =>
      match cursor with
      | ⟨[], _, _, _⟩ => none
      | ⟨c :: before, after, remaining, length⟩ =>
          back? ⟨before, c :: after, remaining + 1, by simp [length]⟩ n

/-- The column of the position. -/
def offset (cursor : Cursor) : Nat :=
  cursor.before.length

/-- The text between a position and a later one. -/
def upTo (first last : Cursor) : Text :=
  first.after.take (first.remaining - last.remaining)

/-- Exactly one side of the position is a word character. -/
def atWordEdge (ascii : Bool) (cursor : Cursor) : Bool :=
  let isWord (side : Option Char) := side.any fun c => Category.word.contains ascii c
  isWord cursor.before.head? != isWord cursor.after.head?

/-- A condition holds at the position.  In an empty text neither word condition
does. -/
def satisfies (cursor : Cursor) : Anchor → Bool
  | .textStart => cursor.before.isEmpty
  | .lineStart => cursor.before.head?.all (· == '\n')
  | .textEnd => cursor.after.isEmpty
  | .textEndOrLastBreak => cursor.after.isEmpty || cursor.after == ['\n']
  | .lineEnd => cursor.after.head?.all (· == '\n')
  | .wordEdge ascii => cursor.atWordEdge ascii
  | .notWordEdge ascii =>
      !(cursor.before.isEmpty && cursor.after.isEmpty) && !cursor.atWordEdge ascii

end Cursor

/-- The extent of a group that took part in a match. -/
structure Capture where
  index : Nat
  first : Cursor
  last : Cursor

/-- A position together with the groups matched so far, the latest first. -/
structure MatchState where
  cursor : Cursor
  captures : List Capture

namespace MatchState

/-- The latest extent of a group. -/
def capture? (state : MatchState) (index : Nat) : Option Capture :=
  state.captures.find? fun capture => capture.index == index

/-- The text a group matched last. -/
def group? (state : MatchState) (index : Nat) : Option Text :=
  (state.capture? index).map fun capture => capture.first.upTo capture.last

/-- Record the extent of a group that ends here. -/
def record (state : MatchState) (index : Nat) (first : Cursor) : MatchState :=
  { state with captures := ⟨index, first, state.cursor⟩ :: state.captures }

end MatchState

/-- What has to match after a pattern. -/
abbrev Continuation := MatchState → Option MatchState

/-- A pattern's matching function: it takes what has to match afterwards. -/
abbrev Matcher := Continuation → MatchState → Option MatchState

namespace Matcher

/-- The first result if there is one, otherwise the second. -/
def orElse (first : Option MatchState) (second : Unit → Option MatchState) : Option MatchState :=
  match first with
  | some state => some state
  | none => second ()

/-- A body exactly `n` times. -/
def exactly (body : Matcher) (rest : Continuation) : Nat → MatchState → Option MatchState
  | 0, state => rest state
  | n + 1, state => body (exactly body rest n) state

/-- A body up to `fuel` times, more before fewer. -/
def greedyLoop (body : Matcher) (rest : Continuation) : Nat → MatchState → Option MatchState
  | 0, state => rest state
  | fuel + 1, state =>
      orElse
        (body (fun later =>
          if later.cursor.remaining = state.cursor.remaining then rest later
          else greedyLoop body rest fuel later) state)
        fun _ => rest state

/-- A body up to `fuel` times, fewer before more. -/
def lazyLoop (body : Matcher) (rest : Continuation) : Nat → MatchState → Option MatchState
  | 0, state => rest state
  | fuel + 1, state =>
      orElse (rest state) fun _ =>
        body (fun later =>
          if later.cursor.remaining = state.cursor.remaining then rest later
          else lazyLoop body rest fuel later) state

/-- A body up to `fuel` times, each pass final. -/
def possessiveLoop (body : Matcher) (rest : Continuation) : Nat → MatchState → Option MatchState
  | 0, state => rest state
  | fuel + 1, state =>
      match body some state with
      | some later =>
          if later.cursor.remaining = state.cursor.remaining then rest later
          else possessiveLoop body rest fuel later
      | none => rest state

/-- A body between `least` and `most` times.  Beyond the least number, one pass
more than the characters that remain is as good as any number. -/
def loop (body : Matcher) (least : Nat) (most : Option Nat) (greed : Greed) : Matcher :=
  fun rest state =>
    let passes (here : MatchState) : Nat := match most with
      | some most => min (most - least) (here.cursor.remaining + 1)
      | none => here.cursor.remaining + 1
    match greed with
    | .greedy => exactly body (fun here => greedyLoop body rest (passes here) here) least state
    | .lazy => exactly body (fun here => lazyLoop body rest (passes here) here) least state
    | .possessive =>
        exactly (fun final here => (body some here).bind final)
          (fun here => possessiveLoop body rest (passes here) here) least state

/-- A literal text, compared character by character. -/
def literally (cases : CaseRule) (rest : Continuation) : Text → MatchState → Option MatchState
  | [], state => rest state
  | expected :: more, state =>
      match state.cursor.next? with
      | some (c, later) =>
          if sameLetter cases expected c then
            literally cases rest more { state with cursor := later }
          else none
      | none => none

end Matcher

namespace Node

/-- Match a pattern at a position, and then the rest. -/
def run : Node → Matcher
  | .empty, rest, state => rest state
  | .never, _, _ => none
  | .char expected, rest, state =>
      match state.cursor.next? with
      | some (c, later) => if c = expected then rest { state with cursor := later } else none
      | none => none
  | .oneOf cls, rest, state =>
      match state.cursor.next? with
      | some (c, later) => if cls.contains c then rest { state with cursor := later } else none
      | none => none
  | .cat first second, rest, state => run first (run second rest) state
  | .alt first second, rest, state =>
      Matcher.orElse (run first rest state) fun _ => run second rest state
  | .rep body least most greed, rest, state =>
      Matcher.loop (run body) least most greed rest state
  | .group index body, rest, state =>
      run body (fun later => rest (later.record index state.cursor)) state
  | .anchor condition, rest, state =>
      if state.cursor.satisfies condition then rest state else none
  | .sameAs index cases, rest, state =>
      match state.group? index with
      | some text => Matcher.literally cases rest text state
      | none => none
  | .look behind negated body, rest, state =>
      let found := (state.cursor.back? behind).bind fun earlier =>
        run body some { state with cursor := earlier }
      match found, negated with
      | some inner, false => rest { inner with cursor := state.cursor }
      | none, true => rest state
      | _, _ => none
  | .atomic body, rest, state =>
      match run body some state with
      | some later => rest later
      | none => none
  | .ifGroup index yes no, rest, state =>
      if (state.capture? index).isSome then run yes rest state else run no rest state

end Node

/-- A match: where it begins, and the state in which it ends. -/
structure Match where
  first : Cursor
  last : MatchState

namespace Match

/-- The matched text. -/
def text (found : Match) : Text :=
  found.first.upTo found.last.cursor

/-- The text a group matched. -/
def group? (found : Match) (index : Nat) : Option Text :=
  found.last.group? index

/-- The column at which the match begins. -/
def offset (found : Match) : Nat :=
  found.first.offset

end Match

namespace Node

/-- Match a pattern at a position. -/
def matchAt? (node : Node) (cursor : Cursor) : Option Match :=
  (node.run some ⟨cursor, []⟩).map fun last => ⟨cursor, last⟩

/-- Match a pattern at the beginning of a text. -/
def matchStart? (node : Node) (text : Text) : Option Match :=
  node.matchAt? (.start text)

/-- The pattern matches at the beginning of a text. -/
def matchesStart (node : Node) (text : Text) : Bool :=
  (node.matchStart? text).isSome

/-- The pattern matches a text from its beginning to its end. -/
def matchesAll (node : Node) (text : Text) : Bool :=
  (node.run (fun state => if state.cursor.after.isEmpty then some state else none)
    ⟨.start text, []⟩).isSome

/-- The first match at or after a position; `fuel` bounds the positions tried. -/
def searchFrom? (node : Node) : Nat → Cursor → Option Match
  | 0, _ => none
  | fuel + 1, cursor =>
      match node.matchAt? cursor with
      | some found => some found
      | none =>
          match cursor.next? with
          | some (_, later) => searchFrom? node fuel later
          | none => none

/-- The first match in a text. -/
def search? (node : Node) (text : Text) : Option Match :=
  node.searchFrom? (text.length + 1) (.start text)

/-- All matches in a text from left to right, none overlapping another.  After
an empty match the search goes on one character further. -/
def findAllFrom (node : Node) : Nat → Cursor → List Match
  | 0, _ => []
  | fuel + 1, cursor =>
      match node.searchFrom? (cursor.remaining + 1) cursor with
      | none => []
      | some found =>
          let stop := found.last.cursor
          if stop.remaining < found.first.remaining then
            found :: findAllFrom node fuel stop
          else
            match stop.next? with
            | some (_, later) => found :: findAllFrom node fuel later
            | none => [found]

/-- All matches in a text from left to right. -/
def findAll (node : Node) (text : Text) : List Match :=
  node.findAllFrom (text.length + 1) (.start text)

end Node
end Pattern
end Codemap
