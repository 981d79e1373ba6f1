import Codemap.Pattern.Notation
import Codemap.Limits
import Codemap.Text.Identifier

namespace Codemap
namespace Pattern

/-!
# Reading a pattern

A written pattern is read from left to right.  Options are resolved into the leaves of
the tree while it is read, since options for the whole pattern can only stand at its
beginning.  Two checks are made at the end: an assertion about what precedes needs a
body of one width, and a condition needs a group that exists.

Reading what is inside a group takes two nested calls, and a branch of a condition one.
What has been read is then translated, which takes a call for every repetition, choice,
assertion and group.  Where the stack has no room for the calls the pattern is refused.

The functions that read nested parts have fuel; every part takes a token, so a
multiple of the number of tokens suffices.
-/

/-- The least and the greatest number of characters of a match.  Beyond `Width.limit` the
greatest number is not kept. -/
structure Width where
  least : Nat
  most : Nat
deriving DecidableEq, Repr, Inhabited

namespace Width

/-- The number beyond which widths are the same. -/
def limit : Nat := Nat.pow 2 64

/-- The width of one part after another. -/
def append (a b : Width) : Width :=
  ⟨min (a.least + b.least) limit, min (a.most + b.most) limit⟩

/-- The width of one of two parts. -/
def either (a b : Width) : Width :=
  ⟨min a.least b.least, max a.most b.most⟩

/-- The width of a repetition. -/
def repeated (a : Width) (least : Nat) : Option Nat → Width
  | some most => ⟨min (a.least * least) limit, min (a.most * most) limit⟩
  | none => ⟨min (a.least * least) limit, if a.most = 0 then 0 else limit⟩

end Width

/-- What a part of a pattern is, for a repetition after it. -/
inductive Kind where
  | anchor
  | repetition
  | other
deriving DecidableEq, Repr, Inhabited

/-- A part of a pattern that has been read. -/
structure Part where
  node : Node
  width : Width := ⟨0, 0⟩
  kind : Kind := .other
  /-- The pieces of the part that other alternatives may share: characters, classes,
  anchors and references, and nothing in the place of anything else. -/
  pieces : List (Option Node) := [none]
  /-- The number of nested calls that the translation of the part takes. -/
  calls : Nat := 0
deriving Inhabited

namespace Part

/-- A part that other alternatives may share. -/
def leaf (node : Node) (width : Width) (kind : Kind) : Part :=
  { node, width, kind, pieces := [some node] }

/-- Parts one after another. -/
def sequence (parts : List Part) : Part where
  node := Node.seq (parts.map Part.node)
  width := parts.foldl (fun width part => width.append part.width) ⟨0, 0⟩
  pieces := parts.flatMap Part.pieces
  calls := parts.foldr (fun part calls => max part.calls calls) 0

/-! ### Alternatives that are a class

Alternatives that differ only in one character at their end are read as if these
characters stood in a class.  That shows where case is ignored, since a character beyond
the basic plane is then a member of a class. -/

/-- The pieces with which an alternative and all others begin. -/
def sharedPieces : List (Option Node) → List (List (Option Node)) → List Node
  | some piece :: rest, others =>
      if others.all fun other => other.head? = some (some piece) then
        piece :: sharedPieces rest (others.map List.tail)
      else []
  | _, _ => []

/-- A piece as a class; nothing if it is not a character or a class of listed ones. -/
def listing? : Node → Option CharClass
  | .char c => some { items := [.single c] }
  | .oneOf cls =>
      if cls.negated then none
      else
        some { cls with
          items := cls.items.map fun item => match item with
            | .letter c => .single c
            | other => other }
  | _ => none

/-- The class of several alternatives that are a character or a class each. -/
def joined? : List (List (Option Node)) → Option CharClass
  | [] => some { items := [] }
  | [some piece] :: rest =>
      match listing? piece, joined? rest with
      | some cls, some others =>
          some { items := (cls.items ++ others.items).eraseDups
                 cases := if cls.cases = .exact then others.cases else cls.cases }
      | _, _ => none
  | _ => none

/-- One of several parts. -/
def choice : List Part → Part
  | [] => { node := .empty }
  | first :: rest =>
      let width := rest.foldl (fun width part => width.either part.width) first.width
      let shared := sharedPieces first.pieces (rest.map Part.pieces)
      match joined? ((first :: rest).map fun part => part.pieces.drop shared.length) with
      | some cls =>
          { node := Node.seq (shared ++ [.oneOf cls])
            width
            pieces := (shared ++ [Node.oneOf cls]).map some }
      | none =>
          { node := Node.choice ((first :: rest).map Part.node)
            width
            pieces := shared.map some ++ [none]
            calls := (Part.sequence (first :: rest)).calls + 1 }

end Part

/-- A position in a written pattern and what has been learnt about the pattern. -/
structure Reading where
  tokens : List Text
  /-- The changes of options for the whole pattern. -/
  changes : List OptionChange := []
  names : List (Text × Nat) := []
  /-- The widths of the groups so far; an open group has none. -/
  groups : List (Option Width) := []
  /-- The number of groups before the outermost assertion about what precedes. -/
  behindFrom : Option Nat := none
  conditions : List Nat := []
  /-- An assertion about what precedes has no single width. -/
  hasLooseBehind : Bool := false
  hasRepetition : Bool := false
  /-- The number of nested calls for which there is still room. -/
  room : Nat := stackRoom
deriving Inhabited

namespace Reading

/-- Move to other tokens. -/
def moveTo (reading : Reading) (tokens : List Text) : Reading :=
  { reading with tokens }

/-- The number that the next group gets. -/
def nextGroup (reading : Reading) : Nat :=
  reading.groups.length + 1

/-- The width of a group that is closed. -/
def width? (reading : Reading) (index : Nat) : Option Width :=
  (reading.groups[index - 1]?).join

/-- Step over a token that has to be there. -/
def expect (reading : Reading) (token : Text) : Except PatternFault Reading :=
  match reading.tokens with
  | next :: rest => if next = token then .ok (reading.moveTo rest) else .error .malformed
  | [] => .error .malformed

/-- Within an assertion about what precedes, a group may be referred to only if it is
closed and was opened before the assertion. -/
def checkBehind (reading : Reading) (index : Nat) : Except PatternFault Unit :=
  match reading.behindFrom with
  | none => .ok ()
  | some first =>
      if (reading.width? index).isSome && decide (index ≤ first) then .ok ()
      else .error .malformed

/-- A reference to a group, which has to be closed. -/
def reference (reading : Reading) (options : Options) (index : Nat) :
    Except PatternFault Part := do
  match reading.width? index with
  | some width =>
      reading.checkBehind index
      return .leaf (.sameAs index options.cases) width .other
  | none => throw .malformed

end Reading

/-- A part that matches one character. -/
def literalPart (options : Options) (code : Code) : Part :=
  let node := match options.cases, charWith? code with
    | .exact, some c => .char c
    | cases, found => .oneOf { items := (found.map ClassItem.letter).toList, cases }
  .leaf node ⟨1, 1⟩ .other

/-- The part for an escape. -/
def escapePart (reading : Reading) (options : Options) : Escape → Except PatternFault Part
  | .code code => .ok (literalPart options code)
  | .category kind negated =>
      let cls : CharClass :=
        { items := [.category kind options.isAscii negated], cases := options.cases }
      .ok (.leaf (.oneOf cls) ⟨1, 1⟩ .other)
  | .anchor condition => .ok (.leaf (.anchor (condition options.isAscii)) ⟨0, 0⟩ .anchor)
  | .group index => reading.reference options index

/-! ## Repetitions -/

/-- How often a part is repeated. -/
structure Count where
  least : Nat
  most : Option Nat
deriving DecidableEq, Repr, Inhabited

/-- A number of repetitions from this on is not counted. -/
def countLimit : Nat := 4294967295

/-- The number written by digits; nothing if there are none. -/
def countOf? (tokens : List Text) (digits : List Nat) : Except PatternFault (Option Nat) :=
  let value := Text.numberOfDigits 10 digits
  if digits.isEmpty then .ok none
  else if tokens = [loneBackslash] then .error .malformed
  else if Text.digitLimit < digits.length then .error (.tooManyDigits digits.length)
  else if countLimit ≤ value then .error .repetitionTooLarge
  else .ok (some value)

/-- The repetition in braces after an opening one; nothing if it is an ordinary
character. -/
def readBraces (tokens : List Text) : Except PatternFault (Option (Count × List Text)) := do
  if tokens.head? = some ['\x7d'] then return none
  let (low, afterLow) := takeDigits 10 tokens.length tokens
  let (high, rest) := match afterLow with
    | [','] :: later => takeDigits 10 later.length later
    | _ => (low, afterLow)
  match rest with
  | ['\x7d'] :: last =>
      let least ← countOf? last low
      let most ← countOf? last high
      match least, most with
      | some few, some many =>
          if many < few then throw .malformed
          return some (⟨few, some many⟩, last)
      | few, many => return some (⟨few.getD 0, many⟩, last)
  | _ => return none

/-- The repetition that a token begins. -/
def readCount (token : Text) (tokens : List Text) :
    Except PatternFault (Option (Count × List Text)) :=
  match token with
  | ['*'] => .ok (some (⟨0, none⟩, tokens))
  | ['+'] => .ok (some (⟨1, none⟩, tokens))
  | ['?'] => .ok (some (⟨0, some 1⟩, tokens))
  | ['\x7b'] => readBraces tokens
  | _ => .ok none

/-- Repeat the last part. -/
def repeatLast (count : Count) (parts : List Part) (tokens : List Text) :
    Except PatternFault (List Part × List Text) :=
  match parts with
  | [] => .error .malformed
  | last :: before =>
      if last.kind = .other then
        let (greed, rest) := match tokens with
          | ['?'] :: rest => (Greed.lazy, rest)
          | ['+'] :: rest => (Greed.possessive, rest)
          | _ => (Greed.greedy, tokens)
        .ok ({ node := .rep last.node count.least count.most greed
               width := last.width.repeated count.least count.most
               kind := .repetition
               calls := last.calls + 1 } :: before, rest)
      else .error .malformed

/-! ## Groups -/

/-- The function that reads the inside of a group up to its end. -/
abbrev Inner := Options → Reading → Except PatternFault (Part × Reading)

/-- Read what is inside with so many nested calls. -/
def nested (calls : Nat) (inner : Inner) : Inner := fun options reading =>
  if reading.room < calls then .error .nestedTooDeeply
  else do
    let (part, next) ← inner options { reading with room := reading.room - calls }
    return (part, { next with room := next.room + calls })

/-- What a parenthesis turned out to be. -/
inductive Opened where
  | part (part : Part)
  | comment
  | options (change : OptionChange)

/-- Read the inside of a group and its closing parenthesis. -/
def enclosed (inner : Inner) (options : Options) (reading : Reading) :
    Except PatternFault (Part × Reading) := do
  let (part, next) ← inner options reading
  return (part, ← next.expect [')'])

/-- Read a group that is numbered and may have a name. -/
def readGroup (inner : Inner) (options : Options) (name : Option Text) (reading : Reading) :
    Except PatternFault (Opened × Reading) := do
  let index := reading.nextGroup
  let names ← match name with
    | none => pure reading.names
    | some name =>
        if reading.names.any fun entry => entry.1 == name then throw .malformed
        else pure ((name, index) :: reading.names)
  let opened := { reading with groups := reading.groups ++ [none], names }
  let (body, next) ← enclosed inner options opened
  let closed := { next with groups := next.groups.set (index - 1) (some body.width) }
  let group : Part :=
    { node := .group index body.node, width := body.width, calls := body.calls + 1 }
  return (.part group, closed)

/-- Read an assertion about what follows. -/
def readAhead (inner : Inner) (options : Options) (negated : Bool) (reading : Reading) :
    Except PatternFault (Opened × Reading) := do
  let (body, next) ← enclosed inner options reading
  return (.part { node := .look 0 negated body.node, calls := body.calls + 1 }, next)

/-- The largest width of an assertion about what precedes. -/
def behindLimit : Nat := 4294967295

/-- Read an assertion about what precedes. -/
def readBehind (inner : Inner) (options : Options) (negated : Bool) (reading : Reading) :
    Except PatternFault (Opened × Reading) := do
  let first := reading.behindFrom.getD reading.groups.length
  let (body, next) ← inner options { reading with behindFrom := some first }
  let last ← { next with behindFrom := reading.behindFrom }.expect [')']
  let isLoose := body.width.least ≠ body.width.most ∨ behindLimit < body.width.least
  return (.part { node := .look body.width.least negated body.node, calls := body.calls + 1 },
    { last with hasLooseBehind := last.hasLooseBehind || isLoose })

/-- The number of the group that a condition names. -/
def conditionGroup (reading : Reading) (name : Text) : Except PatternFault (Nat × Bool) :=
  if Text.isIdentifier name then
    match reading.names.find? fun entry => entry.1 == name with
    | some (_, index) => .ok (index, false)
    | none => .error .malformed
  else
    match Text.readInteger? name with
    | some n => if 0 < n then .ok (n.toNat, true) else .error .malformed
    | none => .error .malformed

/-- Read a choice that depends on a group.  `branch` reads one branch. -/
def readCondition (branch : Inner) (options : Options) (reading : Reading) :
    Except PatternFault (Opened × Reading) := do
  let (name, rest) ← upTo [')'] [] reading.tokens
  let (index, isNumber) ← conditionGroup reading name
  reading.checkBehind index
  let noted := { reading with
    tokens := rest
    conditions := if isNumber then index :: reading.conditions else reading.conditions }
  let (yes, next) ← branch options noted
  match next.tokens with
  | ['|'] :: later =>
      let (no, last) ← branch options (next.moveTo later)
      let closed ← last.expect [')']
      let chosen : Part :=
        { node := .ifGroup index yes.node no.node
          width := yes.width.either no.width
          calls := max yes.calls no.calls + 1 }
      return (.part chosen, closed)
  | _ =>
      let closed ← next.expect [')']
      let chosen : Part :=
        { node := .ifGroup index yes.node .empty
          width := ⟨0, yes.width.most⟩
          calls := yes.calls + 1 }
      return (.part chosen, closed)

/-- Skip a comment up to its closing parenthesis. -/
def skipRemark : List Text → Except PatternFault (List Text)
  | [] => .error .malformed
  | token :: rest => if token = [')'] then .ok rest else skipRemark rest

/-- Read what follows an opening parenthesis. -/
def readParenthesis (inner branch : Inner) (options : Options) (reading : Reading) :
    Except PatternFault (Opened × Reading) :=
  match reading.tokens with
  | ['?'] :: ['P'] :: ['<'] :: rest => do
      let (name, last) ← upTo ['>'] [] rest
      if !Text.isIdentifier name then throw .malformed
      readGroup inner options (some name) (reading.moveTo last)
  | ['?'] :: ['P'] :: ['='] :: rest => do
      let (name, last) ← upTo [')'] [] rest
      match reading.names.find? fun entry => entry.1 == name with
      | some (_, index) => return (.part (← reading.reference options index), reading.moveTo last)
      | none => throw .malformed
  | ['?'] :: [':'] :: rest => do
      let (part, next) ← enclosed inner options (reading.moveTo rest)
      return (.part { part with kind := .other }, next)
  | ['?'] :: ['#'] :: rest => do
      return (.comment, reading.moveTo (← skipRemark rest))
  | ['?'] :: ['='] :: rest => readAhead inner options false (reading.moveTo rest)
  | ['?'] :: ['!'] :: rest => readAhead inner options true (reading.moveTo rest)
  | ['?'] :: ['<'] :: ['='] :: rest => readBehind inner options false (reading.moveTo rest)
  | ['?'] :: ['<'] :: ['!'] :: rest => readBehind inner options true (reading.moveTo rest)
  | ['?'] :: ['('] :: rest => readCondition branch options (reading.moveTo rest)
  | ['?'] :: ['>'] :: rest => do
      let (part, next) ← enclosed inner options (reading.moveTo rest)
      let whole : Part :=
        { node := .atomic part.node, width := part.width, calls := part.calls + 1 }
      return (.part whole, next)
  | ['?'] :: [c] :: rest => do
      if !optionLetters.contains c && c != '-' then throw .malformed
      let (change, isGlobal, last) ← readOptions ([c] :: rest)
      if isGlobal then return (.options change, reading.moveTo last)
      let (part, next) ← enclosed inner (options.changed change) (reading.moveTo last)
      let whole : Part :=
        { part with kind := .other, pieces := [none], calls := part.calls + 1 }
      return (.part whole, next)
  | ['?'] :: _ => .error .malformed
  | _ => readGroup inner options none reading

/-! ## The whole pattern -/

/-- Skip a comment up to the end of its line. -/
def skipToBreak : List Text → List Text
  | [] => []
  | token :: rest => if token = ['\n'] then rest else skipToBreak rest

/-- The blanks that a verbose pattern may hold. -/
def isLayout (token : Text) : Bool :=
  match token with
  | [c] => c == ' ' || (9 ≤ c.toNat && c.toNat ≤ 13)
  | _ => false

/-- The part for a token without nesting; nothing if the token begins something else. -/
def simplePart? (options : Options) (token : Text) : Option Part :=
  match token with
  | ['.'] =>
      let cls : CharClass := if options.dotAll then .notChars [] else .notChars ['\n']
      some (.leaf (.oneOf cls) ⟨1, 1⟩ .other)
  | ['^'] =>
      let condition : Anchor := if options.isMultiline then .lineStart else .textStart
      some (.leaf (.anchor condition) ⟨0, 0⟩ .anchor)
  | ['$'] =>
      let condition : Anchor := if options.isMultiline then .lineEnd else .textEndOrLastBreak
      some (.leaf (.anchor condition) ⟨0, 0⟩ .anchor)
  | [c] => if "\\[(*+?\x7b".toList.contains c then none else some (literalPart options c.toNat)
  | _ => none

/-- What a token begins that is no part by itself. -/
inductive Start where
  | escape (c : Char)
  | cls
  | parenthesis
  | count
deriving DecidableEq, Repr

/-- What a token begins, if it is no part by itself. -/
def startOf (token : Text) : Start :=
  if token = ['['] then .cls
  else if token = ['('] then .parenthesis
  else
    match token with
    | [mark, c] => if mark = '\\' then .escape c else .count
    | _ => .count

mutual

/-- Read alternatives up to a closing parenthesis or the end.  The options after the
first alternative hold for the others too. -/
def readChoice : Nat → Bool → Options → Reading → Except PatternFault (Part × Reading)
  | 0, _, _, _ => .error .malformed
  | fuel + 1, isOutermost, options, reading => do
      let (parts, settled, next) ← readSequence fuel isOutermost options [] reading
      let first := Part.sequence parts.reverse
      match next.tokens with
      | ['|'] :: rest =>
          let (others, last) ← readOthers fuel settled (next.moveTo rest)
          return (Part.choice (first :: others), last)
      | _ => return (first, next)

/-- Read the alternatives after the first. -/
def readOthers : Nat → Options → Reading → Except PatternFault (List Part × Reading)
  | 0, _, _ => .error .malformed
  | fuel + 1, options, reading => do
      let (parts, _, next) ← readSequence fuel false options [] reading
      let part := Part.sequence parts.reverse
      match next.tokens with
      | ['|'] :: rest =>
          let (others, last) ← readOthers fuel options (next.moveTo rest)
          return (part :: others, last)
      | _ => return ([part], next)

/-- Read parts one after another; the last one comes first in the result.  `mayChange`
says that options for the whole pattern may stand here as long as no part does. -/
def readSequence : Nat → Bool → Options → List Part → Reading →
    Except PatternFault (List Part × Options × Reading)
  | 0, _, _, _, _ => .error .malformed
  | fuel + 1, mayChange, options, parts, reading =>
      match reading.tokens with
      | [] => .ok (parts, options, reading)
      | token :: rest =>
          let next := reading.moveTo rest
          if token = ['|'] ∨ token = [')'] then .ok (parts, options, reading)
          else if token = loneBackslash then .error .malformed
          else if options.isVerbose && isLayout token then
            readSequence fuel mayChange options parts next
          else if options.isVerbose && token == ['#'] then
            readSequence fuel mayChange options parts (next.moveTo (skipToBreak rest))
          else
            match simplePart? options token with
            | some part => readSequence fuel mayChange options (part :: parts) next
            | none => do
                match startOf token with
                | .escape c =>
                    let (found, last) ← readEscape c rest
                    let part ← escapePart reading options found
                    readSequence fuel mayChange options (part :: parts) (next.moveTo last)
                | .cls =>
                    let (cls, last) ← readClass options rest
                    let part : Part := .leaf (.oneOf cls) ⟨1, 1⟩ .other
                    readSequence fuel mayChange options (part :: parts) (next.moveTo last)
                | .parenthesis =>
                    let inner : Inner := readChoice fuel false
                    let branch : Inner := fun options reading => do
                      let (found, _, last) ← readSequence fuel false options [] reading
                      return (Part.sequence found.reverse, last)
                    match ← readParenthesis (nested 2 inner) (nested 1 branch) options next with
                    | (.part part, last) =>
                        readSequence fuel mayChange options (part :: parts) last
                    | (.comment, last) => readSequence fuel mayChange options parts last
                    | (.options change, last) =>
                        if mayChange && parts.isEmpty then
                          readSequence fuel mayChange (options.changed change) parts
                            { last with changes := change :: last.changes }
                        else throw .malformed
                | .count =>
                    match ← readCount token rest with
                    | none =>
                        readSequence fuel mayChange options
                          (literalPart options (token.headD '\x7b').toNat :: parts) next
                    | some (count, last) =>
                        let (repeated, final) ← repeatLast count parts last
                        readSequence fuel mayChange options repeated
                          { next with tokens := final, hasRepetition := true }

end

namespace Node

/-- Read a pattern under options that hold from its beginning.  It is refused where it is
malformed, and where reading it runs into one of the limits of the program: digits of a
number, repetitions or nested calls. -/
def ofText (options : Options) (text : Text) : Except PatternFault Node := do
  let tokens := cut text
  let (part, last) ← readChoice (4 * tokens.length + 8) true options { tokens }
  let letters := last.changes.flatMap OptionChange.turnedOn
  if letters.contains 'a' && letters.contains 'u' then throw .incompatibleOptions
  if !last.tokens.isEmpty then throw .malformed
  if last.conditions.any fun index => last.groups.length < index then throw .malformed
  if last.hasLooseBehind || (letters.contains 't' && last.hasRepetition) then throw .malformed
  if stackRoom < part.calls then throw .nestedTooDeeply
  return part.node

end Node
end Pattern
end Codemap
