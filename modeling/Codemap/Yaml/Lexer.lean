import Codemap.Limits
import Codemap.Yaml.ScalarText
import Codemap.Text.Utf8

namespace Codemap
namespace Yaml

/-!
# Cutting a document into tokens

The lexer keeps track of indentation and of simple keys.  A simple key is a node
that may turn out to be a mapping key when a colon follows it on the same line;
its position in the token list is remembered, and when the colon comes, the
tokens that open a mapping and announce a key are put in there.  A key that had
to be one, because it stands at the indentation of a block collection, and is
not followed by a colon makes the document malformed.

The tokens are kept with the latest one first, so the lexer puts them in near the
front of its list.
-/

/-- A node that may become a mapping key. -/
structure SimpleKey where
  flowLevel : Nat
  /-- The number of tokens before the node. -/
  position : Nat
  isRequired : Bool
  index : Nat
  line : Nat
  column : Nat
deriving Repr, Inhabited

/-- The state of the lexer. -/
structure Lexer where
  source : Source
  /-- The tokens so far, the latest first, and their number. -/
  tokens : List Token := []
  count : Nat := 0
  flowLevel : Nat := 0
  indent : Int := -1
  outerIndents : List Int := []
  allowSimpleKey : Bool := true
  simpleKeys : List SimpleKey := []
  isDone : Bool := false
deriving Repr, Inhabited

namespace Lexer

/-- A simple key must be completed within this many characters. -/
def longestSimpleKey : Nat := 1024

/-- Add a token. -/
def add (lexer : Lexer) (token : Token) : Lexer :=
  { lexer with tokens := token :: lexer.tokens, count := lexer.count + 1 }

/-- Put a token in after the first `position` tokens. -/
def putIn (lexer : Lexer) (position : Nat) (token : Token) : Lexer :=
  let later := lexer.count - position
  { lexer with
    tokens := lexer.tokens.take later ++ token :: lexer.tokens.drop later
    count := lexer.count + 1 }

/-- Move the lexer to another position. -/
def moveTo (lexer : Lexer) (source : Source) : Lexer :=
  { lexer with source }

/-! ## Simple keys -/

/-- Forget the simple keys that can no longer be completed. -/
def forgetStale (lexer : Lexer) : Except Fault Lexer :=
  let isStale (key : SimpleKey) : Bool :=
    key.line != lexer.source.line || lexer.source.index - key.index > longestSimpleKey
  if lexer.simpleKeys.any fun key => isStale key && key.isRequired then .error .malformed
  else .ok { lexer with simpleKeys := lexer.simpleKeys.filter fun key => !isStale key }

/-- The simple key at the current level of nesting. -/
def currentKey? (lexer : Lexer) : Option SimpleKey :=
  lexer.simpleKeys.find? fun key => key.flowLevel == lexer.flowLevel

/-- Give up the simple key at the current level of nesting. -/
def dropKey (lexer : Lexer) : Except Fault Lexer :=
  match lexer.currentKey? with
  | none => .ok lexer
  | some key =>
      if key.isRequired then .error .malformed
      else
        .ok { lexer with
          simpleKeys := lexer.simpleKeys.filter fun key => key.flowLevel != lexer.flowLevel }

/-- Remember that the next token may begin a simple key. -/
def saveKey (lexer : Lexer) : Except Fault Lexer :=
  if !lexer.allowSimpleKey then .ok lexer
  else
    match lexer.dropKey with
    | .error why => .error why
    | .ok cleared =>
        let source := lexer.source
        let key : SimpleKey :=
          { flowLevel := lexer.flowLevel, position := lexer.count
            isRequired := lexer.flowLevel == 0 && lexer.indent == source.column
            index := source.index, line := source.line, column := source.column }
        .ok { cleared with simpleKeys := key :: cleared.simpleKeys }

/-! ## Indentation -/

/-- Close the block collections that are indented further than a column; `fuel`
bounds their number. -/
def unwindBy (column : Int) : Nat → Lexer → Lexer
  | 0, lexer => lexer
  | fuel + 1, lexer =>
      if lexer.indent ≤ column then lexer
      else
        match lexer.outerIndents with
        | [] => lexer
        | outer :: others =>
            unwindBy column fuel
              { lexer.add .blockEnd with indent := outer, outerIndents := others }

/-- Close the block collections that are indented further than a column.  Inside a
flow collection indentation has no meaning. -/
def unwind (lexer : Lexer) (column : Int) : Lexer :=
  if lexer.flowLevel = 0 then unwindBy column lexer.outerIndents.length lexer else lexer

/-- Open a block collection at a column; false if it is open already. -/
def openAt (lexer : Lexer) (column : Nat) : Bool × Lexer :=
  if lexer.indent < (column : Int) then
    (true, { lexer with indent := column, outerIndents := lexer.indent :: lexer.outerIndents })
  else (false, lexer)

/-! ## Tokens by kind -/

/-- The end of the text. -/
def fetchEnd (lexer : Lexer) : Except Fault Lexer := do
  let closed ← (lexer.unwind (-1)).dropKey
  return { closed.add .streamEnd with
    allowSimpleKey := false, simpleKeys := [], isDone := true }

/-- A mark of three characters that separates documents. -/
def fetchSeparator (lexer : Lexer) (token : Token) : Except Fault Lexer := do
  let closed ← (lexer.unwind (-1)).dropKey
  return ({ closed with allowSimpleKey := false }.moveTo (closed.source.steps 3)).add token

/-- The opening bracket of a flow collection. -/
def fetchFlowStart (lexer : Lexer) (token : Token) : Except Fault Lexer := do
  let saved ← lexer.saveKey
  return ({ saved with flowLevel := saved.flowLevel + 1, allowSimpleKey := true }.moveTo
    saved.source.step).add token

/-- The closing bracket of a flow collection; there must be one to close. -/
def fetchFlowEnd (lexer : Lexer) (token : Token) : Except Fault Lexer := do
  let cleared ← lexer.dropKey
  match cleared.flowLevel with
  | 0 => .error .malformed
  | level + 1 =>
      return ({ cleared with flowLevel := level, allowSimpleKey := false }.moveTo
        cleared.source.step).add token

/-- The comma of a flow collection. -/
def fetchFlowEntry (lexer : Lexer) : Except Fault Lexer := do
  let cleared ← { lexer with allowSimpleKey := true }.dropKey
  return (cleared.moveTo cleared.source.step).add .flowEntry

/-- An indicator that may open a block collection where it stands. -/
def openBlock (lexer : Lexer) (start : Token) : Except Fault Lexer :=
  if lexer.flowLevel ≠ 0 then .ok lexer
  else if !lexer.allowSimpleKey then .error .malformed
  else
    match lexer.openAt lexer.source.column with
    | (true, opened) => .ok (opened.add start)
    | (false, same) => .ok same

/-- The hyphen of a block sequence. -/
def fetchBlockEntry (lexer : Lexer) : Except Fault Lexer := do
  let opened ← lexer.openBlock .blockSequenceStart
  let cleared ← { opened with allowSimpleKey := true }.dropKey
  return (cleared.moveTo cleared.source.step).add .blockEntry

/-- The question mark before a mapping key. -/
def fetchKey (lexer : Lexer) : Except Fault Lexer := do
  let opened ← lexer.openBlock .blockMappingStart
  let cleared ← { opened with allowSimpleKey := opened.flowLevel == 0 }.dropKey
  return (cleared.moveTo cleared.source.step).add .key

/-- The colon before a mapping value.  If a simple key is waiting, it becomes the
key; otherwise the key is empty. -/
def fetchValue (lexer : Lexer) : Except Fault Lexer := do
  let ready ←
    match lexer.currentKey? with
    | some key =>
        let cleared :=
          { lexer with
            simpleKeys := lexer.simpleKeys.filter fun key => key.flowLevel != lexer.flowLevel }
        let announced := cleared.putIn key.position .key
        let opened :=
          if announced.flowLevel ≠ 0 then announced
          else
            match announced.openAt key.column with
            | (true, opened) => opened.putIn key.position .blockMappingStart
            | (false, same) => same
        pure { opened with allowSimpleKey := false }
    | none =>
        let opened ← lexer.openBlock .blockMappingStart
        { opened with allowSimpleKey := opened.flowLevel == 0 }.dropKey
  return (ready.moveTo ready.source.step).add .value

/-- The name after an alias or anchor mark. -/
def readName (source : Source) : Except Fault (Text × Source) :=
  let (name, after) := source.step.takeRun isNameChar
  let mayFollow := isGap after.peek ||
    after.peek.any fun c => "?:,]\x7d%@\x60".toList.contains c
  if name.isEmpty || !mayFollow then .error .malformed else .ok (name, after)

/-- An alias or an anchor. -/
def fetchName (lexer : Lexer) (token : Text → Token) : Except Fault Lexer := do
  let saved ← lexer.saveKey
  let (name, after) ← readName saved.source
  return ({ saved with allowSimpleKey := false }.moveTo after).add (token name)

/-- A handle of a tag, from its first exclamation mark to its last. -/
def readHandle (source : Source) : Except Fault (Text × Source) :=
  if source.peek ≠ some '!' then .error .malformed
  else
    let (name, after) := source.step.takeRun isNameChar
    if name.isEmpty ∧ after.peek = some ' ' then .ok (['!'], after)
    else if after.peek = some '!' then .ok ('!' :: name ++ ['!'], after.step)
    else .error .malformed

/-- A run of escaped bytes in an address. -/
def readEscapes (found : Bytes) : Nat → Source → Except Fault (Text × Source)
  | 0, _ => .error .malformed
  | fuel + 1, source =>
      if source.peek = some '%' then
        match hexNumber? (source.step.rest.take 2), (source.step.rest.take 2).length with
        | some n, 2 => readEscapes (found ++ [UInt8.ofNat n]) fuel (source.steps 3)
        | _, _ => .error .malformed
      else
        match Utf8.decode found with
        | .ok text => .ok (text, source)
        | .error _ => .error .malformed

/-- The address of a tag. -/
def readAddress (found : Text) : Nat → Source → Except Fault (Text × Source)
  | 0, _ => .error .malformed
  | fuel + 1, source =>
      let (run, after) := source.takeRun fun c => isAddressChar c && c != '%'
      if after.peek = some '%' then
        match readEscapes [] (after.rest.length + 1) after with
        | .ok (text, next) => readAddress (found ++ run ++ text) fuel next
        | .error why => .error why
      else .ok (found ++ run, after)

/-- The address of a tag, which must not be empty. -/
def address (source : Source) : Except Fault (Text × Source) :=
  match readAddress [] (source.rest.length + 1) source with
  | .error why => .error why
  | .ok (text, after) =>
      if after.index = source.index then .error .malformed else .ok (text, after)

/-- A tag: an address in angle brackets, a lone exclamation mark, or a handle and
the rest of an address. -/
def readTag (source : Source) : Except Fault (Option Text × Text × Source) := do
  let (handle, suffix, after) ←
    if source.peekAt 1 = some '<' then do
      let (text, after) ← address (source.steps 2)
      if after.peek = some '>' then pure (none, text, after.step) else throw .malformed
    else if isGap (source.peekAt 1) then pure (none, ['!'], source.step)
    else do
      let ahead := source.step.rest.takeWhile fun c => !(c == ' ' || isBreak c)
      let (handle, next) ←
        if '!' ∈ ahead then readHandle source else pure (['!'], source.step)
      let (text, after) ← address next
      pure (some handle, text, after)
  if isSpaceOrEnd after.peek then pure (handle, suffix, after) else throw .malformed

/-- A tag. -/
def fetchTag (lexer : Lexer) : Except Fault Lexer := do
  let saved ← lexer.saveKey
  let (handle, suffix, after) ← readTag saved.source
  return ({ saved with allowSimpleKey := false }.moveTo after).add (.tag handle suffix)

/-- A number of a version. -/
def readVersionPart (source : Source) : Except Fault (Nat × Source) :=
  let (digits, after) := source.takeRun Char.isDigit
  if digits.isEmpty then .error .malformed
  else if Text.digitLimit < digits.length then .error (.scalar (.tooManyDigits digits.length))
  else .ok (digits.foldl (fun n c => n * 10 + (c.toNat - 48)) 0, after)

/-- A directive; the position is at its percent sign. -/
def readDirective (source : Source) : Except Fault (Directive × Source) := do
  let (name, afterName) := source.step.takeRun isNameChar
  if name.isEmpty || !isSpaceOrEnd afterName.peek then throw .malformed
  let (content, after) ←
    if name = "YAML".toList then do
      let (major, dot) ← readVersionPart afterName.skipSpaces
      if dot.peek ≠ some '.' then throw .malformed
      let (minor, stop) ← readVersionPart dot.step
      if !isSpaceOrEnd stop.peek then throw .malformed
      pure (Directive.version major minor, stop)
    else if name = "TAG".toList then do
      let (handle, afterHandle) ← readHandle afterName.skipSpaces
      if afterHandle.peek ≠ some ' ' then throw .malformed
      let (start, stop) ← address afterHandle.skipSpaces
      if !isSpaceOrEnd stop.peek then throw .malformed
      pure (Directive.handle handle start, stop)
    else pure (Directive.other, afterName.skipRun fun c => !isBreak c)
  let next ← after.finishLine
  pure (content, next)

/-- A directive. -/
def fetchDirective (lexer : Lexer) : Except Fault Lexer := do
  let closed ← (lexer.unwind (-1)).dropKey
  let (content, after) ← readDirective closed.source
  return ({ closed with allowSimpleKey := false }.moveTo after).add (.directive content)

/-- A block scalar. -/
def fetchBlockScalar (lexer : Lexer) (isFolded : Bool) : Except Fault Lexer := do
  let cleared ← { lexer with allowSimpleKey := true }.dropKey
  let found ← Block.read isFolded cleared.indent cleared.source
  return (cleared.moveTo found.after).add (.scalar found.content false)

/-- A quoted scalar. -/
def fetchQuoted (lexer : Lexer) (isDouble : Bool) : Except Fault Lexer := do
  let saved ← lexer.saveKey
  let found ← Quoted.read isDouble saved.source
  return ({ saved with allowSimpleKey := false }.moveTo found.after).add (.scalar found.content false)

/-- A plain scalar.  A line break after it allows a simple key again. -/
def fetchPlain (lexer : Lexer) : Except Fault Lexer := do
  let saved ← lexer.saveKey
  let found := Plain.read (saved.flowLevel != 0) (saved.indent + 1) saved.source
  return ({ saved with allowSimpleKey := found.brokeLine }.moveTo found.after).add
    (.scalar (.whole found.text) true)

/-! ## The next token -/

/-- Pass over spaces, comments and line breaks; `fuel` bounds the lines. -/
def skipToToken : Nat → Lexer → Lexer
  | 0, lexer => lexer
  | fuel + 1, lexer =>
      let after := lexer.source.skipSpaces.skipComment
      match after.lineBreak? with
      | some (_, next) =>
          skipToToken fuel
            { lexer with
              source := next, allowSimpleKey := lexer.allowSimpleKey || lexer.flowLevel == 0 }
      | none => { lexer with source := after }

/-- The characters that cannot begin a plain scalar, or only before a character
that is not a gap. -/
def indicators : Text := "-?:,[]\x7b\x7d#&*!|>\x27\x22%@\x60".toList

/-- A plain scalar may begin with this character. -/
def beginsPlain (lexer : Lexer) (c : Char) : Bool :=
  !(c == ' ' || c == '\t' || isBreak c || indicators.contains c) ||
    (!isGap (lexer.source.peekAt 1) &&
      (c == '-' || (lexer.flowLevel == 0 && (c == '?' || c == ':'))))

/-- Fetch the next token, and with it the ends of the block collections that it
closes. -/
def fetch (lexer : Lexer) : Except Fault Lexer := do
  let bom := lexer.source.index == 0 && lexer.source.peek == some '\uFEFF'
  let begun := if bom then lexer.moveTo lexer.source.step else lexer
  let fresh ← (begun.skipToToken (begun.source.rest.length + 1)).forgetStale
  let lexer := fresh.unwind fresh.source.column
  let source := lexer.source
  let inFlow := lexer.flowLevel != 0
  let isIndicator := inFlow || isGap (source.peekAt 1)
  match source.peek with
  | none => lexer.fetchEnd
  | some c =>
      if c = '%' ∧ source.column = 0 then lexer.fetchDirective
      else if source.column = 0 ∧ source.atMark "---".toList then
        lexer.fetchSeparator .documentStart
      else if source.column = 0 ∧ source.atMark "...".toList then
        lexer.fetchSeparator .documentEnd
      else if c = '[' then lexer.fetchFlowStart .flowSequenceStart
      else if c = '\x7b' then lexer.fetchFlowStart .flowMappingStart
      else if c = ']' then lexer.fetchFlowEnd .flowSequenceEnd
      else if c = '\x7d' then lexer.fetchFlowEnd .flowMappingEnd
      else if c = ',' then lexer.fetchFlowEntry
      else if c = '-' ∧ isGap (source.peekAt 1) then lexer.fetchBlockEntry
      else if c = '?' ∧ isIndicator then lexer.fetchKey
      else if c = ':' ∧ isIndicator then lexer.fetchValue
      else if c = '*' then lexer.fetchName .alias
      else if c = '&' then lexer.fetchName .anchor
      else if c = '!' then lexer.fetchTag
      else if c = '|' ∧ ¬ inFlow then lexer.fetchBlockScalar false
      else if c = '>' ∧ ¬ inFlow then lexer.fetchBlockScalar true
      else if c = '\x27' then lexer.fetchQuoted false
      else if c = '\x22' then lexer.fetchQuoted true
      else if lexer.beginsPlain c then lexer.fetchPlain
      else throw .malformed

/-- Fetch tokens until the text ends or cannot be cut further; `fuel` bounds the
number of steps. -/
def run : Nat → Lexer → List Token
  | 0, lexer => lexer.tokens.reverse
  | fuel + 1, lexer =>
      if lexer.isDone then lexer.tokens.reverse
      else
        match lexer.fetch with
        | .ok next => run fuel next
        | .error why => (Token.broken why :: lexer.tokens).reverse

end Lexer

/-- The tokens of a text.  A text with a character that a document must not hold is
malformed as a whole. -/
def tokens (text : Text) : List Token :=
  if text.all isPrintable then Lexer.run (text.length + 2) { source := { rest := text } }
  else [.broken .malformed]

end Yaml
end Codemap
