import Codemap.Limits
import Codemap.Yaml.Lexer
import Codemap.Yaml.Resolution

namespace Codemap
namespace Yaml

/-!
# The node graph of a document

A document is a graph of nodes: scalars with their texts, sequences and mappings
of further nodes.  An alias refers to the very node its anchor names, so a node
may have several parents and may even contain itself.  Nodes are numbered in the
order in which they begin, and a collection refers to its parts by their numbers.

The graph is read from the tokens by one function over a list of tasks, the
productions of the grammar.  Every call consumes a token or moves to a production
that does, so the fuel, a multiple of the number of tokens, never runs out.  What
can run out is the room for nested calls, of which every collection takes some.
-/

/-- A node. -/
inductive Node where
  | scalar (tag : Tag) (content : Content)
  | sequence (tag : Tag) (items : List Nat)
  | mapping (tag : Tag) (pairs : List (Nat × Nat))
deriving Repr, Inhabited

/-- The state of reading a document. -/
structure Composer where
  tokens : List Token
  nodes : Array Node := #[]
  anchors : List (Text × Nat) := []
  handles : List (Text × Text) := []
  /-- The number of nested calls for which there is still room. -/
  room : Nat := stackRoom
deriving Inhabited

namespace Composer

/-- The handles that every document knows. -/
def defaultHandles : List (Text × Text) :=
  [(['!'], ['!']), (['!', '!'], Tag.common)]

/-- The next token. -/
def peek (composer : Composer) : Token :=
  composer.tokens.headD .streamEnd

/-- The composer after its next token. -/
def advance (composer : Composer) : Composer :=
  { composer with tokens := composer.tokens.tail }

/-- A token that the grammar does not allow, or the place where the text could not
be cut into tokens. -/
def refuse (composer : Composer) : Fault :=
  match composer.peek with
  | .broken why => why
  | _ => .malformed

/-- Add a node; its number is returned. -/
def newNode (composer : Composer) (node : Node) : Nat × Composer :=
  (composer.nodes.size, { composer with nodes := composer.nodes.push node })

/-- Add an empty scalar, which is the null value. -/
def emptyScalar (composer : Composer) : Nat × Composer :=
  composer.newNode (.scalar .null (.whole []))

/-- Give a node a name; a name can be given once. -/
def nameNode (composer : Composer) (anchor : Option Text) (id : Nat) :
    Except Fault Composer :=
  match anchor with
  | none => .ok composer
  | some name =>
      if composer.anchors.any fun entry => entry.1 == name then .error .malformed
      else .ok { composer with anchors := (name, id) :: composer.anchors }

/-! ## Properties of a node -/

/-- An anchor and a tag as written before a node. -/
structure Properties where
  anchor : Option Text := none
  tag : Option (Option Text × Text) := none
deriving Inhabited

/-- Read an anchor and a tag in either order. -/
def properties (composer : Composer) : Properties × Composer :=
  match composer.tokens with
  | .anchor name :: .tag handle suffix :: rest =>
      ({ anchor := some name, tag := some (handle, suffix) }, { composer with tokens := rest })
  | .tag handle suffix :: .anchor name :: rest =>
      ({ anchor := some name, tag := some (handle, suffix) }, { composer with tokens := rest })
  | .anchor name :: rest => ({ anchor := some name }, { composer with tokens := rest })
  | .tag handle suffix :: rest =>
      ({ tag := some (handle, suffix) }, { composer with tokens := rest })
  | _ => ({}, composer)

/-- The full name of a tag; nothing stands for no tag and for the tag that asks for
recognition by text. -/
def fullTag (composer : Composer) (tag : Option (Option Text × Text)) :
    Except Fault (Option Text) :=
  match tag with
  | none => .ok none
  | some (none, suffix) => .ok (some suffix)
  | some (some handle, suffix) =>
      match composer.handles.find? fun entry => entry.1 == handle with
      | some (_, start) => .ok (some (start ++ suffix))
      | none => .error .malformed

/-- A tag that leaves the kind of a node to its content. -/
def isOpenTag (tag : Option Text) : Bool :=
  tag.all fun name => name == ['!']

/-- The tag of a scalar. -/
def scalarTag (tag : Option Text) (text : Text) (isPlain : Bool) : Tag :=
  match tag with
  | none => if isPlain then plainTag text else .str
  | some name => if name = ['!'] then plainTag text else Tag.ofText name

/-- The tag of a collection. -/
def collectionTag (tag : Option Text) (ordinary : Tag) : Tag :=
  match tag with
  | none => ordinary
  | some name => if name = ['!'] then ordinary else Tag.ofText name

/-! ## The grammar -/

/-- A production of the grammar. -/
inductive Task where
  /-- A node; `block` allows block collections, and `indentless` also a sequence
  that is not indented. -/
  | node (block indentless : Bool)
  | blockSequence (items : List Nat)
  | indentlessSequence (items : List Nat)
  | blockMapping (pairs : List (Nat × Nat))
  | blockValue (pairs : List (Nat × Nat)) (key : Nat)
  | flowSequence (items : List Nat) (isFirst : Bool)
  | flowMapping (pairs : List (Nat × Nat)) (isFirst : Bool)
  | flowValue (pairs : List (Nat × Nat)) (key : Nat)
  /-- The key and the value of a mapping in a flow sequence, after the mark of the key. -/
  | singlePair

/-- What a production yields: a node, the items of a sequence, or the pairs of a
mapping, the latter two in reading order. -/
inductive Yield where
  | node (id : Nat)
  | items (ids : List Nat)
  | pairs (ids : List (Nat × Nat))
deriving Inhabited

/-- Read a node unless one of the given tokens follows, which leaves it empty. -/
def nodeUnless (run : Task → Composer → Except Fault (Yield × Composer))
    (stops : Token → Bool) (task : Task) (composer : Composer) :
    Except Fault (Nat × Composer) :=
  if stops composer.peek then .ok composer.emptyScalar
  else
    match run task composer with
    | .ok (.node id, next) => .ok (id, next)
    | .ok (_, _) => .error .malformed
    | .error why => .error why

/-- The tokens before which a part of a block mapping is empty. -/
def endsBlockPart : Token → Bool
  | .key | .value | .blockEnd => true
  | _ => false

/-- The tokens before which an entry of a block sequence is empty. -/
def endsBlockEntry : Token → Bool
  | .blockEntry | .blockEnd => true
  | _ => false

/-- The tokens before which an entry of a sequence without indentation is empty. -/
def endsIndentlessEntry : Token → Bool
  | .blockEntry | .key | .value | .blockEnd => true
  | _ => false

/-- The tokens before which a key of a flow collection is empty. -/
def endsFlowKey (close : Token) (token : Token) : Bool :=
  token == .value || token == .flowEntry || token == close

/-- The tokens before which a value of a flow collection is empty. -/
def endsFlowValue (close : Token) (token : Token) : Bool :=
  token == .flowEntry || token == close

/-- The calls in which the parts of a collection are nested further than the collection. -/
def callsInside : Nat := 2

/-- Begin a collection: number it and give it its name before its parts are read,
so that they may refer to it. -/
def openCollection (composer : Composer) (anchor : Option Text) (node : Node) :
    Except Fault (Nat × Composer) :=
  if composer.room < callsInside then .error .nestedTooDeeply
  else
    let (id, opened) := { composer with room := composer.room - callsInside }.newNode node
    (opened.nameNode anchor id).map fun named => (id, named)

/-- End a collection, whose parts are known now. -/
def closeCollection (composer : Composer) (id : Nat) (node : Node) : Composer :=
  { composer with
    nodes := composer.nodes.setIfInBounds id node
    room := composer.room + callsInside }

/-- Read what follows the properties of a node. -/
def content (run : Task → Composer → Except Fault (Yield × Composer))
    (block indentless : Bool) (found : Properties) (composer : Composer) :
    Except Fault (Nat × Composer) := do
  let tag ← composer.fullTag found.tag
  let sequence (task : Task) (next : Composer) : Except Fault (Nat × Composer) := do
    let kind := collectionTag tag .sequence
    let (id, opened) ← next.openCollection found.anchor (.sequence kind [])
    match ← run task opened with
    | (.items items, last) => return (id, last.closeCollection id (.sequence kind items))
    | _ => throw .malformed
  let mapping (task : Task) (next : Composer) : Except Fault (Nat × Composer) := do
    let kind := collectionTag tag .mapping
    let (id, opened) ← next.openCollection found.anchor (.mapping kind [])
    match ← run task opened with
    | (.pairs pairs, last) => return (id, last.closeCollection id (.mapping kind pairs))
    | _ => throw .malformed
  let scalar (kind : Tag) (held : Content) (next : Composer) :
      Except Fault (Nat × Composer) := do
    let (id, added) := next.newNode (.scalar kind held)
    let named ← added.nameNode found.anchor id
    return (id, named)
  match composer.peek with
  | .scalar held isPlain => scalar (scalarTag tag held.text isPlain) held composer.advance
  | .flowSequenceStart => sequence (.flowSequence [] true) composer.advance
  | .flowMappingStart => mapping (.flowMapping [] true) composer.advance
  | .blockEntry =>
      if indentless then sequence (.indentlessSequence []) composer
      else if found.anchor.isSome || found.tag.isSome then
        scalar (scalarTag tag [] (isOpenTag tag)) (.whole []) composer
      else throw composer.refuse
  | .blockSequenceStart =>
      if block then sequence (.blockSequence []) composer.advance
      else if found.anchor.isSome || found.tag.isSome then
        scalar (scalarTag tag [] (isOpenTag tag)) (.whole []) composer
      else throw composer.refuse
  | .blockMappingStart =>
      if block then mapping (.blockMapping []) composer.advance
      else if found.anchor.isSome || found.tag.isSome then
        scalar (scalarTag tag [] (isOpenTag tag)) (.whole []) composer
      else throw composer.refuse
  | _ =>
      if found.anchor.isSome || found.tag.isSome then
        scalar (scalarTag tag [] (isOpenTag tag)) (.whole []) composer
      else throw composer.refuse

/-- Carry out a production. -/
def run : Nat → Task → Composer → Except Fault (Yield × Composer)
  | 0, _, _ => .error .malformed
  | fuel + 1, task, composer =>
      match task with
      | .node block indentless =>
          match composer.peek with
          | .alias name =>
              match composer.anchors.find? fun entry => entry.1 == name with
              | some (_, id) => .ok (.node id, composer.advance)
              | none => .error .malformed
          | _ => do
              let (found, next) := composer.properties
              let (id, last) ← content (run fuel) block indentless found next
              return (.node id, last)
      | .blockSequence items =>
          match composer.peek with
          | .blockEntry => do
              let (id, next) ←
                nodeUnless (run fuel) endsBlockEntry (.node true false) composer.advance
              run fuel (.blockSequence (items ++ [id])) next
          | .blockEnd => .ok (.items items, composer.advance)
          | _ => .error composer.refuse
      | .indentlessSequence items =>
          match composer.peek with
          | .blockEntry => do
              let (id, next) ←
                nodeUnless (run fuel) endsIndentlessEntry (.node true false) composer.advance
              run fuel (.indentlessSequence (items ++ [id])) next
          | _ => .ok (.items items, composer)
      | .blockMapping pairs =>
          match composer.peek with
          | .key => do
              let (key, next) ←
                nodeUnless (run fuel) endsBlockPart (.node true true) composer.advance
              run fuel (.blockValue pairs key) next
          | .blockEnd => .ok (.pairs pairs, composer.advance)
          | _ => .error composer.refuse
      | .blockValue pairs key =>
          match composer.peek with
          | .value => do
              let (value, next) ←
                nodeUnless (run fuel) endsBlockPart (.node true true) composer.advance
              run fuel (.blockMapping (pairs ++ [(key, value)])) next
          | _ =>
              let (value, next) := composer.emptyScalar
              run fuel (.blockMapping (pairs ++ [(key, value)])) next
      | .flowSequence items isFirst => do
          if composer.peek = .flowSequenceEnd then return (.items items, composer.advance)
          let entry ←
            if isFirst then pure composer
            else if composer.peek = .flowEntry then pure composer.advance
            else throw composer.refuse
          match entry.peek with
          | .key =>
              let (id, opened) ← entry.advance.openCollection none (.mapping .mapping [])
              match ← run fuel .singlePair opened with
              | (.pairs pairs, last) =>
                  run fuel (.flowSequence (items ++ [id]) false)
                    (last.closeCollection id (.mapping .mapping pairs))
              | _ => throw .malformed
          | .flowSequenceEnd => return (.items items, entry.advance)
          | _ =>
              match ← run fuel (.node false false) entry with
              | (.node id, next) => run fuel (.flowSequence (items ++ [id]) false) next
              | _ => throw .malformed
      | .singlePair => do
          let (key, next) ←
            nodeUnless (run fuel) (endsFlowKey .flowSequenceEnd) (.node false false) composer
          match next.peek with
          | .value =>
              let (value, last) ←
                nodeUnless (run fuel) (endsFlowValue .flowSequenceEnd) (.node false false)
                  next.advance
              return (.pairs [(key, value)], last)
          | _ =>
              let (value, last) := next.emptyScalar
              return (.pairs [(key, value)], last)
      | .flowMapping pairs isFirst => do
          if composer.peek = .flowMappingEnd then return (.pairs pairs, composer.advance)
          let entry ←
            if isFirst then pure composer
            else if composer.peek = .flowEntry then pure composer.advance
            else throw composer.refuse
          match entry.peek with
          | .key =>
              let (key, next) ←
                nodeUnless (run fuel) (endsFlowKey .flowMappingEnd) (.node false false)
                  entry.advance
              run fuel (.flowValue pairs key) next
          | .flowMappingEnd => return (.pairs pairs, entry.advance)
          | _ =>
              match ← run fuel (.node false false) entry with
              | (.node key, next) =>
                  let (value, last) := next.emptyScalar
                  run fuel (.flowMapping (pairs ++ [(key, value)]) false) last
              | _ => throw .malformed
      | .flowValue pairs key =>
          match composer.peek with
          | .value => do
              let (value, next) ←
                nodeUnless (run fuel) (endsFlowValue .flowMappingEnd) (.node false false)
                  composer.advance
              run fuel (.flowMapping (pairs ++ [(key, value)]) false) next
          | _ =>
              let (value, next) := composer.emptyScalar
              run fuel (.flowMapping (pairs ++ [(key, value)]) false) next

/-! ## Directives and the document -/

/-- Read the directives before a document.  A version may be given once and must be
of the first generation; a handle may be declared once. -/
def directives (version : Bool) (declared : List (Text × Text)) :
    List Token → Except Fault (List (Text × Text) × List Token)
  | .directive (.version major _) :: rest =>
      if version || major != 1 then .error .malformed else directives true declared rest
  | .directive (.handle name start) :: rest =>
      if declared.any fun entry => entry.1 == name then .error .malformed
      else directives version ((name, start) :: declared) rest
  | .directive .other :: rest => directives version declared rest
  | tokens => .ok (declared, tokens)

/-- Nothing but ends of documents is left. -/
def onlyEnds : List Token → Except Fault Unit
  | .documentEnd :: rest => onlyEnds rest
  | [.streamEnd] => .ok ()
  | .broken why :: _ => .error why
  | _ => .error .malformed

/-- The root of a document and the state after it; nothing for an empty text. -/
def document (tokens : List Token) : Except Fault (Option Nat × Composer) := do
  let fuel := 4 * tokens.length + 8
  let finish (id : Nat) (last : Composer) : Except Fault (Option Nat × Composer) := do
    onlyEnds last.tokens
    return (some id, last)
  match tokens with
  | .directive _ :: _ | .documentStart :: _ =>
      let (declared, rest) ← directives false [] tokens
      match rest with
      | .documentStart :: rest =>
          let begun : Composer := { tokens := rest, handles := declared ++ defaultHandles }
          match begun.peek with
          | .directive _ | .documentStart | .documentEnd | .streamEnd =>
              let (id, last) := begun.emptyScalar
              finish id last
          | _ =>
              match ← run fuel (.node true false) begun with
              | (.node id, last) => finish id last
              | _ => throw .malformed
      | .broken why :: _ => throw why
      | _ => throw .malformed
  | [.streamEnd] => return (none, { tokens })
  | _ =>
      match ← run fuel (.node true false) { tokens, handles := defaultHandles } with
      | (.node id, last) => finish id last
      | _ => throw .malformed

end Composer
end Yaml
end Codemap
