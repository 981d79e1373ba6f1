import Codemap.Yaml.Lexer
import Codemap.Yaml.Node
import Codemap.Yaml.Scalar

namespace Codemap
namespace Yaml

/-!
# From nodes to values

The values of a document are built from its nodes.  A node has one value however
often it is referred to.  A collection becomes an object with the number of its node
at once, and its parts are built later, in the order in which the collections were
met; so a collection may contain itself.

Before a mapping is built, the mappings under its merge keys are taken over: their
entries stand before its own, so its own entries win.
-/

/-- The state of building the values of a document. -/
structure Construction where
  nodes : Array Node
  /-- The values that are built, by the numbers of their nodes. -/
  built : Array (Option Value)
  objects : Array Object
  /-- The collections whose parts are not built yet, the last one first. -/
  waiting : List Nat := []
deriving Inhabited

namespace Construction

/-- Nothing is built yet. -/
def start (nodes : Array Node) : Construction where
  nodes
  built := Array.replicate nodes.size none
  objects := Array.replicate nodes.size .vacant

/-- The node with a number. -/
def node (state : Construction) (id : Nat) : Node :=
  state.nodes.getD id (.scalar .foreign (.whole []))

/-- The tag of a node. -/
def tag (state : Construction) (id : Nat) : Tag :=
  match state.node id with
  | .scalar tag _ | .sequence tag _ | .mapping tag _ => tag

/-- What a scalar holds, or the default value of a mapping.  Each default value takes a
nested call, so the fuel is the room for calls. -/
def scalarText (state : Construction) : Nat → Nat → Except Fault Content
  | 0, _ => .error .nestedTooDeeply
  | fuel + 1, id =>
      match state.node id with
      | .scalar _ content => .ok content
      | .sequence _ _ => .error .malformed
      | .mapping _ pairs =>
          match pairs.find? fun pair => state.tag pair.1 == .default with
          | some (_, value) => scalarText state fuel value
          | none => .error .malformed

/-- Give a node its value. -/
def keep (state : Construction) (id : Nat) (value : Value) : Construction :=
  { state with built := state.built.setIfInBounds id (some value) }

/-- Make a node an object that is filled later. -/
def await (state : Construction) (id : Nat) (empty : Object) : Value × Construction :=
  (.ref id,
    { state with
      built := state.built.setIfInBounds id (some (.ref id))
      objects := state.objects.setIfInBounds id empty
      waiting := id :: state.waiting })

/-- The value of a node, built if it is not yet. -/
def build (state : Construction) (id : Nat) : Except Fault (Value × Construction) :=
  match (state.built[id]?).join with
  | some value => .ok (value, state)
  | none =>
      match state.tag id with
      | .sequence | .orderedPairs | .pairs => .ok (state.await id (.list []))
      | .mapping => .ok (state.await id (.mapping []))
      | .set => .ok (state.await id (.set []))
      | .merge | .default | .foreign => .error .malformed
      | tag => do
          let content ← state.scalarText stackRoom id
          match tag, state.node id with
          | .timestamp, .mapping _ _ => throw (.scalar .timestampOfMapping)
          | _, _ =>
              let value ← Scalar.value tag content id
              return (value, state.keep id value)

/-- The values of several nodes. -/
def buildAll (state : Construction) : List Nat → Except Fault (List Value × Construction)
  | [] => .ok ([], state)
  | id :: rest => do
      let (value, next) ← state.build id
      let (values, last) ← buildAll next rest
      return (value :: values, last)

/-- The entries of a mapping.  A key is an atom. -/
def buildEntries (state : Construction) (done : List (Value × Value)) :
    List (Nat × Nat) → Except Fault (List (Value × Value) × Construction)
  | [] => .ok (done, state)
  | (keyId, valueId) :: rest => do
      let (key, next) ← state.build keyId
      if !key.isAtom then throw .malformed
      let (value, last) ← next.build valueId
      buildEntries last (Value.put done key value) rest

/-- The pairs of a list of mappings with one entry each. -/
def buildPairs (state : Construction) : List Nat → Except Fault (List Value × Construction)
  | [] => .ok ([], state)
  | id :: rest =>
      match state.node id with
      | .mapping _ [(keyId, valueId)] => do
          let (key, next) ← state.build keyId
          let (value, last) ← next.build valueId
          let added := { last with objects := last.objects.push (.pair key value) }
          let (values, final) ← buildPairs added rest
          return (.ref last.objects.size :: values, final)
      | _ => .error .malformed

/-! ## Merging -/

/-- The pairs of a node, if it is a mapping. -/
def pairs? (nodes : Array Node) (id : Nat) : Option (Tag × List (Nat × Nat)) :=
  match nodes[id]? with
  | some (.mapping tag pairs) => some (tag, pairs)
  | _ => none

/-- Replace the pairs of a mapping. -/
def setPairs (nodes : Array Node) (id : Nat) (tag : Tag) (pairs : List (Nat × Nat)) :
    Array Node :=
  nodes.setIfInBounds id (.mapping tag pairs)

/-- A key that stands for a default value is a text from now on. -/
def makeText (nodes : Array Node) (id : Nat) : Array Node :=
  match nodes[id]? with
  | some (.scalar _ content) => nodes.setIfInBounds id (.scalar .str content)
  | some (.sequence _ items) => nodes.setIfInBounds id (.sequence .str items)
  | some (.mapping _ pairs) => nodes.setIfInBounds id (.mapping .str pairs)
  | none => nodes

/-- Flatten each of several mappings; their pairs are returned, those of the last
mapping first. -/
def flattenEach (flatten : Nat → Array Node → Except Fault (Array Node))
    (found : List (Nat × Nat)) (nodes : Array Node) :
    List Nat → Except Fault (List (Nat × Nat) × Array Node)
  | [] => .ok (found, nodes)
  | id :: rest => do
      if (pairs? nodes id).isNone then throw .malformed
      let next ← flatten id nodes
      flattenEach flatten (((pairs? next id).map (·.2)).getD [] ++ found) next rest

/-- Go through so many pairs of a mapping from a position on and collect what its
merge keys bring. -/
def flattenPairs (flatten : Nat → Array Node → Except Fault (Array Node)) (id : Nat) :
    Nat → Nat → List (Nat × Nat) → Array Node → Except Fault (List (Nat × Nat) × Array Node)
  | 0, _, merged, nodes => .ok (merged, nodes)
  | count + 1, position, merged, nodes =>
      match pairs? nodes id with
      | none => .ok (merged, nodes)
      | some (tag, pairs) =>
          match pairs[position]? with
          | none => .ok (merged, nodes)
          | some (key, value) =>
              match (nodes[key]?).map fun node => match node with
                | .scalar tag _ | .sequence tag _ | .mapping tag _ => tag with
              | some .merge => do
                  let shortened := setPairs nodes id tag (pairs.eraseIdx position)
                  let sources ← match shortened[value]? with
                    | some (.mapping _ _) => pure [value]
                    | some (.sequence _ items) => pure items
                    | _ => throw .malformed
                  let (found, next) ← flattenEach flatten [] shortened sources
                  flattenPairs flatten id count position (merged ++ found) next
              | some .default =>
                  flattenPairs flatten id count (position + 1) merged (makeText nodes key)
              | _ => flattenPairs flatten id count (position + 1) merged nodes

/-- Take the mappings under the merge keys of a mapping over.  Each of them takes a nested
call, so the fuel is the room for calls. -/
def flatten : Nat → Nat → Array Node → Except Fault (Array Node)
  | 0, _, _ => .error .nestedTooDeeply
  | fuel + 1, id, nodes =>
      match pairs? nodes id with
      | none => .ok nodes
      | some (_, pairs) => do
          let (merged, next) ← flattenPairs (flatten fuel) id pairs.length 0 [] nodes
          match pairs? next id with
          | some (tag, rest) => return setPairs next id tag (merged ++ rest)
          | none => return next

/-! ## Filling the collections -/

/-- The entries of a mapping node after merging. -/
def mappingEntries (state : Construction) (id : Nat) :
    Except Fault (List (Value × Value) × Construction) :=
  match state.node id with
  | .mapping _ _ => do
      let nodes ← flatten stackRoom id state.nodes
      let flat := { state with nodes }
      flat.buildEntries [] (((pairs? nodes id).map (·.2)).getD [])
  | _ => .error .malformed

/-- Replace the object of a node. -/
def setObject (state : Construction) (id : Nat) (object : Object) : Construction :=
  { state with objects := state.objects.setIfInBounds id object }

/-- Build the parts of a collection. -/
def fill (state : Construction) (id : Nat) : Except Fault Construction :=
  match state.tag id, state.node id with
  | .mapping, _ => do
      let (entries, next) ← state.mappingEntries id
      return next.setObject id (.mapping entries)
  | .set, _ => do
      let (entries, next) ← state.mappingEntries id
      return next.setObject id (.set (entries.map (·.1)))
  | .sequence, .sequence _ items => do
      let (values, next) ← state.buildAll items
      return next.setObject id (.list values)
  | .orderedPairs, .sequence _ items | .pairs, .sequence _ items => do
      let (values, next) ← state.buildPairs items
      return next.setObject id (.list values)
  | _, _ => .error .malformed

/-- Build the parts of the waiting collections, and of those met on the way.  Each
round fills a collection that was never filled before, so the fuel is the number of
nodes. -/
def fillWaiting : Nat → Construction → Except Fault Construction
  | 0, state => .ok state
  | fuel + 1, state =>
      if state.waiting.isEmpty then .ok state
      else do
        let next ← state.waiting.reverse.foldlM fill { state with waiting := [] }
        fillWaiting fuel next

end Construction

namespace Document

/-- Read a document.  An empty text is the null value. -/
def ofText (text : Text) : Except Fault Document := do
  match ← Composer.document (tokens text) with
  | (none, _) => return { root := .null }
  | (some id, composer) =>
      let (root, begun) ← (Construction.start composer.nodes).build id
      let last ← Construction.fillWaiting (composer.nodes.size + 1) begun
      return { objects := last.objects, root }

/-- Read a value that is given by hand.  A text that is no document stands for itself. -/
def ofGiven (text : Text) : Except Fault Document :=
  match ofText text with
  | .error .malformed => .ok { root := .str text }
  | outcome => outcome

end Document
end Yaml
end Codemap
