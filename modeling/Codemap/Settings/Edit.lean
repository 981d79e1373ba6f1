import Codemap.Settings.Fault

namespace Codemap

/-!
# Edits of a document

A key is a sequence of parts between dots.  Beginning at the root, each part names an
entry of a mapping or, being an integer, an item of a list, where negative integers
count from the end.  An edit changes the document in memory only.
-/

namespace Edit

open Yaml

/-- The parts of a key; none of them is empty. -/
def parts (key : Text) : Except Refusal (List Text) :=
  let found := key.fields '.'
  if found.any List.isEmpty then .error (.invalidKey key) else .ok found

/-- The parts of a key that an operation needs. -/
def requiredParts (operation : EditOperation) (key : Text) : Except Refusal (List Text) :=
  if key.isEmpty then .error (.keyRequired operation) else parts key

/-- The position that a part names in a list with so many items. -/
def position? (count : Nat) (part : Text) : Option Nat :=
  (Text.readInteger? part).bind fun index =>
    if 0 ≤ index ∧ index < count then some index.toNat
    else if index < 0 ∧ -(count : Int) ≤ index then some (index + count).toNat
    else none

/-- The object that a value refers to, if it is a mapping or a list. -/
def container? (document : Document) : Value → Option (Nat × Object)
  | .ref id =>
      match document.object id with
      | .mapping entries => some (id, .mapping entries)
      | .list items => some (id, .list items)
      | _ => none
  | _ => none

/-- The value of a part in a value. -/
def child? (document : Document) (value : Value) (part : Text) : Option Value :=
  match container? document value with
  | some (_, .mapping entries) => Value.look? entries (.str part)
  | some (_, .list items) => (position? items.length part).bind fun index => items[index]?
  | _ => none

/-- The value at the end of several parts. -/
def lookup? (document : Document) (value : Value) : List Text → Option Value
  | [] => some value
  | part :: rest => (child? document value part).bind fun child => lookup? document child rest

/-- Give a part of a container a value. -/
def assign (document : Document) (container : Value) (part : Text) (value : Value) :
    Except Refusal Document :=
  match container? document container with
  | some (id, .mapping entries) =>
      .ok (document.setObject id (.mapping (Value.put entries (.str part) value)))
  | some (id, .list items) =>
      match position? items.length part with
      | some index => .ok (document.setObject id (.list (items.set index value)))
      | none => .error (.indexOutOfRange part)
  | _ => .error (.indexOutOfRange part)

/-! ## The five operations -/

/-- The value of a key; the root for an empty one, null for a missing one. -/
def get (document : Document) (key : Text) : Except Refusal Value :=
  if key.isEmpty then .ok document.root
  else (parts key).map fun found => (lookup? document document.root found).getD .null

/-- Assign along several parts.  What is neither mapping nor list on the way becomes an
empty mapping. -/
def setAlong (document : Document) (container value : Value) :
    List Text → Except Refusal Document
  | [] => .ok document
  | [last] => assign document container last value
  | part :: rest =>
      match (child? document container part).filter fun child =>
          (container? document child).isSome with
      | some child => setAlong document child value rest
      | none => do
          let (child, grown) := document.newObject (.mapping [])
          let assigned ← assign grown container part child
          setAlong assigned child value rest

/-- Give a key a value. -/
def set (document : Document) (key : Text) (value : Document) : Except Refusal Document := do
  let found ← requiredParts .set key
  let (root, grown) := document.graft value
  setAlong grown grown.root root found

/-- The document without a key; nothing if the key is not there. -/
def delete (document : Document) (key : Text) : Except Refusal (Option Document) := do
  let found ← requiredParts .delete key
  let last := found.getLastD []
  let parent := lookup? document document.root found.dropLast
  match parent.bind (container? document) with
  | some (id, .mapping entries) =>
      if (Value.look? entries (.str last)).isSome then
        return some (document.setObject id (.mapping (Value.dropKey entries (.str last))))
      else return none
  | some (id, .list items) =>
      match position? items.length last with
      | some index => return some (document.setObject id (.list (items.eraseIdx index)))
      | none => return none
  | _ => return none

/-- Go along several parts; what is missing in a mapping is added, at the end an empty
list and an empty mapping before. -/
def addAlong (key : Text) (document : Document) (container : Value) :
    List Text → Except Refusal (Value × Document)
  | [] => .ok (container, document)
  | part :: rest =>
      match container? document container with
      | none => .error (.noAccess key)
      | some (id, object) =>
          match child? document container part with
          | some child => addAlong key document child rest
          | none =>
              match object with
              | .mapping entries =>
                  let empty : Object := if rest.isEmpty then .list [] else .mapping []
                  let (child, grown) := document.newObject empty
                  addAlong key
                    (grown.setObject id (.mapping (Value.put entries (.str part) child)))
                    child rest
              | _ => .error (.noAccess key)

/-- Append an item to the list of a key. -/
def add (document : Document) (key : Text) (item : Document) : Except Refusal Document := do
  let found ← requiredParts .add key
  let (value, grown) := document.graft item
  let (target, ready) ← addAlong key grown grown.root found
  match container? ready target with
  | some (id, .list items) => return ready.setObject id (.list (items ++ [value]))
  | _ => throw (.noList key)

/-- The position of the first item of a list that equals a value. -/
def firstEqual (document : Document) (value : Value) (index : Nat) :
    List Value → Except SettingsFault (Option Nat)
  | [] => .ok none
  | item :: rest =>
      let nesting := document.objects.size * document.objects.size + 2
      match document.equal? nesting item value with
      | some true => .ok (some index)
      | some false => firstEqual document value (index + 1) rest
      | none => .error (.document .nestedTooDeeply)

/-- The document without the first item of the list of a key that equals a value;
nothing if there is none. -/
def remove (document : Document) (key : Text) (item : Document) :
    Except SettingsFault (Option Document) :=
  match requiredParts .remove key with
  | .error why => .error (.refused why)
  | .ok found =>
      match lookup? document document.root found with
      | none => .error (.refused (.keyMissing key))
      | some target =>
          match container? document target with
          | some (id, .list items) => do
              let (value, grown) := document.graft item
              match ← firstEqual grown value 0 items with
              | some index => return some (document.setObject id (.list (items.eraseIdx index)))
              | none => return none
          | _ => .error (.refused (.noList key))

end Edit
end Codemap
