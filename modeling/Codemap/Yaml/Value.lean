import Codemap.Yaml.Moment
import Codemap.Json.Value

namespace Codemap
namespace Yaml

/-!
# Values of a document

A document's values form a graph.  Lists, mappings and sets are objects that have
an identity: several places may refer to one object, and a change of the object is
seen from all of them.  A value is therefore either an atom or a reference to an
object, and a document is its objects together with the value at its root.

A moment is an atom with a mark of its origin, because two places may also share
one moment, and the writer shows that.  The mark has no influence on equality.

A mapping keeps its entries in the order of their first insertion.  Two keys are
the same if they are equal atoms, where truth values count as numbers and a
number that is not a number is the same as itself.
-/

/-- A value. -/
inductive Value where
  | null
  | bool (value : Bool)
  | int (value : Int)
  | float (value : Binary64)
  | str (text : Text)
  /-- A text with surrogates, as its code points. -/
  | torn (points : List Nat)
  | bytes (content : List UInt8)
  | moment (value : Moment) (origin : Nat)
  | ref (id : Nat)
deriving DecidableEq, Repr, Inhabited

/-- An object. -/
inductive Object where
  | list (items : List Value)
  | mapping (entries : List (Value × Value))
  | set (members : List Value)
  /-- An entry of a list of pairs.  It is an object of its own and never changes. -/
  | pair (first second : Value)
  /-- A number without an object. -/
  | vacant
deriving DecidableEq, Repr, Inhabited

/-- A document: its objects by number, and the value at its root. -/
structure Document where
  objects : Array Object := #[]
  root : Value
deriving DecidableEq, Repr, Inhabited

namespace Value

/-- The integer value of a truth value or an integer. -/
def wholeNumber? : Value → Option Int
  | .bool b => some (if b then 1 else 0)
  | .int n => some n
  | _ => none

/-- Two atoms are the same key. -/
def sameAtom (a b : Value) : Bool :=
  match a, b with
  | .null, .null => true
  | .str s, .str t => s == t
  | .torn s, .torn t => s == t
  | .bytes s, .bytes t => s == t
  | .moment s _, .moment t _ => s.same t
  | .float x, .float y => x.sameValue y || (x.isNaN && y.isNaN)
  | .float x, other =>
      match other.wholeNumber? with
      | some n => x.equalsInt n
      | none => false
  | other, .float y =>
      match other.wholeNumber? with
      | some n => y.equalsInt n
      | none => false
  | left, right =>
      match left.wholeNumber?, right.wholeNumber? with
      | some m, some n => m == n
      | _, _ => false

/-- The value of a key in a list of entries. -/
def look? (entries : List (Value × Value)) (key : Value) : Option Value :=
  match entries with
  | [] => none
  | (other, value) :: rest => if other.sameAtom key then some value else look? rest key

/-- Give a key a value: in place if the key is there, at the end otherwise. -/
def put (entries : List (Value × Value)) (key value : Value) : List (Value × Value) :=
  match entries with
  | [] => [(key, value)]
  | (other, old) :: rest =>
      if other.sameAtom key then (other, value) :: rest else (other, old) :: put rest key value

/-- The entries without that of a key. -/
def dropKey (entries : List (Value × Value)) (key : Value) : List (Value × Value) :=
  match entries with
  | [] => []
  | (other, value) :: rest =>
      if other.sameAtom key then rest else (other, value) :: dropKey rest key

/-- The value is an atom, and so may be a key. -/
def isAtom : Value → Bool
  | .ref _ => false
  | _ => true

/-- The value with all numbers of objects shifted. -/
def shift (offset : Nat) : Value → Value
  | .ref id => .ref (id + offset)
  | .moment value origin => .moment value (origin + offset)
  | value => value

/-- What is put under a text is found there. -/
theorem look?_put_str (entries : List (Value × Value)) (name : Text) (value : Value) :
    look? (put entries (.str name) value) (.str name) = some value := by
  induction entries with
  | nil => simp [put, look?, sameAtom]
  | cons entry rest hypothesis =>
      by_cases same : entry.1.sameAtom (.str name) = true
      · simp [put, look?, same]
      · simp [put, look?, same, hypothesis]

end Value

namespace Object

/-- The object with all numbers of objects shifted. -/
def shift (offset : Nat) : Object → Object
  | .list items => .list (items.map (Value.shift offset))
  | .mapping entries =>
      .mapping (entries.map fun (key, value) => (key.shift offset, value.shift offset))
  | .set members => .set (members.map (Value.shift offset))
  | .pair first second => .pair (first.shift offset) (second.shift offset)
  | .vacant => .vacant

end Object

namespace Document

/-- The object with a number. -/
def object (document : Document) (id : Nat) : Object :=
  document.objects.getD id .vacant

/-- Replace an object. -/
def setObject (document : Document) (id : Nat) (object : Object) : Document :=
  { document with objects := document.objects.setIfInBounds id object }

/-- Add an object; the reference to it is returned. -/
def newObject (document : Document) (object : Object) : Value × Document :=
  (.ref document.objects.size, { document with objects := document.objects.push object })

/-- Take the objects of another document over; the value at its root is returned as
it is called from now on. -/
def graft (document other : Document) : Value × Document :=
  let offset := document.objects.size
  (other.root.shift offset,
    { document with objects := document.objects ++ other.objects.map (Object.shift offset) })

/-- A document that is an empty mapping. -/
def emptyMapping : Document where
  objects := #[.mapping []]
  root := .ref 0

mutual

/-- The value of a JSON value, whose arrays and objects become objects of the
document. -/
def ofJson (document : Document) : Json → Value × Document
  | .null => (.null, document)
  | .bool b => (.bool b, document)
  | .int n => (.int n, document)
  | .float x => (.float x, document)
  | .str text => (.str text, document)
  | .arr items =>
      let (values, filled) := ofItems document items
      filled.newObject (.list values)
  | .obj members =>
      let (entries, filled) := ofMembers document members
      filled.newObject (.mapping entries)

/-- The values of the items of a JSON array. -/
def ofItems (document : Document) : List Json → List Value × Document
  | [] => ([], document)
  | item :: rest =>
      let (value, next) := ofJson document item
      let (values, last) := ofItems next rest
      (value :: values, last)

/-- The entries of the members of a JSON object. -/
def ofMembers (document : Document) : List (Text × Json) → List (Value × Value) × Document
  | [] => ([], document)
  | (name, value) :: rest =>
      let (found, next) := ofJson document value
      let (entries, last) := ofMembers next rest
      ((.str name, found) :: entries, last)

end

/-- A document that holds a JSON value. -/
def fromJson (json : Json) : Document :=
  let (root, document) := ofJson { root := .null } json
  { document with root }

/-- Two values of a document are equal, compared part by part; entries of mappings
and members of sets may stand in any order.  `fuel` bounds the nesting that is
looked into; nothing is returned when it does not suffice. -/
def equal? (document : Document) : Nat → Value → Value → Option Bool
  | 0, _, _ => none
  | fuel + 1, a, b =>
      match a, b with
      | .ref first, .ref second =>
          if first = second then some true
          else
            match document.object first, document.object second with
            | .list left, .list right =>
                if left.length = right.length then
                  (left.zip right).foldl
                    (fun sofar (x, y) => match sofar with
                      | some true => equal? document fuel x y
                      | other => other)
                    (some true)
                else some false
            | .mapping left, .mapping right =>
                if left.length = right.length then
                  left.foldl
                    (fun sofar (key, x) => match sofar with
                      | some true =>
                          match Value.look? right key with
                          | some y => equal? document fuel x y
                          | none => some false
                      | other => other)
                    (some true)
                else some false
            | .pair left right, .pair other another =>
                match equal? document fuel left other with
                | some true => equal? document fuel right another
                | verdict => verdict
            | .set left, .set right =>
                some (left.length == right.length &&
                  left.all fun x => right.any fun y => x.sameAtom y)
            | _, _ => some false
      | .ref _, _ => some false
      | _, .ref _ => some false
      | x, y => some (x.sameAtom y)

end Document
end Yaml
end Codemap
