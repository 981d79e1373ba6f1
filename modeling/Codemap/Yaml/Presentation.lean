import Codemap.Text.Base64
import Codemap.Yaml.Content
import Codemap.Yaml.Value

namespace Codemap
namespace Yaml

/-!
# How a document is presented

The graph of a document's values is presented as a tree.  A collection or a moment
that is met again is not written again: the first place gets an anchor and the later
ones refer to it.  Anchors are numbered in the order in which their values are met
for the second time, going through the document from the root, keys before values.
-/

/-- A value as it is written. -/
inductive Presentation where
  /-- A reference to the value with this anchor. -/
  | alias (anchor : Nat)
  | scalar (anchor : Option Nat) (tag : Tag) (content : Content)
  | sequence (anchor : Option Nat) (items : List Presentation)
  | mapping (anchor : Option Nat) (tag : Tag) (entries : List (Presentation × Presentation))
deriving Repr, Inhabited

namespace Value

/-- What tells a value apart from equal ones; atoms other than moments have nothing. -/
def identity? : Value → Option Nat
  | .ref id => some id
  | .moment _ origin => some origin
  | _ => none

/-- The layout of numbers with a point. -/
def numberLayout : Binary64.Layout :=
  { Binary64.plainLayout with infinityText := ".inf".toList, nanText := ".nan".toList }

/-- The text of a number with a point.  Before an exponent there is always a point. -/
def numberText (x : Binary64) : Text :=
  let text := x.write numberLayout
  if text.contains '.' then text
  else text.flatMap fun c => if c = 'e' then ".0e".toList else [c]

/-- The tag and the content of an atom. -/
def written : Value → Tag × Content
  | .null => (.null, .whole "null".toList)
  | .bool b => (.bool, .whole (if b then "true".toList else "false".toList))
  | .int n => (.int, .whole (Text.ofInt n))
  | .float x => (.float, .whole (numberText x))
  | .str text => (.str, .whole text)
  | .torn points => (.str, .torn points)
  | .bytes content => (.binary, .whole (Base64.encodeLines content))
  | .moment time _ => (.timestamp, .whole (time.text ' '))
  | .ref _ => (.null, .whole "null".toList)

end Value

namespace Object

/-- The values inside an object, keys before their values. -/
def parts : Object → List Value
  | .list items => items
  | .mapping entries => entries.flatMap fun (key, value) => [key, value]
  | .set members => members
  | .pair first second => [first, second]
  | .vacant => []

end Object

/-- The identities met so far, and those met at least twice in the order of their
second meeting. -/
structure Encounters where
  met : List Nat := []
  again : List Nat := []
deriving Repr, Inhabited

namespace Document

/-- Go through a value and note what is met again.  Every nested call has met an object
for the first time, so the fuel is the number of objects. -/
def survey (document : Document) : Nat → Encounters → Value → Encounters
  | 0, seen, _ => seen
  | fuel + 1, seen, value =>
      match value.identity? with
      | none => seen
      | some id =>
          if seen.met.contains id then
            if seen.again.contains id then seen else { seen with again := seen.again ++ [id] }
          else
            let noted := { seen with met := id :: seen.met }
            match value with
            | .ref id => (document.object id).parts.foldl (survey document fuel) noted
            | _ => noted

/-- Present the values of a list one after the other. -/
def presentAll (present : List Nat → Value → Presentation × List Nat) (met : List Nat) :
    List Value → List Presentation × List Nat
  | [] => ([], met)
  | value :: rest =>
      let (shown, next) := present met value
      let (others, last) := presentAll present next rest
      (shown :: others, last)

/-- Neighbouring presentations as entries. -/
def inPairs : List Presentation → List (Presentation × Presentation)
  | key :: value :: rest => (key, value) :: inPairs rest
  | _ => []

/-- Present a value, given the identities that have an anchor and those met before. -/
def present (document : Document) (anchored : List Nat) :
    Nat → List Nat → Value → Presentation × List Nat
  | 0, met, _ => (.alias 0, met)
  | fuel + 1, met, value =>
      let anchor := value.identity?.bind fun id => (anchored.idxOf? id).map (· + 1)
      let isMet := value.identity?.any met.contains
      if isMet then (.alias (anchor.getD 0), met)
      else
        let noted := match value.identity? with
          | some id => id :: met
          | none => met
        match value with
        | .ref id =>
            let object := document.object id
            match object with
            | .mapping _ =>
                let (shown, last) := presentAll (present document anchored fuel) noted object.parts
                (.mapping anchor .mapping (inPairs shown), last)
            | .set members =>
                let (shown, last) := presentAll (present document anchored fuel) noted members
                (.mapping anchor .set
                  (shown.map fun member => (member, .scalar none .null (.whole "null".toList))), last)
            | _ =>
                let (shown, last) := presentAll (present document anchored fuel) noted object.parts
                (.sequence anchor shown, last)
        | atom =>
            let (tag, content) := atom.written
            (.scalar anchor tag content, noted)

/-- The presentation of a document. -/
def presentation (document : Document) : Presentation :=
  let fuel := document.objects.size + 2
  let seen := document.survey fuel {} document.root
  (document.present seen.again fuel [] document.root).1

end Document
end Yaml
end Codemap
