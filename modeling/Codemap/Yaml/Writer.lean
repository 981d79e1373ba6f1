import Codemap.Yaml.Pen
import Codemap.Yaml.Presentation

namespace Codemap
namespace Yaml

/-!
# Writing a document

A document is written in block style: one entry of a mapping or item of a sequence a
line, nested collections indented by two columns.  A sequence under a key is not
indented further.  Empty collections are written in brackets.  A key that is long,
empty or of several lines is announced by a question mark.
-/

namespace Presentation

/-- A tag as it is written. -/
def tagText (tag : Tag) : Text :=
  match Tag.names.find? fun entry => entry.2 = tag with
  | some (name, _) => '!' :: '!' :: name.toList
  | none => []

/-- The name of an anchor. -/
def anchorName (anchor : Nat) : Text :=
  'i' :: 'd' :: Binary64.padded 3 anchor

/-- The columns by which a nested collection is indented. -/
def step : Nat := 2

/-- The longest key that stands on the line of its value. -/
def keyLimit : Nat := 128

/-- A key may stand before its value on one line. -/
def isSimpleKey : Presentation → Bool
  | .alias _ => true
  | .scalar anchor tag content =>
      let text := content.text
      let marks := (anchor.map fun number => (anchorName number).length).getD 0 +
        (tagText tag).length
      decide (marks + text.length < keyLimit) && !text.isEmpty && !Style.isMultiline text
  | .sequence _ items => items.isEmpty
  | .mapping _ _ entries => entries.isEmpty

/-- Write an anchor, if there is one. -/
def writeAnchor (pen : Pen) : Option Nat → Pen
  | none => pen
  | some anchor => pen.indicator ('&' :: anchorName anchor) true false false

/-- Where a value stands: in which column its surroundings begin, whether directly in a
mapping, and whether as a simple key. -/
structure Position where
  indent : Option Nat := none
  inMapping : Bool := false
  isKey : Bool := false

namespace Position

/-- The column of a collection at this position. -/
def inner (position : Position) : Nat :=
  match position.indent with
  | none => 0
  | some indent => indent + step

/-- The column of the further lines of a scalar at this position. -/
def continuation (position : Position) : Nat :=
  (position.indent.getD 0) + step

end Position

mutual

/-- Write a value. -/
def write (pen : Pen) (position : Position) : Presentation → Pen
  | .alias anchor => pen.indicator ('*' :: anchorName anchor) true false false
  | .scalar anchor tag content =>
      let text := content.text
      let style := Style.choose tag text position.isKey
      let anchored := writeAnchor pen anchor
      let tagged :=
        if (style = .plain ∧ plainTag text = tag) ∨ (style ≠ .plain ∧ tag = .str) then anchored
        else anchored.indicator (tagText tag) true false false
      tagged.scalar style position.continuation (!position.isKey) content
  | .sequence anchor items =>
      let anchored := writeAnchor pen anchor
      if items.isEmpty then
        (anchored.indicator ['['] true true false).indicator [']'] false false false
      else
        let flush := position.inMapping && !anchored.atLineStart
        let indent := if flush then position.indent.getD 0 else position.inner
        writeItems anchored indent items
  | .mapping anchor tag entries =>
      let anchored := writeAnchor pen anchor
      let tagged :=
        if tag = .mapping then anchored else anchored.indicator (tagText tag) true false false
      if entries.isEmpty then
        (tagged.indicator ['\x7b'] true true false).indicator ['\x7d'] false false false
      else writeEntries tagged position.inner entries

/-- Write the items of a sequence in a column. -/
def writeItems (pen : Pen) (indent : Nat) : List Presentation → Pen
  | [] => pen
  | item :: rest =>
      let marked := (pen.indentTo indent).indicator ['-'] true false true
      writeItems (write marked { indent := some indent } item) indent rest

/-- Write the entries of a mapping in a column. -/
def writeEntries (pen : Pen) (indent : Nat) : List (Presentation × Presentation) → Pen
  | [] => pen
  | (key, value) :: rest =>
      let ready := pen.indentTo indent
      let marked :=
        if key.isSimpleKey then
          (write ready { indent := some indent, inMapping := true, isKey := true } key).indicator
            [':'] false false false
        else
          let asked := ready.indicator ['?'] true false true
          let shown := write asked { indent := some indent, inMapping := true } key
          (shown.indentTo indent).indicator [':'] true false true
      writeEntries (write marked { indent := some indent, inMapping := true } value) indent rest

end

/-- The document is a scalar without quotes, whose end has to be marked. -/
def isOpenEnded : Presentation → Bool
  | .scalar _ tag content => Style.choose tag content.text false == .plain
  | _ => false

/-- The text of a document. -/
def render (presentation : Presentation) : Text :=
  let ended := (write {} {} presentation).indentTo 0
  let final :=
    if presentation.isOpenEnded then
      (ended.indicator "...".toList true false false).indentTo 0
    else ended
  final.written.reverse

end Presentation

namespace Document

/-- The text of a document. -/
def render (document : Document) : Text :=
  document.presentation.render

end Document
end Yaml
end Codemap
