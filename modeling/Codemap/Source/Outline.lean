import Codemap.Source.Body
import Codemap.Source.Declaration
import Codemap.Source.Documentation
import Codemap.Source.Lead

namespace Codemap

/-!
# The outline of a source text

The outline is found in two passes over the lines.  The first pass finds the
classes: a class lead, its signature, its body and the members at the level of
that body.  The search goes on after the last line of the class.  The second pass
blanks the lines of all classes and finds the functions among the remaining
lines, skipping the body of each.

Every step of a pass moves to a later line, and every member found on a line
leaves a shorter rest of that line.  The number of lines and the length of the
line bound the two recursions.
-/

/-- Something found in a text together with its first and last line. -/
structure Located (α : Type) where
  item : α
  firstLine : Nat
  lastLine : Nat
deriving Repr

namespace Outline

/-! ## Members -/

/-- The name under which a constructor is reported: the class and the further
name, the keyword, or the class. -/
def constructorName (className : Text) (found : Pattern.Match) : Text :=
  match found.group? Lead.nameGroup with
  | some name => className ++ '.' :: name
  | none => (found.group? Lead.keywordGroup).getD className

/-- The name of the member whose trimmed text is given, if it is one. -/
def memberName? (className : Text) (text : Text) : Option Text :=
  let constructed := (Lead.constructorLead className).matchStart? text
  if Documentation.isCommentLine text then none
  else if Lead.statementLead.matchesStart text && constructed.isNone then none
  else
    match constructed with
    | some found => some (constructorName className found)
    | none =>
        match (Lead.getterLead.matchStart? text).bind fun found => found.group? Lead.nameGroup with
        | some name => some ("get ".toList ++ name)
        | none =>
            match (Lead.setterLead.matchStart? text).bind fun found =>
                found.group? Lead.nameGroup with
            | some name => some ("set ".toList ++ name)
            | none =>
                ((Lead.methodLead.matchStart? text).bind fun found =>
                  found.group? Lead.nameGroup).bind fun name =>
                    if name ∈ Lead.controlWords then none else some name

/-- The rest of a segment after a member whose body opens and closes on its
line. -/
def restOfSegment (lines : List Text) (segment : Segment) (signature : Signature) :
    Option Segment :=
  match signature.body with
  | none => none
  | some place =>
      if place.line ≠ segment.line then none
      else
        let whole := lines.getD segment.line []
        let line := match segment.stop with
          | some stop => whole.take stop
          | none => whole
        let inside : Delimiters := { braces := 1 }
        match (inside.feed line (place.column + 1) { atClose := true }).halt with
        | none => none
        | some (_, column) =>
            let text := line.drop (column + 1)
            if Text.isBlankText text then none
            else some { segment with start := column + 1, text }

/-- The members that begin in a segment; `fuel` bounds their number. -/
def membersOfSegment (lines : List Text) (className : Text) :
    Nat → Segment → List (Located Declaration)
  | 0, _ => []
  | fuel + 1, segment =>
      match memberName? className (Text.trim segment.text) with
      | none => []
      | some name =>
          match Signature.find? lines segment.line ⟨segment.start, segment.stop⟩
              Signature.defaultLineLimit [] with
          | none => []
          | some signature =>
              let member : Declaration :=
                { name, signature := signature.text
                  documentation := Documentation.above lines segment.line }
              let found : Located Declaration := ⟨member, segment.line, signature.lastLine⟩
              match restOfSegment lines segment signature with
              | none => [found]
              | some rest => found :: membersOfSegment lines className fuel rest

/-- The members of a body.  A segment on a line that an earlier member's signature
reaches is part of that signature and is passed over; `next` is the first line
that is not. -/
def membersFrom (lines : List Text) (className : Text) (next : Nat) :
    List Segment → List (Located Declaration)
  | [] => []
  | segment :: later =>
      if segment.line < next then membersFrom lines className next later
      else
        let found := membersOfSegment lines className (segment.text.length + 1) segment
        let reached := match found.getLast? with
          | some last => last.lastLine + 1
          | none => next
        found ++ membersFrom lines className reached later

/-! ## Classes -/

/-- The body of a class with the given signature: in braces, set off by
indentation after a colon, or absent. -/
def classBody (lines : List Text) (index : Nat) (signature : Signature) : Body :=
  match signature.body with
  | some opener => Body.braced lines opener
  | none =>
      if [':'].isSuffixOf signature.text then Body.indented lines index signature.lastLine
      else { segments := [], lastLine := signature.lastLine }

/-- The class declared on a line, if one is. -/
def classAt? (lines : List Text) (index : Nat) : Option (Located ClassDeclaration) := do
  let line ← lines[index]?
  let stripped := line.trim
  if Documentation.isCommentLine stripped then none
  else
    let lead ← Lead.classLead.matchStart? stripped
    let name ← lead.group? Lead.nameGroup
    let signature ← Signature.find? lines index {} Signature.defaultLineLimit
      Lead.classContinuations
    let body := classBody lines index signature
    let members := membersFrom lines name 0 body.segments
    some
      { item :=
          { name, signature := signature.text
            documentation := Documentation.above lines index
            methods := members.map Located.item }
        firstLine := index
        lastLine := body.lastLine }

/-- The classes from line `index` on; `fuel` bounds the lines still to be tried. -/
def classesFrom (lines : List Text) : Nat → Nat → List (Located ClassDeclaration)
  | 0, _ => []
  | fuel + 1, index =>
      if lines.length ≤ index then []
      else
        match classAt? lines index with
        | none => classesFrom lines fuel (index + 1)
        | some found => found :: classesFrom lines fuel (max found.lastLine index + 1)

/-- The classes of a text with the lines they span. -/
def locatedClasses (lines : List Text) : List (Located ClassDeclaration) :=
  classesFrom lines lines.length 0

/-! ## Functions -/

/-- A line lies in the range of something located. -/
def Located.covers {α : Type} (found : Located α) (index : Nat) : Bool :=
  found.firstLine ≤ index && index ≤ found.lastLine

/-- The lines with those of the classes made empty. -/
def withoutClasses (lines : List Text) (classes : List (Located ClassDeclaration)) : List Text :=
  lines.mapIdx fun index line =>
    if classes.any fun found => Located.covers found index then [] else line

/-- What a line's beginning says about a function: its name, and whether the
beginning alone makes it a declaration. -/
structure Candidate where
  name : Text
  declared : Bool
deriving DecidableEq, Repr

/-- Read the beginning of a trimmed line as a function's. -/
def candidate? (text : Text) : Option Candidate :=
  match (Lead.arrowLead.matchStart? text).bind fun found => found.group? Lead.nameGroup with
  | some name => some { name, declared := true }
  | none =>
      if Lead.statementLead.matchesStart text then none
      else do
        let lead ← Lead.functionLead.matchStart? text
        let name ← lead.group? Lead.nameGroup
        let typeName := Text.trim ((lead.group? Lead.typeGroup).getD [])
        if name ∈ Lead.controlWords ∨ typeName ∈ Lead.controlWords then none
        else
          let keyword := (lead.group? Lead.keywordGroup).getD []
          some
            { name
              declared := !typeName.isEmpty || !keyword.isEmpty ||
                Lead.declaringWords.matchesStart text }

/-- The last line of the body after a function's signature. -/
def functionEnd (lines : List Text) (index : Nat) (signature : Signature) : Nat :=
  (classBody lines index signature).lastLine

/-- The function declared on a line, if one is.  `lines` are those without the
classes and `whole` all of them, in which the documentation is sought. -/
def functionAt? (whole lines : List Text) (index : Nat) : Option (Located Declaration) := do
  let line ← lines[index]?
  let stripped := line.trim
  if stripped.isEmpty || Documentation.isCommentLine stripped then none
  else
    let found ← candidate? stripped
    let signature ← Signature.find? lines index {} Signature.defaultLineLimit []
    if found.declared || signature.hasBody ||
        signature.text.endsWithAny [":".toList, "=>".toList] then
      some
        { item :=
            { name := found.name, signature := signature.text
              documentation := Documentation.above whole index }
          firstLine := index
          lastLine := functionEnd lines index signature }
    else none

/-- The functions from line `index` on; `fuel` bounds the lines still to be tried. -/
def functionsFrom (whole lines : List Text) : Nat → Nat → List (Located Declaration)
  | 0, _ => []
  | fuel + 1, index =>
      if lines.length ≤ index then []
      else
        match functionAt? whole lines index with
        | none => functionsFrom whole lines fuel (index + 1)
        | some found => found :: functionsFrom whole lines fuel (found.lastLine + 1)

/-- The functions of a text with the lines they span. -/
def locatedFunctions (lines : List Text) : List (Located Declaration) :=
  functionsFrom lines (withoutClasses lines (locatedClasses lines)) lines.length 0

/-- The outline of a source text. -/
def ofText (text : Text) : Outline :=
  let lines := text.lines
  { classes := (locatedClasses lines).map Located.item
    functions := (locatedFunctions lines).map Located.item }

end Outline
end Codemap
