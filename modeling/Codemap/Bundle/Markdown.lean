import Codemap.Files.Walk
import Codemap.Number.Integer
import Codemap.Source.Declaration

namespace Codemap

/-!
# The text of a bundle

A bundle describes a directory: its description file, the files that were searched
for with the outlines of their code, and the files that import them.  It is written in
Markdown; code and comments stand in fences.
-/

namespace Bundle

/-- The description file of a directory. -/
inductive Readme where
  | absent
  | unreadable
  | text (content : Text)
deriving DecidableEq, Repr, Inhabited

/-- A file of a bundle. -/
structure Item where
  file : Text
  outline : Outline
deriving Inhabited

/-- The path of a file of a bundle. -/
def Item.path (item : Item) : Path :=
  Path.ofText item.file

/-- A path as it is shown: seen from the root if it lies below it, otherwise its last
three parts. -/
def displayPath (path : Path) (root : Option Path) : Text :=
  match root.bind path.relativeTo? with
  | some below => below.text
  | none => List.intercalate ['/'] (path.parts.drop (path.parts.length - 3))

/-! ## Pieces -/

/-- The mark of a fence. -/
def fenceMark : Text := "\x60\x60\x60".toList

/-- A line. -/
def line (text : Text) : Text :=
  text ++ ['\n']

/-- A text as code within a line. -/
def inlineCode (text : Text) : Text :=
  '\x60' :: text ++ ['\x60']

/-- A heading of a level, with an empty line after it. -/
def heading (level : Nat) (text : Text) : Text :=
  line (List.replicate level '#' ++ ' ' :: text) ++ ['\n']

/-- A fence with a language around a text, indented. -/
def fence (indent language text : Text) : Text :=
  line (indent ++ fenceMark ++ language) ++ line (indent ++ text) ++ line (indent ++ fenceMark)

/-- A label in front of a fence. -/
def label (text : String) : Text :=
  line ("**".toList ++ text.toList ++ ":**".toList)

/-- Indent the lines of a text after its first.  Empty lines stay empty. -/
def indentRest (indent text : Text) : Text :=
  match (text ++ ['\n']).lines with
  | [] => []
  | first :: rest =>
      List.intercalate ['\n']
        (first :: rest.map fun line => if line.isEmpty then [] else indent ++ line)

/-- Documentation that is there and not empty. -/
def present (documentation : Option Text) : Option Text :=
  documentation.filter fun text => !text.isEmpty

/-- The documentation of a class or function, if it has some. -/
def documentationBlock (documentation : Option Text) : Text :=
  match present documentation with
  | some text => label "Documentation" ++ fence [] [] text ++ ['\n']
  | none => []

/-- The signature of a class or function. -/
def signatureBlock (language signature : Text) : Text :=
  label "Signature" ++ fence [] language signature ++ ['\n']

/-- The indent of what belongs to an item of a list. -/
def itemIndent : Text := [' ', ' ']

/-- A method as an item of a list. -/
def methodItem (language : Text) (method : Declaration) : Text :=
  line ('-' :: ' ' :: inlineCode method.name) ++
    (match present method.documentation with
      | some text => fence itemIndent [] (indentRest itemIndent text)
      | none => []) ++
    fence itemIndent language method.signature

/-- A class with its methods. -/
def classSection (language : Text) (found : ClassDeclaration) : Text :=
  heading 5 (inlineCode found.name) ++ documentationBlock found.documentation ++
    signatureBlock language found.signature ++
    if found.methods.isEmpty then []
    else label "Methods" ++ '\n' :: found.methods.flatMap (methodItem language) ++ ['\n']

/-- A function. -/
def functionSection (language : Text) (found : Declaration) : Text :=
  heading 5 (inlineCode found.name) ++ documentationBlock found.documentation ++
    signatureBlock language found.signature

/-- A file. -/
def fileSection (root : Option Path) (item : Item) : Text :=
  let language := Walk.fenceLanguage item.path
  heading 3 item.path.name ++
    line ("**Path:** ".toList ++ inlineCode (displayPath item.path root)) ++ ['\n'] ++
    (if item.outline.classes.isEmpty then []
      else heading 4 "Classes".toList ++ item.outline.classes.flatMap (classSection language)) ++
    (if item.outline.functions.isEmpty then []
      else heading 4 "Functions".toList ++
        item.outline.functions.flatMap (functionSection language)) ++
    if item.outline.isEmpty then
      line "*No classes or functions found in this file*".toList ++ ['\n']
    else []

/-! ## The whole text -/

/-- The description of the directory. -/
def readmeSection : Readme → Text
  | .absent => line "*No README found*".toList
  | .unreadable => line "*README not found or could not be read*".toList
  | .text content => heading 3 "README".toList ++ line content.trim

/-- Files in the order of their paths. -/
def inOrder (items : List Item) : List Item :=
  items.mergeSort fun a b => Text.le a.file b.file

/-- The sections of several files. -/
def fileSections (root : Option Path) (items : List Item) : Text :=
  (inOrder items).flatMap fun item => line (fileSection root item)

/-- What a bundle is made from. -/
structure Content where
  name : Text
  generated : Text
  readme : Readme := .absent
  matched : List Item
  referencing : List Item := []
  root : Option Path := none
deriving Inhabited

/-- The text of a bundle. -/
def render (content : Content) : Text :=
  let count (items : List Item) : Text := Text.ofNat items.length
  let importing :=
    if content.referencing.isEmpty then []
    else
      heading 2 "Referencing Files".toList ++
        line ("Found ".toList ++ count content.referencing ++
          " files that import the matched files:".toList) ++ ['\n'] ++
        fileSections content.root content.referencing
  let whole :=
    heading 1 ("Directory Analysis: ".toList ++ content.name) ++
      line ("Generated: ".toList ++ content.generated) ++ ['\n'] ++
      heading 2 "Table of Contents".toList ++ line "1. [Overview](#overview)".toList ++
      line "2. [Matched Files](#matched-files)".toList ++
      (if content.referencing.isEmpty then []
        else line "3. [Referencing Files](#referencing-files)".toList) ++
      '\n' :: heading 2 "Overview".toList ++ readmeSection content.readme ++
      '\n' :: heading 2 "Matched Files".toList ++
      line ("Found ".toList ++ count content.matched ++
        " files matching the search patterns:".toList) ++ ['\n'] ++
      fileSections content.root content.matched ++ importing
  line whole.trim

end Bundle
end Codemap
