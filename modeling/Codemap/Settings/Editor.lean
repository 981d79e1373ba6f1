import Codemap.Settings.Basic
import Codemap.Settings.Edit
import Codemap.Yaml.Writer

namespace Codemap

/-!
# Editing a settings file

An editor works on one file.  It reads the whole document, edits it, and writes the
whole document back.  An edit that is refused, or that finds nothing to do, writes
nothing.  What stands in the file beside its values, such as comments, is not kept.
-/

/-- An editor of a settings file. -/
structure Editor where
  file : Path
deriving DecidableEq, Repr, Inhabited

namespace Editor

open Yaml

/-- The document of the file. -/
def read (editor : Editor) (tree : Tree) : Except SettingsFault Document :=
  Settings.readDocument tree editor.file

/-- Write a document to the file; missing directories are made. -/
def write (editor : Editor) (tree : Tree) (document : Document) : Except SettingsFault Tree :=
  match tree.makeDirectories editor.file.parent with
  | .error why => .error (.storage why)
  | .ok ready =>
      match ready.writeText editor.file document.render with
      | .ok written => .ok written
      | .error why => .error (.storage why)

/-- A refusal as a fault. -/
def settle {α : Type} : Except Refusal α → Except SettingsFault α
  | .ok value => .ok value
  | .error why => .error (.refused why)

/-- The value of a key; null if the key is not there. -/
def get (editor : Editor) (tree : Tree) (key : Text) : Except SettingsFault Document := do
  let document ← editor.read tree
  let root ← settle (Edit.get document key)
  return { document with root }

/-- Give a key a value. -/
def set (editor : Editor) (tree : Tree) (key : Text) (value : Document) :
    Except SettingsFault (Document × Tree) := do
  let document ← editor.read tree
  let edited ← settle (Edit.set document key value)
  return (edited, ← editor.write tree edited)

/-- Remove a key; whether it was there is returned. -/
def delete (editor : Editor) (tree : Tree) (key : Text) : Except SettingsFault (Bool × Tree) := do
  let document ← editor.read tree
  match ← settle (Edit.delete document key) with
  | some edited => return (true, ← editor.write tree edited)
  | none => return (false, tree)

/-- Append an item to the list of a key. -/
def add (editor : Editor) (tree : Tree) (key : Text) (item : Document) :
    Except SettingsFault (Document × Tree) := do
  let document ← editor.read tree
  let edited ← settle (Edit.add document key item)
  return (edited, ← editor.write tree edited)

/-- Remove the first equal item from the list of a key; whether there was one is
returned. -/
def remove (editor : Editor) (tree : Tree) (key : Text) (item : Document) :
    Except SettingsFault (Bool × Tree) := do
  let document ← editor.read tree
  match ← Edit.remove document key item with
  | some edited => return (true, ← editor.write tree edited)
  | none => return (false, tree)

/-! ## Answers for the user -/

/-- What an operation comes to: the text of its answer, or the fault that it ends with; the
files after it; and whether the file was written.  A fault may come after the file has been
written, because some answers are made from what is read of it again. -/
structure Completion where
  result : Except SettingsFault Text
  tree : Tree
  hasWritten : Bool
deriving Inhabited

/-- A document without the blanks around its text. -/
def shown (document : Document) : Text :=
  document.render.trim

/-- The answer to an edit that was made. -/
def confirmation (document : Document) : Text :=
  "Configuration updated successfully. New config:\n".toList ++ shown document

/-- An operation that wrote the file and answers with a document. -/
def updated (document : Except SettingsFault Document) (tree : Tree) : Completion where
  result := document.map confirmation
  tree
  hasWritten := true

/-- An operation that left the files alone. -/
def unchanged (result : Except SettingsFault Text) (tree : Tree) : Completion where
  result
  tree
  hasWritten := false

/-- The answer if there is no value under a key. -/
def notFound (key : Text) : Text :=
  "Key ".toList ++ inQuotes key ++ " not found".toList

/-- The answer if a list has no such item. -/
def noSuchItem (key : Text) : Text :=
  "Item not found in list at ".toList ++ inQuotes key

/-- What an edit that gives a document comes to: the document is shown as it was made. -/
def completeWith (tree : Tree) : Except SettingsFault (Document × Tree) → Completion
  | .ok (document, after) => updated (.ok document) after
  | .error why => unchanged (.error why) tree

/-- What an edit that may find nothing comes to: the document is shown as the file has it. -/
def completeIfFound (editor : Editor) (tree : Tree) (missing : Text) :
    Except SettingsFault (Bool × Tree) → Completion
  | .ok (true, after) => updated (editor.read after) after
  | .ok (false, after) => unchanged (.ok missing) after
  | .error why => unchanged (.error why) tree

/-- Carry out an operation.  The item of a list is `item` if it is not null, and `value`
otherwise. -/
def apply (editor : Editor) (tree : Tree) (operation : EditOperation) (key : Text)
    (value item : Document) : Completion :=
  let listItem := if item.root = .null then value else item
  match operation with
  | .get => unchanged ((editor.get tree key).map shown) tree
  | .set => completeWith tree (editor.set tree key value)
  | .add => completeWith tree (editor.add tree key listItem)
  | .delete => editor.completeIfFound tree (notFound key) (editor.delete tree key)
  | .remove => editor.completeIfFound tree (noSuchItem key) (editor.remove tree key listItem)

/-- Carry out the operation with a name. -/
def applyNamed (editor : Editor) (tree : Tree) (operation key : Text) (value item : Document) :
    Completion :=
  match EditOperation.ofText? operation with
  | some known => editor.apply tree known key value item
  | none => unchanged (.error (.refused (.unknownOperation operation))) tree

end Editor
end Codemap
