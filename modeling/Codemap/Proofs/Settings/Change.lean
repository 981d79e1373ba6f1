import Codemap.Proofs.Files.Storing
import Codemap.Proofs.Settings.Loading
import Codemap.Proofs.Settings.Places
import Codemap.Proofs.Yaml.Construction
import Codemap.Settings.Editor

namespace Codemap

/-!
# Changes of a settings file

An edit reads the file, changes the document in memory, and writes it back.  What is read
depends on the bytes of the file only, and what is written depends on the document only; so
an edit that succeeds leaves a file with the text of the document that it made.

That this text is read as the same document again is a property of the notation in which it
is written, and of the document.
-/

open Yaml

namespace Edit

/-- A change of a document. -/
inductive Change where
  | set (key : Text) (value : Document)
  | delete (key : Text)
  | add (key : Text) (item : Document)
  | remove (key : Text) (item : Document)
deriving DecidableEq

namespace Change

/-- The key that a change is about. -/
def key : Change → Text
  | .set key _ | .delete key | .add key _ | .remove key _ => key

/-- The document after a change; nothing if there is nothing to do. -/
def run (document : Document) : Change → Except SettingsFault (Option Document)
  | .set key value => Editor.settle ((Edit.set document key value).map some)
  | .delete key => Editor.settle (Edit.delete document key)
  | .add key item => Editor.settle ((Edit.add document key item).map some)
  | .remove key item => Edit.remove document key item

end Change
end Edit

namespace Settings

variable {tree : Tree} {file : Path} {text name : Text} {document : Document}

/-- What is read depends on the bytes of the file. -/
theorem readDocument_congr {after : Tree} (same : after.readBytes file = tree.readBytes file) :
    readDocument after file = readDocument tree file := by
  rw [readDocument_eq, readDocument_eq, Tree.readText, Tree.readText, same]

/-- A document that is a mapping and is closed, and whose mappings have no key twice. -/
structure IsMapping (document : Document) : Prop where
  closed : document.Closed
  keys : ∀ id, (document.object id).KeysDiffer
  root : ∃ id entries, document.root = .ref id ∧ document.object id = .mapping entries

/-- The root of a mapping is a container. -/
theorem IsMapping.contained (mapping : IsMapping document) :
    ∃ id, document.root = .ref id ∧ (Edit.container? document (.ref id)).isSome = true := by
  obtain ⟨id, entries, root, same⟩ := mapping.root
  exact ⟨id, root, by simp [Edit.container?, same]⟩

theorem isMapping_empty : IsMapping Document.emptyMapping where
  closed := by
    constructor
    · rintro id ⟨⟩
      decide
    · intro id part held
      cases id with
      | zero => exact absurd held List.not_mem_nil
      | succ id =>
          rw [Document.object_of_not_lt (by simp [Document.emptyMapping])] at held
          exact absurd held List.not_mem_nil
  keys := by
    refine Document.forall_object Object.KeysDiffer trivial fun object member => ?_
    rw [Array.mem_singleton.mp member]
    exact .nil
  root := ⟨0, [], rfl, rfl⟩

theorem isMapping_interpret (read : interpret name text = .ok document) : IsMapping document := by
  rw [interpret] at read
  split at read
  · cases read
    exact isMapping_empty
  · split at read
    · cases read
    · cases read
    · next found parsed =>
        split at read
        · cases read
          exact isMapping_empty
        · next id root =>
            split at read
            · next entries mapping =>
                cases read
                exact ⟨Document.closed_ofText parsed, Document.keysDiffer_ofText parsed, id, entries,
                  root, mapping⟩
            · cases read
        · cases read

/-- The name of a file has no influence on the document that it holds. -/
theorem interpret_congr {other : Text} (read : interpret name text = .ok document) :
    interpret other text = .ok document := by
  rw [interpret] at read ⊢
  split at read
  · next blank => rw [if_pos blank, read]
  · next filled =>
      rw [if_neg filled]
      split at read
      · cases read
      · cases read
      · split at read
        · exact read
        · split at read
          · exact read
          · cases read
        · cases read

/-- The document of a settings file is a mapping. -/
theorem isMapping_readDocument (read : readDocument tree file = .ok document) :
    IsMapping document := by
  rw [readDocument_eq] at read
  split at read
  · cases read
    exact isMapping_empty
  · cases read
  · cases read
  · exact isMapping_interpret read

/-- What is written of a document is read as the same document, whatever the name of the
file. -/
def ReadsBack (document : Document) : Prop :=
  ∀ name, ∃ again, interpret name document.render.unifyNewlines = .ok again ∧ document.Same again

end Settings

namespace Editor

variable {editor : Editor} {tree after : Tree} {document edited : Document}
  {change : Edit.Change} {why : SettingsFault} {content : Bytes} {changed : Int}

/-! ## Reading and writing -/

/-- The file of an editor has a path that is written out in full and is not the root. -/
structure Placed (editor : Editor) : Prop where
  resolved : editor.file.Resolved
  below : editor.file.names ≠ []

/-- What is read of a file that is there. -/
theorem read_of_stored (stored : tree.entry editor.file = .ok (.file content changed)) :
    editor.read tree = match Utf8.decode content with
      | .ok text => Settings.interpret editor.file.name text.unifyNewlines
      | .error failure => .error (.undecodable failure) := by
  rw [read, Settings.readDocument_eq, Settings.readText_of_stored stored]
  cases Utf8.decode content <;> rfl

theorem write_eq_ok_iff : editor.write tree document = .ok after ↔
    ∃ ready, tree.makeDirectories editor.file.parent = .ok ready ∧
      ready.writeBytes editor.file (Utf8.encode document.render) = .ok after := by
  rw [write]
  cases tree.makeDirectories editor.file.parent with
  | error why => simp
  | ok ready =>
      simp only [Tree.writeText, Except.ok.injEq, exists_eq_left']
      cases ready.writeBytes editor.file (Utf8.encode document.render) <;> simp

/-- Whether a document can be written does not depend on the document. -/
theorem write_error_iff (other : Document) :
    editor.write tree document = .error why ↔ editor.write tree other = .error why := by
  rw [write, write]
  split
  · rfl
  · next ready _ =>
      have alike {reason : StorageFault} :
          ready.writeText editor.file document.render = .error reason ↔
            ready.writeText editor.file other.render = .error reason :=
        Tree.writeBytes_error_iff _
      cases first : ready.writeText editor.file document.render with
      | error reason => rw [alike.mp first]
      | ok written =>
          cases second : ready.writeText editor.file other.render with
          | error reason =>
              rw [alike.mpr second] at first
              cases first
          | ok again => simp only [reduceCtorEq]

section Placed

variable (placed : editor.Placed)

include placed

/-- What has been written is in the file. -/
theorem stored_of_write (written : editor.write tree document = .ok after) :
    ∃ time, after.entry editor.file = .ok (.file (Utf8.encode document.render) time) := by
  obtain ⟨ready, -, written⟩ := write_eq_ok_iff.mp written
  exact ⟨_, (Tree.stored_of_writeBytes placed.resolved.plain placed.resolved.legible placed.below
    written).1⟩

/-- Writing leaves the current directory as it is. -/
theorem current_of_write (written : editor.write tree document = .ok after) :
    after.current = tree.current := by
  obtain ⟨ready, made, written⟩ := write_eq_ok_iff.mp written
  have stored := Tree.stored_of_writeBytes placed.resolved.plain placed.resolved.legible placed.below
    written
  exact stored.2.trans (Tree.current_of_makeDirectories made)

/-- A file that is there can be written. -/
theorem write_of_stored (stored : tree.entry editor.file = .ok (.file content changed))
    (document : Document) : ∃ after, editor.write tree document = .ok after := by
  have made := Tree.makeDirectories_of_stored placed.resolved.plain placed.resolved.legible
    placed.below stored
  obtain ⟨after, written⟩ := Tree.writeBytes_of_stored placed.resolved.plain
    placed.resolved.legible placed.below stored (Utf8.encode document.render)
  exact ⟨after, write_eq_ok_iff.mpr ⟨tree, made, written⟩⟩

/-- A document that reads back is read after it has been written. -/
theorem read_of_write (readsBack : Settings.ReadsBack document)
    (written : editor.write tree document = .ok after) :
    ∃ again, editor.read after = .ok again ∧ document.Same again := by
  obtain ⟨time, stored⟩ := stored_of_write placed written
  rw [read_of_stored stored, Utf8.decode_encode]
  exact readsBack editor.file.name

end Placed

/-! ## Changes -/

/-- The files after a change. -/
def carryOut (editor : Editor) (tree : Tree) : Edit.Change → Except SettingsFault Tree
  | .set key value => (editor.set tree key value).map Prod.snd
  | .delete key => (editor.delete tree key).map Prod.snd
  | .add key item => (editor.add tree key item).map Prod.snd
  | .remove key item => (editor.remove tree key item).map Prod.snd

/-- Write what has been edited, if anything has. -/
def writeIfEdited (editor : Editor) (tree : Tree) : Option Document → Except SettingsFault Tree
  | some edited => editor.write tree edited
  | none => .ok tree

theorem map_written (editor : Editor) (tree : Tree) (edited : Except Refusal Document) :
    (do
      let document ← settle edited
      return (document, ← editor.write tree document) : Except SettingsFault _).map Prod.snd =
    settle (edited.map some) >>= editor.writeIfEdited tree := by
  cases edited with
  | error why => rfl
  | ok document =>
      simp only [settle, Except.map, bind, Except.bind, writeIfEdited]
      cases editor.write tree document <;> rfl

theorem map_writtenIfFound (editor : Editor) (tree : Tree)
    (found : Except SettingsFault (Option Document)) :
    (do
      match ← found with
      | some edited => return (true, ← editor.write tree edited)
      | none => return (false, tree) : Except SettingsFault _).map Prod.snd =
    found >>= editor.writeIfEdited tree := by
  cases found with
  | error why => rfl
  | ok outcome =>
      cases outcome with
      | none => rfl
      | some edited =>
          simp only [Except.map, bind, Except.bind, writeIfEdited]
          cases editor.write tree edited <;> rfl

/-- A change reads the document, changes it, and writes it if there was something to do. -/
theorem carryOut_eq (editor : Editor) (tree : Tree) (change : Edit.Change) :
    editor.carryOut tree change = (do
      let document ← editor.read tree
      let edited ← change.run document
      editor.writeIfEdited tree edited) := by
  cases read : editor.read tree with
  | error why =>
      cases change <;> simp only [carryOut, set, delete, add, remove, read] <;> rfl
  | ok document =>
      cases change with
      | set key value =>
          simp only [carryOut, set, read]
          exact map_written editor tree (Edit.set document key value)
      | delete key =>
          simp only [carryOut, delete, read]
          exact map_writtenIfFound editor tree (settle (Edit.delete document key))
      | add key item =>
          simp only [carryOut, add, read]
          exact map_written editor tree (Edit.add document key item)
      | remove key item =>
          simp only [carryOut, remove, read]
          exact map_writtenIfFound editor tree (Edit.remove document key item)

/-- The editor of the file in a directory of its own. -/
def lonelyEditor : Editor where
  file := Settings.lonelyPath

/-- A directory without a settings file. -/
def bareFolder : Tree where
  root := .directory [("repo".toList, .directory [])]
  current := { names := ["repo".toList] }

theorem lonelyEditor_placed : lonelyEditor.Placed where
  resolved := ⟨rfl, by decide⟩
  below := by decide

end Editor
end Codemap
