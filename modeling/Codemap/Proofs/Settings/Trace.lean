import Codemap.Proofs.Settings.Change

namespace Codemap
namespace Editor

/-!
# Edits that fail

An operation that is refused, or that finds nothing to do, leaves the files as they were: a
document is written only after the whole edit of it has been made in memory.  The answer to
the removal of a key or an item, however, is made from the file as it is read again.  If what
has been written does not read back, the operation is refused after the file has changed.
-/

open Yaml

variable {editor : Editor} {tree after : Tree} {operation key missing : Text}
  {value item document edited : Document} {isFound : Bool} {done : Completion}

/-! ## Failures -/

/-- The operation is refused, or answers that there is nothing to take away. -/
inductive Completion.Fails (key : Text) (done : Completion) : Prop
  | refused {why : Refusal} (ended : done.result = .error (.refused why))
  | notFound (ended : done.result = .ok (Editor.notFound key))
  | noSuchItem (ended : done.result = .ok (Editor.noSuchItem key))

/-- A document has been written, and the file is refused when it is read again. -/
structure Unreadable (editor : Editor) (tree : Tree) (edited : Document) (done : Completion) :
    Prop where
  written : editor.write tree edited = .ok done.tree
  refused : ∃ why, editor.read done.tree = .error (.refused why) ∧
    done.result = .error (.refused why)

/-- Only a document that does not read back is refused when it is read again. -/
theorem Unreadable.not_readsBack (placed : editor.Placed)
    (unreadable : editor.Unreadable tree edited done) : ¬ Settings.ReadsBack edited := by
  intro readsBack
  obtain ⟨again, read, -⟩ := read_of_write placed readsBack unreadable.written
  obtain ⟨why, refused, -⟩ := unreadable.refused
  rw [read] at refused
  cases refused

/-- A confirmation is told from the answers that something is not there by its first word. -/
theorem confirmation_ne (key : Text) (document : Document) :
    confirmation document ≠ notFound key ∧ confirmation document ≠ noSuchItem key := by
  constructor <;>
  · intro same
    cases (List.cons.inj same).1

/-- An operation that wrote the file fails only if the document to be shown is refused. -/
theorem refused_of_updated {shown : Except SettingsFault Document}
    (failed : (updated shown after).Fails key) : ∃ why, shown = .error (.refused why) := by
  cases shown with
  | error why =>
      rcases failed with ended | ended | ended <;> cases ended
      exact ⟨_, rfl⟩
  | ok document =>
      rcases failed with ended | ended | ended
      · cases ended
      · exact absurd (Except.ok.inj ended) (confirmation_ne key document).1
      · exact absurd (Except.ok.inj ended) (confirmation_ne key document).2

/-! ## The operations -/

/-- An edit whose document is shown as it was made fails without a trace. -/
theorem tree_of_completeWith_failed {made : Except SettingsFault (Document × Tree)}
    (failed : (completeWith tree made).Fails key) : (completeWith tree made).tree = tree := by
  cases made with
  | error why => rfl
  | ok pair =>
      obtain ⟨why, refused⟩ := refused_of_updated failed
      cases refused

/-- What has been found is written; otherwise the files stay. -/
theorem writeIfEdited_of_found {found : Except SettingsFault (Option Document)}
    (ended : (do
      match ← found with
      | some edited => return (true, ← editor.write tree edited)
      | none => return (false, tree)) = .ok (isFound, after)) :
    ∃ outcome, found = .ok outcome ∧ outcome.isSome = isFound ∧
      editor.writeIfEdited tree outcome = .ok after := by
  obtain ⟨outcome, found, ended⟩ := ok_of_bind ended
  refine ⟨outcome, found, ?_⟩
  cases outcome with
  | none =>
      cases ended
      exact ⟨rfl, rfl⟩
  | some edited =>
      obtain ⟨written, write, ended⟩ := ok_of_bind ended
      cases ended
      exact ⟨rfl, write⟩

/-- The removal of a key tells whether it changed the document, and writes it if so. -/
theorem ok_of_delete (ended : editor.delete tree key = .ok (isFound, after)) :
    ∃ document outcome, editor.read tree = .ok document ∧
      (Edit.Change.delete key).run document = .ok outcome ∧ outcome.isSome = isFound ∧
      editor.writeIfEdited tree outcome = .ok after := by
  obtain ⟨document, read, ended⟩ := ok_of_bind ended
  obtain ⟨outcome, ran⟩ := writeIfEdited_of_found ended
  exact ⟨document, outcome, read, ran⟩

/-- The removal of an item tells whether it changed the document, and writes it if so. -/
theorem ok_of_remove (ended : editor.remove tree key item = .ok (isFound, after)) :
    ∃ document outcome, editor.read tree = .ok document ∧
      (Edit.Change.remove key item).run document = .ok outcome ∧ outcome.isSome = isFound ∧
      editor.writeIfEdited tree outcome = .ok after := by
  obtain ⟨document, read, ended⟩ := ok_of_bind ended
  obtain ⟨outcome, ran⟩ := writeIfEdited_of_found ended
  exact ⟨document, outcome, read, ran⟩

/-- An edit that takes something away fails without a trace, unless what has been written is
refused when it is read again. -/
theorem tree_of_completeIfFound_failed {change : Edit.Change}
    {made : Except SettingsFault (Bool × Tree)}
    (inverted : ∀ isFound after, made = .ok (isFound, after) →
      ∃ document outcome, editor.read tree = .ok document ∧ change.run document = .ok outcome ∧
        outcome.isSome = isFound ∧ editor.writeIfEdited tree outcome = .ok after)
    (failed : (editor.completeIfFound tree missing made).Fails key) :
    (editor.completeIfFound tree missing made).tree = tree ∨
      ∃ document edited, editor.read tree = .ok document ∧
        change.run document = .ok (some edited) ∧
        editor.Unreadable tree edited (editor.completeIfFound tree missing made) := by
  rcases made with why | ⟨isFound, after⟩
  · exact Or.inl rfl
  · obtain ⟨document, outcome, read, ran, found, written⟩ := inverted isFound after rfl
    cases outcome with
    | none =>
        cases found
        cases written
        exact Or.inl rfl
    | some edited =>
        cases found
        obtain ⟨why, refused⟩ := refused_of_updated failed
        have answer : (updated (editor.read after) after).result = .error (.refused why) := by
          rw [refused]
          rfl
        exact Or.inr ⟨document, edited, read, ran, written, why, refused, answer⟩

/-- The change by which an operation takes something away. -/
def removal? (operation key : Text) (value item : Document) : Option Edit.Change :=
  match EditOperation.ofText? operation with
  | some .delete => some (.delete key)
  | some .remove => some (.remove key (if item.root = .null then value else item))
  | _ => none

/-- An operation that fails leaves no trace.  The only exception is a removal that was made
and written, where the file is refused as it is read again for the answer; and what has been
written does not read back then. -/
theorem tree_of_failed (ended : editor.applyNamed tree operation key value item = done)
    (failed : done.Fails key) :
    done.tree = tree ∨ ∃ change document edited,
      removal? operation key value item = some change ∧ editor.read tree = .ok document ∧
      change.run document = .ok (some edited) ∧ editor.Unreadable tree edited done ∧
      (editor.Placed → ¬ Settings.ReadsBack edited) := by
  subst ended
  rw [applyNamed] at failed ⊢
  cases known : EditOperation.ofText? operation with
  | none => exact Or.inl rfl
  | some wanted =>
      rw [known] at failed
      dsimp only at failed ⊢
      cases wanted with
      | get => exact Or.inl rfl
      | set | add => exact Or.inl (tree_of_completeWith_failed failed)
      | delete =>
          refine (tree_of_completeIfFound_failed (fun _ _ => ok_of_delete) failed).imp_right ?_
          rintro ⟨document, edited, read, ran, unreadable⟩
          exact ⟨.delete key, document, edited, by rw [removal?, known], read, ran, unreadable,
            fun placed => unreadable.not_readsBack placed⟩
      | remove =>
          refine (tree_of_completeIfFound_failed (fun _ _ => ok_of_remove) failed).imp_right ?_
          rintro ⟨document, edited, read, ran, unreadable⟩
          exact ⟨.remove key _, document, edited, by rw [removal?, known], read, ran, unreadable,
            fun placed => unreadable.not_readsBack placed⟩

/-- A file with a key so long that it is read, but not as it is written: each of its characters
takes ten when it is written. -/
def longKeyFile : Tree :=
  Settings.lonelyFile (Utf8.encode
    (List.replicate 103 (Char.ofNat 0x1F600) ++ ": 1\nb: 2\n".toList))

/-- The removal of a key. -/
def removalOf (key : Text) (tree : Tree) : Completion :=
  lonelyEditor.applyNamed tree "delete".toList key { root := .null } { root := .null }

/-- The removal of a missing key leaves the files alone.  The removal of the other key from the
file with a long one is refused as well, but only after it has been written, and what has been
written does not read back. -/
theorem tree_of_failed_removals :
    (removalOf ['a'] bareFolder).tree = bareFolder ∧
    (removalOf ['b'] longKeyFile).tree.readBytes lonelyEditor.file ≠
      longKeyFile.readBytes lonelyEditor.file ∧
    ∃ document edited, lonelyEditor.read longKeyFile = .ok document ∧
      Edit.Change.run document (.delete ['b']) = .ok (some edited) ∧
      lonelyEditor.Unreadable longKeyFile edited (removalOf ['b'] longKeyFile) ∧
      ¬ Settings.ReadsBack edited := by
  constructor
  · have failed : (removalOf ['a'] bareFolder).Fails ['a'] := .notFound (by decide)
    rcases tree_of_failed rfl failed with same | ⟨change, document, edited, removal, read, ran, -⟩
    · exact same
    · cases removal
      have empty : lonelyEditor.read bareFolder = .ok Document.emptyMapping := by decide
      rw [empty] at read
      cases read
      cases ran
  · have failed : (removalOf ['b'] longKeyFile).Fails ['b'] :=
      .refused (by decide +kernel :
        (removalOf ['b'] longKeyFile).result = .error (.refused (.malformed Settings.fileName)))
    have changed : (removalOf ['b'] longKeyFile).tree.readBytes lonelyEditor.file ≠
        longKeyFile.readBytes lonelyEditor.file := by decide +kernel
    refine ⟨changed, ?_⟩
    rcases tree_of_failed rfl failed with
      same | ⟨change, document, edited, removal, read, ran, unreadable, lost⟩
    · exact absurd (congrArg (Tree.readBytes · lonelyEditor.file) same) changed
    · cases removal
      exact ⟨document, edited, read, ran, unreadable, lost lonelyEditor_placed⟩

/-- The removal of the other key is refused after it has changed the file. -/
theorem trace_of_long_key :
    (lonelyEditor.applyNamed longKeyFile "delete".toList ['b'] { root := .null }
      { root := .null }).result = .error (.refused (.malformed Settings.fileName)) ∧
    (lonelyEditor.applyNamed longKeyFile "delete".toList ['b'] { root := .null }
      { root := .null }).tree.readBytes lonelyEditor.file ≠
        longKeyFile.readBytes lonelyEditor.file := by
  decide +kernel

end Editor
end Codemap
