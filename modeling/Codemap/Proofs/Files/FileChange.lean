import Codemap.Proofs.Files.Directory

namespace Codemap

/-!
# Files that others change

Beside a program that works in one directory others write, touch and delete files.
As long as these files lie outside the directory, it stays where it is and shows what
it showed.
-/

/-- What may happen to a file. -/
inductive FileChange where
  /-- The file is written and gets a time of change. -/
  | write (content : Bytes) (changed : Int)
  /-- The file gets a time of change. -/
  | touch (changed : Int)
  /-- The file is deleted. -/
  | delete
deriving DecidableEq, Repr, Inhabited

namespace FileChange

/-- Carry out what happens to a file; what the file system refuses does not happen.
Only files are touched and deleted. -/
def run (tree : Tree) (file : Path) : FileChange → Tree
  | .write content changed =>
      ({ tree with clock := changed }.writeBytes file content).toOption.getD tree
  | .touch changed =>
      if tree.isFile file then (tree.touch file changed).toOption.getD tree else tree
  | .delete => if tree.isFile file then (tree.remove file).toOption.getD tree else tree

end FileChange

namespace Tree

variable {tree after : Tree} {path file : Path} {place : List Text} {view : Text → Option Entry}

/-- The directory that a file is in lies neither at a place nor below it. -/
def Outside (tree : Tree) (place : List Text) (file : Path) : Prop :=
  ¬ place <+: (tree.absolute file).parent.normalize.names

instance (tree : Tree) (place : List Text) (file : Path) : Decidable (tree.Outside place file) :=
  inferInstanceAs (Decidable (¬ _))

/-! ## Where files are -/

theorem absolute_isAbsolute (rooted : tree.current.isAbsolute = true) (path : Path) :
    (tree.absolute path).isAbsolute = true := by
  rw [absolute, Path.join]
  split
  · assumption
  · exact rooted

theorem absolute_absolute (rooted : tree.current.isAbsolute = true) (path : Path) :
    tree.absolute (tree.absolute path).parent = (tree.absolute path).parent := by
  have root : (tree.absolute path).parent.isAbsolute = true := absolute_isAbsolute rooted path
  rw [absolute, Path.join, if_pos root]

/-- The directory of a file, if it is found, is where its normal form says. -/
theorem locate_parent_eq (rooted : tree.current.isAbsolute = true) {names : List Text}
    (located : tree.locate (tree.absolute file).parent = .ok names) :
    (tree.absolute file).parent.normalize.names = names := by
  have root : (tree.absolute file).parent.isAbsolute = true := absolute_isAbsolute rooted file
  rw [locate_absolute, absolute_absolute rooted] at located
  cases walked : tree.walkNames [] (tree.absolute file).parent.names with
  | error why => simp [walked, Except.map] at located
  | ok reached =>
      rw [walked] at located
      cases located
      rw [Path.normalize, root]
      exact normalizeNames_of_walkNames walked (by simp)

/-- A file outside a place is not found at the place or below it. -/
theorem Outside.not_prefix (outside : tree.Outside place file)
    (rooted : tree.current.isAbsolute = true) {names : List Text} {children : List (Text × Entry)}
    (directory : tree.root.at? place = some (.directory children))
    (located : tree.locate file = .ok names)
    (noDirectory : ∀ below, tree.root.at? names ≠ some (.directory below)) :
    ¬ place <+: names := by
  intro inside
  have root : (tree.absolute file).parent.isAbsolute = true := absolute_isAbsolute rooted file
  rw [locate_absolute] at located
  rcases List.eq_nil_or_concat (tree.absolute file).names with none | ⟨above, name, split⟩
  · rw [none] at located
    cases located
    rw [List.prefix_nil.mp inside] at directory
    exact noDirectory children directory
  · have parent : (tree.absolute file).parent.names = above := by
      simp [Path.parent, split]
    rw [split, List.concat_eq_append, walkNames_append] at located
    cases walked : tree.walkNames [] above with
    | error why => simp [walked, Except.map, Except.bind] at located
    | ok reached =>
        have normal : (tree.absolute file).parent.normalize.names = reached.reverse := by
          rw [Path.normalize, root, parent]
          exact normalizeNames_of_walkNames walked (by simp)
        rw [Outside, normal] at outside
        simp only [walked, Except.bind, walkNames] at located
        split at located
        · cases located
        · cases located
        · split at located
          · cases located
            exact outside (inside.trans (List.reverse_prefix.mpr (List.tail_suffix reached)))
          · split at located
            · cases located
            · split at located
              · cases located
                rw [List.reverse_cons] at inside
                rcases List.prefix_concat_iff.mp inside with same | above
                · rw [same] at directory
                  exact noDirectory children (by simpa using directory)
                · exact outside above
              · cases located

/-! ## What stays -/

/-- A change of a file outside a directory leaves the directory as it is. -/
theorem Holds.alterAt_outside (holds : tree.Holds path place view)
    (change : Option Entry → Option Entry) {names : List Text}
    (noDirectory : ∀ below, tree.root.at? names ≠ some (.directory below))
    (outside : ¬ place <+: names) : (tree.alterAt change names).Holds path place view := by
  have notAbove : ¬ names <+: place := fun above => by
    obtain ⟨children, directory⟩ := holds.above above
    exact noDirectory children directory
  have below : names ≠ [] := by
    rintro rfl
    exact notAbove List.nil_prefix
  obtain ⟨children, found, rfl⟩ := holds.found
  apply holds.of_keeps (keeps_alterAt change below noDirectory)
  rw [alterAt_at? tree below, Entry.peek_alter_apart change notAbove outside]
  exact found

theorem Holds.atTime (holds : tree.Holds path place view) (time : Int) :
    Holds { tree with clock := time } path place view :=
  (holds.revised.atTime time).holds

/-- What a write that succeeds has done. -/
structure Written (tree after : Tree) (file : Path) (content : Bytes) (names : List Text) : Prop where
  located : tree.locate (tree.absolute file).parent = .ok names
  directory : ∃ children, tree.root.at? names = some (.directory children)
  short : (Utf8.encode (tree.absolute file).name).length ≤ longestName
  lacks : ∀ below, tree.root.at? (names ++ [(tree.absolute file).name]) ≠ some (.directory below)
  changed : after = { tree.alterAt (fun _ => some (.file content tree.clock))
    (names ++ [(tree.absolute file).name]) with clock := tree.clock + 1 }

theorem writeBytes_ok {content : Bytes} (written : tree.writeBytes file content = .ok after) :
    ∃ names, Written tree after file content names := by
  rw [writeBytes] at written
  dsimp only at written
  split at written
  · cases written
  · next names located =>
      split at written
      · next children found =>
          split at written
          · cases written
          · next fits =>
              split at written
              · cases written
              · next noDirectory =>
                  refine ⟨names, located, ⟨children, found⟩, Nat.le_of_not_lt fits, fun below => ?_,
                    (Except.ok.inj written).symm⟩
                  rw [Entry.at?_concat, found]
                  exact noDirectory below
      · cases written
      · cases written

/-- A file outside a directory is written without a change to the directory. -/
theorem Holds.writeBytes_outside (holds : tree.Holds path place view)
    (rooted : tree.current.isAbsolute = true) (outside : tree.Outside place file) {content : Bytes}
    (written : tree.writeBytes file content = .ok after) :
    after.Holds path place view ∧ after.current = tree.current := by
  obtain ⟨names, located, _, _, noDirectory, rfl⟩ := writeBytes_ok written
  have beside : ¬ place <+: names ++ [(tree.absolute file).name] := by
    intro inside
    rcases List.prefix_concat_iff.mp inside with same | above
    · obtain ⟨children, directory, _⟩ := holds.found
      rw [same] at directory
      exact noDirectory children directory
    · rw [Outside, locate_parent_eq rooted located] at outside
      exact outside above
  exact ⟨(holds.alterAt_outside _ noDirectory beside).atTime _, rfl⟩

/-- The place of what is known to be a file. -/
theorem locate_of_isFile (isFile : tree.isFile file = true) :
    ∃ names, tree.locate file = .ok names ∧
      ∀ below, tree.root.at? names ≠ some (.directory below) := by
  rw [Tree.isFile] at isFile
  split at isFile
  · next entry found =>
      rw [Tree.entry] at found
      split at found
      · next names located =>
          split at found
          · next there =>
              cases found
              refine ⟨names, located, fun below directory => ?_⟩
              rw [there] at directory
              cases directory
              cases isFile
          · cases found
      · cases found
  · cases isFile

/-- A change of a file outside a directory leaves the directory as it is. -/
theorem Holds.fileChange (holds : tree.Holds path place view) (rooted : tree.current.isAbsolute = true)
    (outside : tree.Outside place file) (change : FileChange) :
    (change.run tree file).Holds path place view ∧ (change.run tree file).current = tree.current := by
  obtain ⟨children, found, _⟩ := holds.found
  have alone (change : Option Entry → Option Entry) {names : List Text}
      (located : tree.locate file = .ok names)
      (noDirectory : ∀ below, tree.root.at? names ≠ some (.directory below)) :
      (tree.alterAt change names).Holds path place view :=
    holds.alterAt_outside change noDirectory
      (outside.not_prefix rooted found located noDirectory)
  cases change with
  | write content changed =>
      rw [FileChange.run]
      cases written : Tree.writeBytes { tree with clock := changed } file content with
      | error why => exact ⟨holds, rfl⟩
      | ok after => exact (holds.atTime changed).writeBytes_outside rooted outside written
  | touch changed =>
      rw [FileChange.run]
      split
      · next isFile =>
          obtain ⟨names, located, noDirectory⟩ := locate_of_isFile isFile
          rw [touch, located]
          exact ⟨alone _ located noDirectory, rfl⟩
      · exact ⟨holds, rfl⟩
  | delete =>
      rw [FileChange.run]
      split
      · next isFile =>
          obtain ⟨names, located, noDirectory⟩ := locate_of_isFile isFile
          rw [remove, located]
          exact ⟨alone _ located noDirectory, rfl⟩
      · exact ⟨holds, rfl⟩

end Tree
end Codemap
