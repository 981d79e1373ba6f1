import Codemap.Proofs.Files.Edit

namespace Codemap

/-!
# Storing a file

A file is stored by making the directories above it and writing it.  Afterwards it is there
with what has been written, and it can be written again, whatever is to be written.  Neither
step touches another file, so a file that is there survives the storing of any other.
-/

namespace Tree

variable {tree ready after : Tree} {path file other : Path} {names : List Text}
  {content : Bytes} {changed : Int}

/-! ## Making directories -/

/-- A directory that is there is not made again. -/
theorem prepareDirectory_of_directory (plain : Plain path) {children : List (Text × Entry)}
    (there : tree.root.at? path.names = some (.directory children)) :
    (tree.prepareDirectory path).2 = tree := by
  rw [prepareDirectory, plain.absolute, normalize_plain plain]
  dsimp only
  split
  · rfl
  · dsimp only
    refine if_pos ?_
    generalize fits : (fun name => decide ((Utf8.encode name).length ≤ longestName)) = short
    have whole := List.takeWhile_append_dropWhile (p := short) (l := path.names)
    cases rest : path.names.dropWhile short with
    | nil =>
        rw [rest, List.append_nil] at whole
        rw [whole, there]
        rfl
    | cons name more =>
        rw [← whole] at there
        obtain ⟨others, directory⟩ :=
          Entry.directory_above there (rest ▸ List.cons_ne_nil name more)
        rw [directory]
        rfl

/-- Making directories touches no file. -/
theorem file_of_prepareDirectory (plain : Plain path) (legible : path.Legible) (below : names ≠ [])
    (there : tree.root.at? names = some (.file content changed)) :
    (tree.prepareDirectory path).2.root.at? names = some (.file content changed) := by
  by_cases lacks : tree.Lacks path.names
  · have top : ∃ children, tree.root.at? [] = some (.directory children) :=
      Entry.directory_above there below
    obtain ⟨children, top⟩ := top
    have nonempty : path.names ≠ [] := by
      intro root
      rw [root] at lacks
      exact lacks children top
    have prepared := prepareDirectory_lacking plain legible nonempty lacks
    by_cases above : names <+: path.names
    · have isDirectory : tree.root.isDirectory = true := by
        rw [Option.some.inj top]
        rfl
      -- Where a file stands nothing can grow.
      have grows := prepared.above isDirectory names above
      rw [there] at grows
      generalize (tree.prepareDirectory path).2.root.at? names = result at grows ⊢
      cases grows with
      | alike alike =>
          cases alike
          rfl
    · rw [prepared.apart names above, there]
  · obtain ⟨children, directory⟩ := not_forall_not.mp lacks
    rw [prepareDirectory_of_directory plain directory, there]

theorem makeDirectories_of_directory (plain : Plain path) {children : List (Text × Entry)}
    (named : ∀ name ∈ path.names, isName name = true)
    (there : tree.root.at? path.names = some (.directory children)) :
    tree.makeDirectories path = .ok tree := by
  have same := prepareDirectory_of_directory plain there
  have fits : ∀ name ∈ path.names, (Utf8.encode name).length ≤ longestName :=
    fun name member => (isName_iff.mp (named name member)).2.2
  have entered : prepareDirectory.enter tree [] path.names = .ok () := by
    rcases List.eq_nil_or_concat path.names with none | ⟨above, name, split⟩
    · rw [none]
      rfl
    · rw [List.concat_eq_append] at split
      rw [split] at there fits ⊢
      obtain ⟨others, directory⟩ := Entry.directory_above there (List.cons_ne_nil name [])
      rw [enter_concat directory fits, List.reverse_nil, List.nil_append, there]
  have succeeded : (tree.prepareDirectory path).1 = .ok () := by
    rw [prepareDirectory, plain.absolute, normalize_plain plain, entered]
    exact if_pos (List.all_eq_true.mpr fun name member => decide_eq_true (fits name member))
  rw [makeDirectories]
  generalize tree.prepareDirectory path = prepared at same succeeded
  obtain ⟨result, made⟩ := prepared
  cases succeeded
  rw [← same]

theorem current_of_prepareDirectory (tree : Tree) (path : Path) :
    (tree.prepareDirectory path).2.current = tree.current := by
  rw [prepareDirectory]
  dsimp only
  split
  · rfl
  · dsimp only
    split <;> rfl

theorem prepared_of_makeDirectories (made : tree.makeDirectories path = .ok ready) :
    tree.prepareDirectory path = (.ok (), ready) := by
  rw [makeDirectories] at made
  split at made
  · next same =>
      cases made
      exact same
  · cases made

theorem current_of_makeDirectories (made : tree.makeDirectories path = .ok ready) :
    ready.current = tree.current := by
  have same : (tree.prepareDirectory path).2 = ready :=
    congrArg Prod.snd (prepared_of_makeDirectories made)
  rw [← same, current_of_prepareDirectory]

theorem file_of_makeDirectories (plain : Plain path) (legible : path.Legible) (below : names ≠ [])
    (there : tree.root.at? names = some (.file content changed))
    (made : tree.makeDirectories path = .ok ready) :
    ready.root.at? names = some (.file content changed) := by
  have same : (tree.prepareDirectory path).2 = ready :=
    congrArg Prod.snd (prepared_of_makeDirectories made)
  rw [← same]
  exact file_of_prepareDirectory plain legible below there

/-! ## Files -/

section Stored

variable (plain : Plain file) (legible : file.Legible)

include plain legible

/-- The directories above a file that is there are not made again. -/
theorem makeDirectories_of_stored (below : file.names ≠ [])
    (stored : tree.entry file = .ok (.file content changed)) :
    tree.makeDirectories file.parent = .ok tree := by
  have there := at?_of_entry plain stored
  have named := named_of_entry plain legible stored
  rw [← Path.dropLast_concat_name below] at there
  obtain ⟨_, directory⟩ := Entry.directory_above there (List.cons_ne_nil file.name [])
  exact makeDirectories_of_directory plain.parent
    (fun name member => named name (List.dropLast_subset _ member)) directory

/-- A file that has been written is there. -/
theorem stored_of_writeBytes (below : file.names ≠ [])
    (written : tree.writeBytes file content = .ok after) :
    after.entry file = .ok (.file content tree.clock) ∧ after.current = tree.current := by
  have edited : tree.Edited after file.names fun _ => some (.file content tree.clock) :=
    FileChange.edited_of_writeBytes plain legible below written
  exact ⟨entry_of_at? plain.rooted edited.named edited.at?_self, edited.current⟩

/-- A file that is there can be written. -/
theorem writeBytes_of_stored (below : file.names ≠ [])
    (stored : tree.entry file = .ok (.file content changed)) (other : Bytes) :
    ∃ after, tree.writeBytes file other = .ok after := by
  have there := at?_of_entry plain stored
  have named := named_of_entry plain legible stored
  rw [← Path.dropLast_concat_name below] at there
  obtain ⟨children, directory⟩ := Entry.directory_above there (List.cons_ne_nil file.name [])
  have walked : tree.walkNames [] file.parent.names = .ok (file.parent.names.reverse ++ []) :=
    walkNames_of_at? (fun name member => named name (List.dropLast_subset _ member)) directory
  have located : tree.locate file.parent = .ok file.names.dropLast := by
    rw [plain.parent.locate, walked]
    rfl
  have last : file.name ∈ file.names := by
    rw [← Path.dropLast_concat_name below]
    exact List.mem_append_right _ List.mem_cons_self
  have short : (Utf8.encode file.name).length ≤ longestName :=
    (isName_iff.mp (named _ last)).2.2
  have file : Entry.look? children file.name = some (.file content changed) := by
    rw [Entry.at?_concat, directory] at there
    exact there
  rw [writeBytes, plain.absolute]
  simp only [located, directory, if_neg (Nat.not_lt.mpr short), file]
  exact ⟨_, rfl⟩

/-- A file apart from the hidden ones is written alike in twins. -/
theorem Twin.write {left right : Tree} {place : List Text} {hidden : Text → Bool}
    (twin : Twin place hidden left right) (clear : Clear place hidden file.names)
    (below : file.names ≠ []) (stored : left.entry file = .ok (.file content changed))
    (other : Bytes) (time : Int) :
    Twin place hidden ((FileChange.write other time).run left file)
      ((FileChange.write other time).run right file) := by
  have named := named_of_entry plain legible stored
  have here := at?_of_entry plain stored
  have there : right.root.at? file.names = some (.file content changed) :=
    (twin.at?_eq clear).symm.trans here
  obtain ⟨leftAfter, leftWritten⟩ := writeBytes_of_stored plain legible below
    (entry_of_at? plain.rooted named here : Tree.entry { left with clock := time } file = _) other
  obtain ⟨rightAfter, rightWritten⟩ := writeBytes_of_stored plain legible below
    (entry_of_at? plain.rooted named there : Tree.entry { right with clock := time } file = _) other
  simp only [FileChange.run, leftWritten, rightWritten]
  exact twin.edited clear (FileChange.edited_of_writeBytes plain legible below leftWritten)
    (FileChange.edited_of_writeBytes plain legible below rightWritten)

/-- Writing a file touches no other file. -/
theorem file_of_writeBytes (below : file.names ≠ [])
    (there : tree.root.at? names = some (.file content changed)) (apart : names ≠ file.names)
    {other : Bytes} (written : tree.writeBytes file other = .ok after) :
    after.root.at? names = some (.file content changed) := by
  have edited : tree.Edited after file.names fun _ => some (.file other tree.clock) :=
    FileChange.edited_of_writeBytes plain legible below written
  -- Above a file that can be written there are directories only.
  have notAbove : ¬ names <+: file.names := by
    intro above
    obtain ⟨⟨children, directory⟩, -⟩ := edited.above above apart
    rw [there] at directory
    cases directory
  rw [edited.at?_apart notAbove, there]

end Stored

/-- Whether a file can be written does not depend on what is to be written. -/
theorem writeBytes_error_iff {why : StorageFault} (other : Bytes) :
    tree.writeBytes file content = .error why ↔ tree.writeBytes file other = .error why := by
  rw [writeBytes, writeBytes]
  dsimp only
  split
  · rfl
  · split
    · split
      · rfl
      · split
        · rfl
        · simp only [reduceCtorEq]
    · rfl
    · rfl

end Tree
end Codemap
