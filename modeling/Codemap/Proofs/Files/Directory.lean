import Codemap.Proofs.Files.Change
import Codemap.Proofs.Text.Utf8
import Mathlib.Data.List.TakeWhile
import Mathlib.Logic.Function.Basic

namespace Codemap
namespace Tree

/-!
# Working in one directory

A directory that a path leads to has a place, and shows an entry or none under each
name.  The operations on a file named directly in it depend on what it shows only, and
change nothing but that.
-/

variable {tree before after : Tree} {path : Path} {place : List Text} {view : Text → Option Entry}

/-- A path, seen from a directory that has a root, leads to a directory, which shows an
entry or none under each name. -/
structure Holds (tree : Tree) (path : Path) (place : List Text) (view : Text → Option Entry) :
    Prop where
  rooted : (tree.absolute path).isAbsolute = true
  located : tree.locate path = .ok place
  found : ∃ children, tree.root.at? place = some (.directory children) ∧
    Entry.look? children = view

/-! ## Paths into the directory -/

@[simp] theorem absolute_child (tree : Tree) (path : Path) (name : Text) :
    tree.absolute (path.child name) = (tree.absolute path).child name := by
  cases path with
  | mk root names => cases root <;> simp [absolute, Path.join, Path.child, Path.isAbsolute]

@[simp] theorem parent_child (path : Path) (name : Text) : (path.child name).parent = path := by
  simp [Path.parent, Path.child]

@[simp] theorem name_child (path : Path) (name : Text) : (path.child name).name = name := by
  simp [Path.name, Path.child]

theorem locate_absolute (tree : Tree) (path : Path) :
    tree.locate path = (tree.walkNames [] (tree.absolute path).names).map List.reverse := rfl

theorem Holds.walked (holds : tree.Holds path place view) :
    tree.walkNames [] (tree.absolute path).names = .ok place.reverse := by
  have located := holds.located
  rw [locate_absolute] at located
  cases walked : tree.walkNames [] (tree.absolute path).names with
  | error why => simp [walked, Except.map] at located
  | ok reached =>
      rw [walked] at located
      cases located
      rw [List.reverse_reverse]

/-- The parent of a file in the directory is the directory. -/
theorem Holds.locate_parent (holds : tree.Holds path place view) (name : Text) :
    tree.locate (tree.absolute (path.child name)).parent = .ok place := by
  have fixed : tree.absolute (tree.absolute path) = tree.absolute path := by
    rw [absolute, Path.join, if_pos holds.rooted]
  rw [absolute_child, parent_child, locate_absolute, fixed, ← locate_absolute, holds.located]

/-- A path to a child is found if the child is there. -/
theorem Holds.locate_child (holds : tree.Holds path place view) {name : Text}
    (ordinary : name ≠ upward) :
    tree.locate (path.child name) =
      if longestName < (Utf8.encode name).length then .error .nameTooLong
      else if (view name).isSome then .ok (place ++ [name])
      else .error .missing := by
  obtain ⟨children, found, rfl⟩ := holds.found
  have names : (tree.absolute (path.child name)).names = (tree.absolute path).names ++ [name] := by
    rw [absolute_child]
    rfl
  rw [locate_absolute, names, walkNames_append, holds.walked]
  simp only [Except.bind, walkNames, List.reverse_reverse, found, if_neg ordinary]
  by_cases tooLong : longestName < (Utf8.encode name).length
  · simp [tooLong, Except.map]
  · simp only [tooLong, if_false]
    cases Entry.look? children name with
    | none => rfl
    | some child => simp [Except.map]

theorem Holds.entry_child (holds : tree.Holds path place view) {name : Text}
    (ordinary : name ≠ upward) :
    tree.entry (path.child name) =
      if longestName < (Utf8.encode name).length then .error .nameTooLong
      else match view name with
        | some child => .ok child
        | none => .error .missing := by
  obtain ⟨children, found, rfl⟩ := holds.found
  rw [entry, holds.locate_child ordinary]
  by_cases tooLong : longestName < (Utf8.encode name).length
  · simp [tooLong]
  · simp only [tooLong, if_false]
    cases shown : Entry.look? children name with
    | none => rfl
    | some child =>
        have there : tree.root.at? (place ++ [name]) = some child := by
          rw [Entry.at?_concat, found]
          exact shown
        simp [there]

/-- The directory is still found in a tree that keeps all directories. -/
theorem Holds.of_keeps (holds : before.Holds path place view) (keeps : before.Keeps after)
    {others : List (Text × Entry)} (found : after.root.at? place = some (.directory others)) :
    after.Holds path place (Entry.look? others) := by
  obtain ⟨children, there, _⟩ := holds.found
  have same : after.absolute path = before.absolute path := by
    rw [absolute, absolute, keeps.current]
  refine ⟨by rw [same, holds.rooted], ?_, others, found, rfl⟩
  have ends : before.root.at? place.reverse.reverse = some (.directory children) := by
    rw [List.reverse_reverse, there]
  rw [locate_absolute, same, walkNames_of_keeps keeps holds.walked ends]
  simp [Except.map]

/-- The place of the directory is its normal form. -/
theorem Holds.normalize (holds : tree.Holds path place view) :
    (tree.absolute path).normalize.names = place := by
  have normal := normalizeNames_of_walkNames holds.walked (by simp)
  rw [List.reverse_reverse] at normal
  rw [Path.normalize, holds.rooted]
  exact normal

/-! ## Making the directory -/

private theorem enter_ok {first rest : List Text} {children : List (Text × Entry)}
    (found : tree.root.at? (first.reverse ++ rest) =
      some (.directory children))
    (short : ∀ name ∈ rest, (Utf8.encode name).length ≤ longestName) :
    prepareDirectory.enter tree first rest = .ok () := by
  induction rest generalizing first with
  | nil => rfl
  | cons name rest inductionHypothesis =>
      have fits := short name List.mem_cons_self
      have further : tree.root.at? ((name :: first).reverse ++ rest) = some (.directory children) := by
        simpa using found
      have directory : ∃ others, tree.root.at? (name :: first).reverse = some (.directory others) := by
        cases rest with
        | nil => exact ⟨children, by simpa using further⟩
        | cons next more => exact Entry.directory_above further (List.cons_ne_nil next more)
      obtain ⟨others, reached⟩ := directory
      rw [prepareDirectory.enter, if_neg (by omega), reached]
      exact inductionHypothesis further fun other member =>
        short other (List.mem_cons_of_mem name member)

/-- Making a directory that is there changes nothing. -/
theorem Holds.prepareDirectory (holds : tree.Holds path place view) :
    tree.prepareDirectory path = (.ok (), tree) := by
  obtain ⟨children, found, _⟩ := holds.found
  have short : ∀ name ∈ place, (Utf8.encode name).length ≤ longestName := fun name member =>
    short_of_walkNames holds.walked (by simp) name (List.mem_reverse.mpr member)
  have entered : prepareDirectory.enter tree [] place = .ok () :=
    enter_ok (by simpa using found) short
  have fits : ∀ name ∈ place, decide ((Utf8.encode name).length ≤ longestName) = true :=
    fun name member => decide_eq_true (short name member)
  have whole : place.takeWhile (fun name => decide ((Utf8.encode name).length ≤ longestName)) =
      place := List.takeWhile_eq_self_iff.mpr fits
  rw [Tree.prepareDirectory, holds.normalize]
  simp only [entered, whole, found, Option.isSome_some, if_true, List.all_eq_true.mpr fits]

/-! ## Changing what the directory shows -/

/-- Two trees differ in what one directory shows at most: beside it they are the same, and
above it they have directories. -/
structure SameBeside (before after : Tree) (place : List Text) : Prop where
  current : after.current = before.current
  beside : ∀ names, ¬ names <+: place → ¬ place <+: names →
    after.root.at? names = before.root.at? names
  above : ∀ names, names <+: place → ∃ children, after.root.at? names = some (.directory children)

theorem SameBeside.trans {first second third : Tree} (early : first.SameBeside second place)
    (late : second.SameBeside third place) : first.SameBeside third place where
  current := late.current.trans early.current
  beside := fun names notAbove notBelow =>
    (late.beside names notAbove notBelow).trans (early.beside names notAbove notBelow)
  above := late.above

/-- A directory after a change: what it shows, and that nothing beside it has changed. -/
structure Revised (before after : Tree) (path : Path) (place : List Text)
    (view : Text → Option Entry) : Prop where
  holds : after.Holds path place view
  same : before.SameBeside after place

theorem Revised.trans {first second third : Tree} {other : Text → Option Entry}
    (early : first.Revised second path place other) (late : second.Revised third path place view) :
    first.Revised third path place view :=
  ⟨late.holds, early.same.trans late.same⟩

/-- What stands above a directory that is found. -/
theorem Holds.above (holds : tree.Holds path place view) {names : List Text}
    (above : names <+: place) : ∃ children, tree.root.at? names = some (.directory children) := by
  obtain ⟨children, found, _⟩ := holds.found
  obtain ⟨rest, rfl⟩ := above
  cases rest with
  | nil => exact ⟨children, by simpa using found⟩
  | cons name more => exact Entry.directory_above found (List.cons_ne_nil name more)

theorem Holds.revised (holds : tree.Holds path place view) : tree.Revised tree path place view :=
  ⟨holds, rfl, fun _ _ _ => rfl, fun _ => holds.above⟩

/-- A change under a name that is no directory changes what is shown there. -/
theorem Holds.alterAt_child (holds : tree.Holds path place view) (name : Text)
    (change : Option Entry → Option Entry)
    (noDirectory : ∀ below, view name ≠ some (.directory below)) :
    tree.Revised (tree.alterAt change (place ++ [name])) path place
      (Function.update view name (change (view name))) := by
  obtain ⟨children, found, rfl⟩ := holds.found
  have below : place ++ [name] ≠ [] := by simp
  have shown (other : Text) :
      tree.root.at? (place ++ [other]) = Entry.look? children other := by
    rw [Entry.at?_concat, found]
    rfl
  have keeps : tree.Keeps (tree.alterAt change (place ++ [name])) :=
    keeps_alterAt change below fun below => by
      rw [shown]
      exact noDirectory below
  obtain ⟨others, stays⟩ := keeps.directory place children found
  have view : Entry.look? others =
      Function.update (Entry.look? children) name (change (Entry.look? children name)) := by
    funext other
    have there : Entry.look? others other =
        (tree.alterAt change (place ++ [name])).root.at? (place ++ [other]) := by
      rw [Entry.at?_concat, stays]
      rfl
    rw [there, alterAt_at? tree below]
    by_cases same : other = name
    · subst same
      have here := Entry.peek_alter_below change (place ++ [other]) [] (some tree.root)
      rw [List.append_nil, Entry.peek_nil, Entry.peek_some, shown] at here
      rw [here, Function.update_self]
    · have apart : ¬ place ++ [name] <+: place ++ [other] := by
        rw [List.prefix_append_right_inj]
        simpa using Ne.symm same
      have apart' : ¬ place ++ [other] <+: place ++ [name] := by
        rw [List.prefix_append_right_inj]
        simpa using same
      rw [Entry.peek_alter_apart change apart apart', Function.update_of_ne same, ← shown]
      rfl
  refine ⟨view ▸ holds.of_keeps keeps stays, rfl, fun names notAbove notBelow => ?_,
    fun names above => ?_⟩
  · rw [alterAt_at? tree below, Entry.peek_alter_apart]
    · rfl
    · exact fun inside => notBelow ((List.prefix_append place [name]).trans inside)
    · intro inside
      rcases List.prefix_concat_iff.mp inside with same | above
      · exact notBelow (same ▸ List.prefix_append place [name])
      · exact notAbove above
  · obtain ⟨upper, directory⟩ := holds.above above
    exact keeps.directory names upper directory

/-- Another directory is put in its place, in which the directories below it stand as before. -/
theorem Holds.place_directory (holds : tree.Holds path place view) {others : List (Text × Entry)}
    (stay : ∀ name below, view name = some (.directory below) →
      Entry.look? others name = some (.directory below)) :
    tree.Revised (tree.place place (.directory others)) path place (Entry.look? others) := by
  obtain ⟨children, found, rfl⟩ := holds.found
  have here : (tree.place place (.directory others)).root.at? place = some (.directory others) := by
    simpa [Entry.at?] using at?_place_below tree place (.directory others) []
  have keeps : tree.Keeps (tree.place place (.directory others)) := by
    refine ⟨rfl, fun names more directory => ?_⟩
    by_cases inside : place <+: names
    · obtain ⟨rest, rfl⟩ := inside
      cases rest with
      | nil => exact at?_place_above tree others (by simp)
      | cons name rest =>
          rw [Entry.at?_inside found] at directory
          obtain ⟨child, shown, ends⟩ := Option.bind_eq_some_iff.mp directory
          cases child with
          | file content changed => cases rest <;> cases ends
          | directory below =>
              rw [Entry.at?_inside here, stay name below shown]
              exact ⟨more, ends⟩
    · by_cases above : names <+: place
      · exact at?_place_above tree others above
      · exact ⟨more, by rw [at?_place_beside tree _ above inside, directory]⟩
  exact ⟨holds.of_keeps keeps here, rfl, fun _ => at?_place_beside tree _,
    fun _ => at?_place_above tree others⟩

/-- Only the time of the clock changes. -/
theorem Revised.atTime (revised : before.Revised after path place view) (time : Int) :
    before.Revised { after with clock := time } path place view := by
  obtain ⟨children, found, rfl⟩ := revised.holds.found
  have keeps : after.Keeps { after with clock := time } :=
    ⟨rfl, fun _ children found => ⟨children, found⟩⟩
  exact ⟨revised.holds.of_keeps keeps found, revised.same.current, revised.same.beside,
    revised.same.above⟩

/-! ## Files of the directory -/

/-- A name under which a file can be written. -/
structure Writable (view : Text → Option Entry) (name : Text) : Prop where
  ordinary : name ≠ upward
  short : (Utf8.encode name).length ≤ longestName
  noDirectory : ∀ below, view name ≠ some (.directory below)

/-- Writing a file shows its content and the time of the clock. -/
theorem Holds.writeBytes_child (holds : tree.Holds path place view) {name : Text}
    (writable : Writable view name) (content : Bytes) :
    ∃ after, tree.writeBytes (path.child name) content = .ok after ∧
      tree.Revised after path place (Function.update view name (some (.file content tree.clock))) := by
  have revised := holds.alterAt_child _ (fun _ => some (.file content tree.clock))
    writable.noDirectory
  refine ⟨_, ?_, revised.atTime (tree.clock + 1)⟩
  obtain ⟨children, found, rfl⟩ := holds.found
  have fits : ¬ longestName < (Utf8.encode name).length := Nat.not_lt.mpr writable.short
  rw [writeBytes]
  simp only [holds.locate_parent, found]
  simp only [absolute_child, name_child, if_neg fits]
  split
  · next below shown => exact absurd shown (writable.noDirectory below)
  · rfl

theorem Holds.writeBytes_child_tooLong (holds : tree.Holds path place view) {name : Text}
    (tooLong : longestName < (Utf8.encode name).length) (content : Bytes) :
    tree.writeBytes (path.child name) content = .error .nameTooLong := by
  obtain ⟨children, found, rfl⟩ := holds.found
  rw [writeBytes]
  simp only [holds.locate_parent, found]
  simp only [absolute_child, name_child, if_pos tooLong]

/-- A text that was written is read back, with every line ending a line feed. -/
theorem Holds.readText_child (holds : tree.Holds path place view) {name text : Text} {changed : Int}
    (present : view name = some (.file (Utf8.encode text) changed)) (ordinary : name ≠ upward)
    (short : (Utf8.encode name).length ≤ longestName) :
    tree.readText (path.child name) = .ok text.unifyNewlines := by
  rw [readText, readBytes, holds.entry_child ordinary, if_neg (Nat.not_lt.mpr short), present]
  simp only [Utf8.decode_encode]

/-- What is not there cannot be read. -/
theorem Holds.readText_child_missing (holds : tree.Holds path place view) {name : Text}
    (absent : view name = none) (ordinary : name ≠ upward) :
    ∃ why, tree.readText (path.child name) = .error (.storage why) := by
  rw [readText, readBytes, holds.entry_child ordinary, absent]
  split
  · next why failed => exact ⟨why, rfl⟩
  · next bytes read =>
      split at read
      · next found =>
          split at found <;> cases found
      · cases read
      · cases read

/-- The place of a file that is shown, and what stands there. -/
theorem Holds.file_child (holds : tree.Holds path place view) {name : Text} {content : Bytes}
    {changed : Int} (present : view name = some (.file content changed)) (ordinary : name ≠ upward)
    (short : (Utf8.encode name).length ≤ longestName) :
    tree.locate (path.child name) = .ok (place ++ [name]) ∧
      tree.root.at? (place ++ [name]) = some (.file content changed) := by
  constructor
  · rw [holds.locate_child ordinary, if_neg (Nat.not_lt.mpr short), present]
    rfl
  · obtain ⟨children, found, rfl⟩ := holds.found
    rw [Entry.at?_concat, found]
    exact present

/-- Moving a file shows it under its new name and no longer under the old one. -/
theorem Holds.moveFile_child (holds : tree.Holds path place view) {source target : Text}
    {content : Bytes} {changed : Int} (present : view source = some (.file content changed))
    (ordinary : source ≠ upward) (short : (Utf8.encode source).length ≤ longestName)
    (writable : Writable view target) (apart : source ≠ target) :
    ∃ after, tree.moveFile (path.child source) (path.child target) = .ok after ∧
      tree.Revised after path place
        (Function.update (Function.update view target (some (.file content changed))) source none) := by
  have placed := holds.alterAt_child target (fun _ => some (.file content changed))
    writable.noDirectory
  have still : Function.update view target (some (Entry.file content changed)) source =
      some (.file content changed) := by
    rw [Function.update_of_ne apart, present]
  have removed := placed.holds.alterAt_child source (fun _ => none) fun below => by
    simp [still]
  refine ⟨_, ?_, placed.trans removed⟩
  obtain ⟨located, there⟩ := holds.file_child present ordinary short
  obtain ⟨children, found, rfl⟩ := holds.found
  have fits : ¬ longestName < (Utf8.encode target).length := Nat.not_lt.mpr writable.short
  rw [moveFile]
  simp only [located, holds.locate_parent, there, found]
  simp only [absolute_child, name_child, if_neg fits]
  split
  · next below shown => exact absurd shown (writable.noDirectory below)
  · rfl

theorem Holds.moveFile_child_tooLong (holds : tree.Holds path place view) {source target : Text}
    {content : Bytes} {changed : Int} (present : view source = some (.file content changed))
    (ordinary : source ≠ upward) (short : (Utf8.encode source).length ≤ longestName)
    (tooLong : longestName < (Utf8.encode target).length) :
    tree.moveFile (path.child source) (path.child target) = .error .nameTooLong := by
  obtain ⟨located, there⟩ := holds.file_child present ordinary short
  obtain ⟨children, found, rfl⟩ := holds.found
  rw [moveFile]
  simp only [located, holds.locate_parent, there, found]
  simp only [absolute_child, name_child, if_pos tooLong]

/-- A file does not take the place of a directory. -/
theorem Holds.moveFile_child_taken (holds : tree.Holds path place view) {source target : Text}
    {content : Bytes} {changed : Int} (present : view source = some (.file content changed))
    (ordinary : source ≠ upward) (short : (Utf8.encode source).length ≤ longestName)
    (fits : (Utf8.encode target).length ≤ longestName) {below : List (Text × Entry)}
    (taken : view target = some (.directory below)) :
    tree.moveFile (path.child source) (path.child target) = .error .isDirectory := by
  obtain ⟨located, there⟩ := holds.file_child present ordinary short
  obtain ⟨children, found, rfl⟩ := holds.found
  rw [moveFile]
  simp only [located, holds.locate_parent, there, found]
  simp only [absolute_child, name_child, if_neg (Nat.not_lt.mpr fits), taken]

/-- Removing a file shows nothing under its name. -/
theorem Holds.remove_child (holds : tree.Holds path place view) {name : Text} {content : Bytes}
    {changed : Int} (present : view name = some (.file content changed)) (ordinary : name ≠ upward)
    (short : (Utf8.encode name).length ≤ longestName) :
    ∃ after, tree.remove (path.child name) = .ok after ∧
      tree.Revised after path place (Function.update view name none) := by
  have removed := holds.alterAt_child name (fun _ => none) fun below => by
    simp [present]
  refine ⟨_, ?_, removed⟩
  rw [remove, holds.locate_child ordinary, if_neg (Nat.not_lt.mpr short), present]
  rfl

end Tree
end Codemap
