import Codemap.Proofs.Files.FileChange
import Codemap.Proofs.Files.Place
import Codemap.Proofs.Files.Walk

namespace Codemap

/-!
# Edits

An edit puts an entry into a directory or takes one out of it, and never a directory
that holds something.  Apart from the place of the entry and from what is above it,
nothing changes, and lawful entries stay lawful.  Writing, touching and deleting a file
are edits, and so is making a directory in one that is there.
-/

namespace Entry

/-! ## Changes of lawful entries -/

theorem mem_put {children : List (Text × Entry)} {name : Text} {entry : Entry} {other : Text} :
    other ∈ (put children name entry).map Prod.fst ↔
      other = name ∨ other ∈ children.map Prod.fst := by
  induction children with
  | nil => simp [put]
  | cons child rest inductionHypothesis =>
      obtain ⟨first, old⟩ := child
      rw [put]
      by_cases same : first = name
      · simp [same]
      · rw [if_neg same, List.map_cons, List.mem_cons, inductionHypothesis, List.map_cons,
          List.mem_cons]
        exact or_left_comm

theorem lawfulChildren_put {children : List (Text × Entry)} {name : Text} {entry : Entry}
    (lawful : lawfulChildren children = true) (named : isName name = true)
    (entryLawful : entry.isLawful = true) : lawfulChildren (put children name entry) = true := by
  induction children with
  | nil => exact lawfulChildren_cons.mpr ⟨named, by simp, entryLawful, rfl⟩
  | cons child rest inductionHypothesis =>
      obtain ⟨first, old⟩ := child
      obtain ⟨firstNamed, fresh, oldLawful, restLawful⟩ := lawfulChildren_cons.mp lawful
      rw [put]
      by_cases same : first = name
      · rw [if_pos same]
        exact lawfulChildren_cons.mpr ⟨firstNamed, fresh, entryLawful, restLawful⟩
      · rw [if_neg same]
        refine lawfulChildren_cons.mpr
          ⟨firstNamed, fun member => ?_, oldLawful, inductionHypothesis restLawful⟩
        rcases mem_put.mp member with impossible | later
        · exact same impossible
        · exact fresh later

theorem lawfulChildren_drop {children : List (Text × Entry)} {name : Text}
    (lawful : lawfulChildren children = true) : lawfulChildren (drop children name) = true := by
  obtain ⟨once, each⟩ := lawfulChildren_iff.mp lawful
  exact lawfulChildren_iff.mpr ⟨once.sublist (List.filter_sublist.map Prod.fst),
    fun child member => each child (List.mem_filter.mp member).1⟩

/-- What may be there is lawful. -/
def LawfulIfThere (old : Option Entry) : Prop :=
  ∀ entry, old = some entry → entry.isLawful = true

theorem LawfulIfThere.children {old : Option Entry} (lawful : LawfulIfThere old) :
    lawfulChildren ((old.map Entry.children).getD []) = true := by
  cases old with
  | none => rfl
  | some entry =>
      cases entry with
      | file content changed => rfl
      | directory children => exact lawful _ rfl

theorem LawfulIfThere.look? {old : Option Entry} (lawful : LawfulIfThere old) (name : Text) :
    LawfulIfThere (look? ((old.map Entry.children).getD []) name) := by
  intro entry found
  exact ((lawfulChildren_iff.mp lawful.children).2 _ (mem_of_look? found)).2

/-- A change of a lawful entry at a place with lawful names is lawful, if what the change
makes there is. -/
theorem LawfulIfThere.alter {change : Option Entry → Option Entry} {names : List Text}
    {old : Option Entry} (lawful : LawfulIfThere old) (named : ∀ name ∈ names, isName name = true)
    (made : LawfulIfThere (change (peek old names))) :
    LawfulIfThere (alter change names old) := by
  induction names generalizing old with
  | nil =>
      rw [peek_nil] at made
      exact made
  | cons name rest inductionHypothesis =>
      rw [peek_cons] at made
      have below := inductionHypothesis (lawful.look? name)
        (fun other member => named other (List.mem_cons_of_mem name member)) made
      intro entry altered
      rw [Entry.alter] at altered
      split at altered
      · next child changed =>
          cases altered
          exact lawfulChildren_put lawful.children (named name List.mem_cons_self)
            (below child changed)
      · cases altered
        exact lawfulChildren_drop lawful.children

/-- Above the place of a change stands what was there with the change below it. -/
theorem peek_alter_prefix (change : Option Entry → Option Entry) (above rest : List Text)
    (old : Option Entry) :
    peek (alter change (above ++ rest) old) above = alter change rest (peek old above) := by
  induction above generalizing old with
  | nil => simp
  | cons name more inductionHypothesis =>
      obtain ⟨children, altered, here, _⟩ := alter_cons change name (more ++ rest) old
      rw [List.cons_append, altered, peek_cons, peek_cons]
      simp only [Option.map_some, Option.getD_some, Entry.children]
      rw [here, inductionHypothesis]

end Entry
namespace Tree

variable {before after : Tree} {path : Path} {place names : List Text}
  {change : Option Entry → Option Entry}

/-! ## Edits -/

/-- An entry has been put into a directory or taken out of it.  Nothing stands below what
has been there, nor below what is there now. -/
structure Edited (before after : Tree) (names : List Text) (change : Option Entry → Option Entry) :
    Prop where
  current : after.current = before.current
  root : after.root = (before.alterAt change names).root
  nonempty : names ≠ []
  named : ∀ name ∈ names, isName name = true
  parent : ∃ children, before.root.at? names.dropLast = some (.directory children)
  lacks : before.Lacks names
  leaf : ∀ rest ≠ [], Entry.peek (change (before.root.at? names)) rest = none
  made : Entry.LawfulIfThere (change (before.root.at? names))

namespace Edited

variable (edited : Edited before after names change)

include edited

theorem at?_eq (others : List Text) : after.root.at? others =
    Entry.peek (Entry.alter change names (some before.root)) others := by
  rw [edited.root, alterAt_at? before edited.nonempty]

theorem at?_self : after.root.at? names = change (before.root.at? names) := by
  have below := Entry.peek_alter_below change names [] (some before.root)
  rw [List.append_nil, Entry.peek_nil] at below
  rw [edited.at?_eq, below]
  rfl

/-- Beside the place of an edit and below it nothing changes. -/
theorem at?_apart {others : List Text} (notAbove : ¬ others <+: names) :
    after.root.at? others = before.root.at? others := by
  by_cases below : names <+: others
  · obtain ⟨rest, rfl⟩ := below
    have proper : rest ≠ [] := by
      rintro rfl
      exact notAbove (by simp)
    have gone : before.root.at? (names ++ rest) = none := by
      cases rest with
      | nil => exact absurd rfl proper
      | cons name rest =>
          rw [Entry.at?_append]
          exact Entry.at?_below_file edited.lacks
    rw [edited.at?_eq, Entry.peek_alter_below, gone]
    exact edited.leaf rest proper
  · rw [edited.at?_eq, Entry.peek_alter_apart change below notAbove]
    rfl

/-- Above the place of an edit there are directories, before and after. -/
theorem above {others : List Text} (above : others <+: names) (proper : others ≠ names) :
    (∃ children, before.root.at? others = some (.directory children)) ∧
      ∃ children, after.root.at? others = some (.directory children) := by
  constructor
  · obtain ⟨children, parent⟩ := edited.parent
    have onTheWay : others <+: names.dropLast := by
      obtain ⟨rest, rfl⟩ := above
      have some : rest ≠ [] := fun none => proper (by simp [none])
      rw [List.dropLast_append_of_ne_nil some]
      exact List.prefix_append _ _
    obtain ⟨rest, same⟩ := onTheWay
    cases rest with
    | nil =>
        rw [List.append_nil] at same
        exact ⟨children, same ▸ parent⟩
    | cons name rest =>
        rw [← same] at parent
        exact Entry.directory_above parent (List.cons_ne_nil name rest)
  · rw [edited.at?_eq]
    exact Entry.peek_alter_above change above proper _

/-- What is lawful stays lawful. -/
theorem lawful {others : List Text} (lawful : Entry.LawfulIfThere (before.root.at? others)) :
    Entry.LawfulIfThere (after.root.at? others) := by
  by_cases above : others <+: names
  · obtain ⟨rest, rfl⟩ := above
    rw [edited.at?_eq, Entry.peek_alter_prefix]
    apply lawful.alter
    · exact fun name member => edited.named name (List.mem_append_right _ member)
    · have here := edited.made
      rw [Entry.at?_append] at here
      exact here
  · rw [edited.at?_apart above]
    exact lawful

theorem keeps : before.Keeps after where
  current := edited.current
  directory := by
    intro others children found
    by_cases above : others <+: names
    · have proper : others ≠ names := by
        rintro rfl
        exact edited.lacks children found
      exact (edited.above above proper).2
    · exact ⟨children, by rw [edited.at?_apart above, found]⟩

/-- A directory that an edit is not below still shows what it showed, except that
directories may hold something else. -/
theorem holds {view : Text → Option Entry} (holds : before.Holds path place view)
    {directory : List Text} (below : directory <+: names) (proper : directory ≠ names)
    (apart : ¬ directory <+: place) :
    ∃ other, after.Holds path place other ∧ ∀ name, Entry.Resembles (view name) (other name) := by
  obtain ⟨children, found, rfl⟩ := holds.found
  obtain ⟨others, stays⟩ := edited.keeps.directory place children found
  refine ⟨_, holds.of_keeps edited.keeps stays, fun name => ?_⟩
  have old : before.root.at? (place ++ [name]) = Entry.look? children name := by
    rw [Entry.at?_concat, found]
    rfl
  have new : after.root.at? (place ++ [name]) = Entry.look? others name := by
    rw [Entry.at?_concat, stays]
    rfl
  rw [← old, ← new]
  by_cases above : place ++ [name] <+: names
  · have inside : place ++ [name] ≠ names := by
      rintro rfl
      rcases List.prefix_concat_iff.mp below with same | onTheWay
      · exact proper same
      · exact apart onTheWay
    obtain ⟨⟨left, here⟩, right, there⟩ := edited.above above inside
    rw [here, there]
    exact .directories left right
  · rw [edited.at?_apart above]
    exact .same _

/-- A directory that is missing is still missing, if the edit is not on the way to it. -/
theorem lacking {directory : List Text} (lacks : before.Lacks place) (below : directory <+: names)
    (apart : ¬ directory <+: place) : after.Lacks place := by
  by_cases above : place <+: names
  · have proper : place ≠ names := by
      rintro rfl
      exact apart below
    obtain ⟨⟨children, found⟩, _⟩ := edited.above above proper
    exact absurd found (lacks children)
  · intro children found
    rw [edited.at?_apart above] at found
    exact lacks children found

end Edited

/-- The same edit apart from the hidden files leaves twins. -/
theorem Twin.edited {left right leftAfter rightAfter : Tree} {hidden : Text → Bool}
    (twin : Twin place hidden left right) (clear : Clear place hidden names)
    (leftEdited : left.Edited leftAfter names change)
    (rightEdited : right.Edited rightAfter names change) :
    Twin place hidden leftAfter rightAfter where
  current := by rw [rightEdited.current, leftEdited.current, twin.current]
  elsewhere := by
    intro others notAbove seen
    have same := twin.elsewhere others notAbove seen
    by_cases above : others <+: names
    · obtain ⟨rest, rfl⟩ := above
      rw [leftEdited.at?_eq, rightEdited.at?_eq, Entry.peek_alter_prefix, Entry.peek_alter_prefix]
      exact congrArg (Entry.alter change rest) same
    · rw [leftEdited.at?_apart above, rightEdited.at?_apart above, same]
  above := by
    intro others inside
    by_cases above : others <+: names
    · have proper : others ≠ names := by
        rintro rfl
        exact clear.notAbove inside
      obtain ⟨-, leftChildren, here⟩ := leftEdited.above above proper
      obtain ⟨-, rightChildren, there⟩ := rightEdited.above above proper
      rw [here, there]
      exact .alike (.directories _ _)
    · rw [leftEdited.at?_apart above, rightEdited.at?_apart above]
      exact twin.above others inside
  leftFiles := by
    intro name isHidden
    rw [leftEdited.at?_apart (clear.notBelow name isHidden)]
    exact twin.leftFiles name isHidden
  rightFiles := by
    intro name isHidden
    rw [rightEdited.at?_apart (clear.notBelow name isHidden)]
    exact twin.rightFiles name isHidden

/-! ## Lawful trees -/

/-- A change at a place with lawful names keeps a tree lawful, if what it makes there is. -/
theorem Lawful.alterAt {tree : Tree} (lawful : tree.Lawful)
    (named : ∀ name ∈ names, isName name = true)
    (made : Entry.LawfulIfThere (change (tree.root.at? names))) :
    (tree.alterAt change names).Lawful := by
  have root : Entry.LawfulIfThere (some tree.root) := fun entry same => by
    cases same
    exact lawful
  rw [Tree.Lawful, Tree.alterAt]
  cases altered : Entry.alter change names (some tree.root) with
  | none => exact lawful
  | some entry => exact root.alter named made entry altered

theorem Lawful.placed {tree : Tree} (lawful : tree.Lawful)
    (named : ∀ name ∈ names, isName name = true) {entry : Entry} (made : entry.isLawful = true) :
    (tree.place names entry).Lawful :=
  lawful.alterAt named fun _ same => by
    cases same
    exact made

section Directory

variable {tree : Tree} (lawful : tree.Lawful) (plain : Plain path) (legible : path.Legible)

include lawful plain legible

/-- Writing a file into a directory keeps a tree lawful. -/
theorem Lawful.writeBytes_child {name : Text} (segment : isSegment name = true)
    (ordinary : name ≠ upward) {content : Bytes}
    (written : tree.writeBytes (path.child name) content = .ok after) : after.Lawful := by
  obtain ⟨names, written⟩ := writeBytes_ok written
  have itself : tree.absolute (path.child name) = path.child name :=
    (plain.child ordinary).absolute tree
  have above : (path.child name).parent = path := by simp [Path.parent, Path.child]
  have last : (path.child name).name = name := by simp [Path.name, Path.child]
  have located := written.located
  have short := written.short
  rw [itself, above] at located
  rw [itself, last] at short
  obtain ⟨rfl, named⟩ := named_of_locate plain legible located
  have placed : (tree.place (path.names ++ [name]) (.file content tree.clock)).Lawful := by
    refine lawful.placed ?_ rfl
    rw [List.forall_mem_append, List.forall_mem_singleton]
    exact ⟨named, isName_iff.mpr ⟨segment, ordinary, short⟩⟩
  rw [written.changed, itself, last]
  exact placed

/-- So does moving a file within a directory. -/
theorem Lawful.moveFile_child {source target : Text} (sourceSegment : isSegment source = true)
    (sourceOrdinary : source ≠ upward) (segment : isSegment target = true)
    (ordinary : target ≠ upward)
    (moved : tree.moveFile (path.child source) (path.child target) = .ok after) :
    after.Lawful := by
  have itself : tree.absolute (path.child target) = path.child target :=
    (plain.child ordinary).absolute tree
  have above : (path.child target).parent = path := by simp [Path.parent, Path.child]
  have last : (path.child target).name = target := by simp [Path.name, Path.child]
  have sourceLegible : (path.child source).Legible := legible.child sourceSegment
  rw [moveFile, itself, above, last] at moved
  dsimp only at moved
  split at moved
  · next names others located parent =>
      obtain ⟨rfl, sourceNamed⟩ :=
        named_of_locate (plain.child sourceOrdinary) sourceLegible located
      obtain ⟨rfl, named⟩ := named_of_locate plain legible parent
      split at moved
      · split at moved
        · cases moved
        · next fits =>
            split at moved
            · cases moved
            · cases moved
              refine Lawful.alterAt (lawful.placed ?_ rfl) sourceNamed fun _ same => by cases same
              rw [List.forall_mem_append, List.forall_mem_singleton]
              exact ⟨named, isName_iff.mpr ⟨segment, ordinary, Nat.le_of_not_lt fits⟩⟩
      all_goals cases moved
  all_goals cases moved

/-- So does removing what a path leads to. -/
theorem Lawful.remove (removed : tree.remove path = .ok after) : after.Lawful := by
  rw [Tree.remove] at removed
  split at removed
  · cases removed
  · next names located =>
      cases removed
      obtain ⟨rfl, named⟩ := named_of_locate plain legible located
      exact lawful.alterAt named fun _ same => by cases same

/-- So does making a directory with those above it. -/
theorem Lawful.prepareDirectory : (tree.prepareDirectory path).2.Lawful := by
  rw [Tree.prepareDirectory, plain.absolute, normalize_plain plain]
  dsimp only
  split
  · exact lawful
  · dsimp only
    split
    · exact lawful
    · refine lawful.placed (fun name member => ?_) rfl
      have listed := (List.takeWhile_prefix _).subset member
      refine isName_iff.mpr ⟨legible.segments name listed, ?_, ?_⟩
      · rintro rfl
        exact plain.plain listed
      · simpa using List.mem_takeWhile_imp member

end Directory

end Tree

/-! ## Changes of files -/

namespace FileChange

open Codemap.Tree

variable {tree : Tree} {path : Path}

/-- The time that a change gives to a file. -/
def time? : FileChange → Option Int
  | .write _ changed | .touch changed => some changed
  | .delete => none

/-- What stands where a file stands can be changed. -/
theorem edited_of_isFile (plain : Plain path) (legible : path.Legible) (nonempty : path.names ≠ [])
    (isFile : tree.isFile path = true) (change : Option Entry → Option Entry)
    (small : ∀ content changed, ∀ entry, change (some (.file content changed)) = some entry →
      entry.isFile = true) :
    tree.locate path = .ok path.names ∧
      tree.Edited (tree.alterAt change path.names) path.names change := by
  rw [Tree.isFile] at isFile
  cases entry : tree.entry path with
  | error why =>
      rw [entry] at isFile
      cases isFile
  | ok found =>
      rw [entry] at isFile
      cases found with
      | directory children => cases isFile
      | file content changed =>
          have there := at?_of_entry plain entry
          have named := named_of_entry plain legible entry
          have walked : tree.walkNames [] path.names = .ok (path.names.reverse ++ []) :=
            walkNames_of_at? named there
          have value : ∀ made, change (tree.root.at? path.names) = some made →
              made.isFile = true := fun made same =>
            small content changed made (there ▸ same)
          refine ⟨by rw [plain.locate, walked]; rfl, rfl, rfl, nonempty, named, ?_, ?_, ?_, ?_⟩
          · rw [← Path.dropLast_concat_name nonempty] at there
            exact Entry.directory_above there (List.cons_ne_nil path.name [])
          · intro children directory
            rw [there] at directory
            cases directory
          · intro rest proper
            cases made : change (tree.root.at? path.names) with
            | none => rfl
            | some entry =>
                have isFile := value entry made
                cases entry with
                | directory children => cases isFile
                | file content changed =>
                    cases rest with
                    | nil => exact absurd rfl proper
                    | cons name rest => rfl
          · intro entry made
            have isFile := value entry made
            cases entry with
            | directory children => cases isFile
            | file content changed => rfl

/-- Writing a file is an edit that leaves what was written. -/
theorem edited_of_writeBytes (plain : Plain path) (legible : path.Legible)
    (nonempty : path.names ≠ []) {after : Tree} {content : Bytes} {changed : Int}
    (written : Tree.writeBytes { tree with clock := changed } path content = .ok after) :
    tree.Edited after path.names fun _ => some (.file content changed) := by
  obtain ⟨names, located, ⟨children, directory⟩, short, lacks, rfl⟩ := writeBytes_ok written
  rw [plain.absolute] at located short lacks
  obtain ⟨rfl, named⟩ := named_of_locate plain.parent legible.parent located
  have whole : path.parent.names ++ [path.name] = path.names := Path.dropLast_concat_name nonempty
  have last : path.name ∈ path.names := by
    rw [← whole]
    exact List.mem_append_right _ List.mem_cons_self
  rw [whole] at lacks
  refine ⟨rfl, ?_, nonempty, ?_, ⟨children, directory⟩, lacks, ?_, ?_⟩
  · rw [plain.absolute, whole]
    rfl
  · rw [← whole, List.forall_mem_append, List.forall_mem_singleton]
    refine ⟨named, isName_iff.mpr ⟨legible.segments _ last, ?_, short⟩⟩
    intro same
    exact plain.plain (same ▸ last)
  · intro rest proper
    cases rest with
    | nil => exact absurd rfl proper
    | cons name rest => rfl
  · intro entry same
    cases same
    rfl

/-- Giving a file another time keeps its content. -/
theorem time_of_dated {found : Option Entry} {changed time : Int} {content : Bytes}
    (same : dated changed found = some (.file content time)) : changed = time := by
  cases found with
  | none => simp [dated] at same
  | some entry =>
      cases entry with
      | directory children => cases same
      | file before since =>
          cases same
          rfl

/-- What happens to a file is an edit, or nothing happens. -/
theorem run_edited (plain : Plain path) (legible : path.Legible) (nonempty : path.names ≠ [])
    (what : FileChange) :
    what.run tree path = tree ∨
      ∃ change, tree.Edited (what.run tree path) path.names change ∧
        ∀ content changed, change (tree.root.at? path.names) = some (.file content changed) →
          what.time? = some changed := by
  cases what with
  | write content changed =>
      rw [FileChange.run]
      cases written : Tree.writeBytes { tree with clock := changed } path content with
      | error why => exact Or.inl rfl
      | ok after =>
          refine Or.inr ⟨_, edited_of_writeBytes plain legible nonempty written, ?_⟩
          intro other time same
          cases same
          rfl
  | touch changed =>
      rw [FileChange.run]
      split
      · next isFile =>
          right
          obtain ⟨located, edited⟩ := edited_of_isFile plain legible nonempty isFile (dated changed)
            fun content old entry same => by
              cases same
              rfl
          refine ⟨dated changed, ?_, fun content time same => ?_⟩
          · rw [Tree.touch, located]
            exact edited
          · exact congrArg some (time_of_dated same)
      · exact Or.inl rfl
  | delete =>
      rw [FileChange.run]
      split
      · next isFile =>
          right
          obtain ⟨located, edited⟩ := edited_of_isFile plain legible nonempty isFile (fun _ => none)
            fun content old entry impossible => by cases impossible
          refine ⟨fun _ => none, ?_, fun content changed impossible => by cases impossible⟩
          rw [Tree.remove, located]
          exact edited
      · exact Or.inl rfl

end FileChange

/-! ## Making a directory -/

namespace Tree

variable {tree : Tree} {path : Path}

/-- Nothing is in the way of a directory in one that is there, except perhaps a file with its
name. -/
theorem enter_concat {first above : List Text} {name : Text} {children : List (Text × Entry)}
    (directory : tree.root.at? (first.reverse ++ above) = some (.directory children))
    (short : ∀ other ∈ above ++ [name], (Utf8.encode other).length ≤ longestName) :
    prepareDirectory.enter tree first (above ++ [name]) =
      match tree.root.at? (first.reverse ++ above ++ [name]) with
      | some (.file _ _) => .error .occupied
      | _ => .ok () := by
  induction above generalizing first with
  | nil =>
      have fits := short name List.mem_cons_self
      rw [List.nil_append, prepareDirectory.enter, if_neg (by omega), List.reverse_cons,
        List.append_nil]
      cases tree.root.at? (first.reverse ++ [name]) with
      | none => rfl
      | some entry => cases entry <;> rfl
  | cons next above inductionHypothesis =>
      have fits := short next List.mem_cons_self
      have further : tree.root.at? ((next :: first).reverse ++ above) =
          some (.directory children) := by
        simpa using directory
      have here : ∃ others, tree.root.at? (next :: first).reverse = some (.directory others) := by
        cases above with
        | nil => exact ⟨children, by simpa using further⟩
        | cons later above => exact Entry.directory_above further (List.cons_ne_nil later above)
      obtain ⟨others, here⟩ := here
      have onwards := inductionHypothesis further fun other member =>
        short other (List.mem_cons_of_mem next member)
      rw [List.cons_append, prepareDirectory.enter, if_neg (by omega), here]
      simpa using onwards

/-- Making a directory in one that is there is an edit, unless something has its name. -/
theorem makeDirectories_edited (rooted : path.isAbsolute = true) (nonempty : path.names ≠ [])
    (named : ∀ name ∈ path.names, isName name = true) {children : List (Text × Entry)}
    (parent : tree.root.at? path.names.dropLast = some (.directory children)) :
    (tree.makeDirectories path).toOption.getD tree = tree ∨
      tree.Edited ((tree.makeDirectories path).toOption.getD tree) path.names
        fun _ => some (.directory []) := by
  have plain := plain_of_named rooted named
  obtain ⟨above, name, split⟩ := (List.eq_nil_or_concat path.names).resolve_left nonempty
  rw [List.concat_eq_append] at split
  have short : ∀ other ∈ path.names, (Utf8.encode other).length ≤ longestName :=
    fun other member => (isName_iff.mp (named other member)).2.2
  have directory : tree.root.at? above = some (.directory children) := by
    rwa [split, List.dropLast_concat] at parent
  have normal : (tree.absolute path).normalize.names = path.names := by
    rw [plain.absolute, normalize_plain plain]
  have entered : prepareDirectory.enter tree [] path.names =
      match tree.root.at? path.names with
      | some (.file _ _) => .error .occupied
      | _ => .ok () := by
    rw [split] at short ⊢
    exact enter_concat directory short
  have fits : ∀ name ∈ path.names, decide ((Utf8.encode name).length ≤ longestName) = true :=
    fun name member => decide_eq_true (short name member)
  have whole : path.names.takeWhile (fun name => decide ((Utf8.encode name).length ≤ longestName)) =
      path.names := List.takeWhile_eq_self_iff.mpr fits
  rw [makeDirectories, prepareDirectory, normal]
  simp only [entered, whole, List.all_eq_true.mpr fits, if_true]
  cases there : tree.root.at? path.names with
  | none =>
      right
      refine ⟨rfl, rfl, nonempty, named, ⟨children, parent⟩, ?_, ?_, ?_⟩
      · intro others found
        rw [there] at found
        cases found
      · intro rest proper
        cases rest with
        | nil => exact absurd rfl proper
        | cons name rest => rfl
      · intro entry same
        cases same
        rfl
  | some entry =>
      left
      cases entry <;> rfl

end Tree
end Codemap
