import Codemap.Files.Walk
import Codemap.Proofs.Files.Path
import Codemap.Proofs.Text.Order

namespace Codemap

/-!
# Lawful trees and what a walk of them visits

A file system gives each entry of a directory a name of its own.  The type of
entries does not say so; `Entry.isLawful` does.  Over a lawful entry a walk visits
no place twice, and every place it visits is a nonempty list of names.
-/

namespace Entry

mutual

/-- Below the entry every directory gives its entries distinct names. -/
def isLawful : Entry → Bool
  | .file _ _ => true
  | .directory children => lawfulChildren children

/-- The children have distinct names and are lawful themselves. -/
def lawfulChildren : List (Text × Entry) → Bool
  | [] => true
  | (name, entry) :: rest =>
      isName name && !(rest.map Prod.fst).contains name && isLawful entry && lawfulChildren rest

end

theorem lawfulChildren_cons {name : Text} {entry : Entry} {rest : List (Text × Entry)} :
    lawfulChildren ((name, entry) :: rest) = true ↔
      isName name = true ∧ name ∉ rest.map Prod.fst ∧ entry.isLawful = true ∧
        lawfulChildren rest = true := by
  simp [lawfulChildren, and_assoc]

/-- The children of a lawful directory: distinct names, and lawful entries. -/
theorem lawfulChildren_iff {children : List (Text × Entry)} :
    lawfulChildren children = true ↔
      (children.map Prod.fst).Nodup ∧
        ∀ child ∈ children, isName child.1 = true ∧ child.2.isLawful = true := by
  induction children with
  | nil => simp [lawfulChildren]
  | cons child rest inductionHypothesis =>
      obtain ⟨name, entry⟩ := child
      rw [lawfulChildren_cons, inductionHypothesis, List.map_cons, List.nodup_cons,
        List.forall_mem_cons]
      constructor
      · rintro ⟨named, fresh, lawful, once, others⟩
        exact ⟨⟨fresh, once⟩, ⟨named, lawful⟩, others⟩
      · rintro ⟨⟨fresh, once⟩, ⟨named, lawful⟩, others⟩
        exact ⟨named, fresh, lawful, once, others⟩

/-- What is found under a name is one of the children. -/
theorem mem_of_look? {children : List (Text × Entry)} {name : Text} {entry : Entry}
    (found : look? children name = some entry) : (name, entry) ∈ children := by
  induction children with
  | nil => simp [look?] at found
  | cons child rest inductionHypothesis =>
      simp only [look?] at found
      by_cases same : child.1 = name
      · rw [if_pos same] at found
        have equal : child.2 = entry := Option.some.inj found
        exact List.mem_cons.mpr (Or.inl (by rw [← same, ← equal]))
      · rw [if_neg same] at found
        exact List.mem_cons_of_mem child (inductionHypothesis found)

/-- Among children with distinct names each is found under its name. -/
theorem look?_of_mem {children : List (Text × Entry)} (once : (children.map Prod.fst).Nodup)
    {name : Text} {entry : Entry} (member : (name, entry) ∈ children) :
    look? children name = some entry := by
  induction children with
  | nil => cases member
  | cons child rest inductionHypothesis =>
      have parts := List.nodup_cons.mp once
      rcases List.mem_cons.mp member with same | later
      · simp [look?, ← same]
      · have different : child.1 ≠ name := by
          intro equal
          exact parts.1 (List.mem_map.mpr ⟨_, later, equal.symm⟩)
        rw [look?, if_neg different]
        exact inductionHypothesis parts.2 later

/-- The children of a lawful entry have distinct names. -/
theorem children_nodup {entry : Entry} (lawful : entry.isLawful = true) :
    (entry.children.map Prod.fst).Nodup := by
  cases entry with
  | file content changed => simp [children]
  | directory children => exact (lawfulChildren_iff.mp lawful).1

theorem isLawful_of_look? {entry child : Entry} {name : Text} (lawful : entry.isLawful = true)
    (found : look? entry.children name = some child) :
    isName name = true ∧ child.isLawful = true := by
  cases entry with
  | file content changed => simp [children, look?] at found
  | directory children => exact (lawfulChildren_iff.mp lawful).2 _ (mem_of_look? found)

/-- Every place in a lawful entry is reached by names and is lawful. -/
theorem isLawful_of_at? {entry found : Entry} {names : List Text} (lawful : entry.isLawful = true)
    (there : entry.at? names = some found) :
    (∀ name ∈ names, isName name = true) ∧ found.isLawful = true := by
  induction names generalizing entry with
  | nil =>
      cases Option.some.inj there
      exact ⟨fun _ member => absurd member List.not_mem_nil, lawful⟩
  | cons name rest inductionHypothesis =>
      rw [at?] at there
      cases child : look? entry.children name with
      | none => simp [child] at there
      | some below =>
          simp only [child] at there
          have step := isLawful_of_look? lawful child
          have later := inductionHypothesis step.2 there
          refine ⟨fun other member => ?_, later.2⟩
          rcases List.mem_cons.mp member with same | further
          · exact same ▸ step.1
          · exact later.1 other further

end Entry

/-- A tree whose directories give their entries distinct names. -/
def Tree.Lawful (tree : Tree) : Prop :=
  tree.root.isLawful = true

instance (tree : Tree) : Decidable tree.Lawful :=
  inferInstanceAs (Decidable (tree.root.isLawful = true))

namespace Walk

theorem inOrder_perm {α : Type} (results : List (Text × α)) : (inOrder results).Perm results :=
  List.mergeSort_perm _ _

/-- The names of the files in a directory: those of its children that are files. -/
theorem mem_filesOf {children : List (Text × Entry)} {name : Text} :
    name ∈ filesOf children ↔ ∃ entry, (name, entry) ∈ children ∧ entry.isFile = true := by
  simp [filesOf]

theorem filesOf_nodup {children : List (Text × Entry)} (once : (children.map Prod.fst).Nodup) :
    (filesOf children).Nodup := by
  apply (List.mergeSort_perm _ _).nodup_iff.mpr
  exact once.sublist (List.filter_sublist.map Prod.fst)

/-- The results for the children stand under names of directories that are entered. -/
theorem mem_ofChildren {excluded : List Text} {skipBuild : Bool} {children : List (Text × Entry)}
    {name : Text} {below : List (List Text)} :
    (name, below) ∈ ofChildren excluded skipBuild children ↔
      ∃ entry, (name, entry) ∈ children ∧ entry.isDirectory = true ∧
        isPruned excluded skipBuild name = false ∧ below = ofEntry excluded skipBuild entry := by
  induction children with
  | nil => simp [ofChildren]
  | cons child rest inductionHypothesis =>
      obtain ⟨other, entry⟩ := child
      simp only [ofChildren, List.mem_cons, Prod.mk.injEq]
      by_cases entered : (entry.isDirectory && !isPruned excluded skipBuild other) = true
      · rw [if_pos entered, List.mem_cons, inductionHypothesis]
        simp only [Bool.and_eq_true, Bool.not_eq_true'] at entered
        constructor
        · rintro (same | ⟨found, member, facts⟩)
          · cases same
            exact ⟨entry, Or.inl ⟨rfl, rfl⟩, entered.1, entered.2, rfl⟩
          · exact ⟨found, Or.inr member, facts⟩
        · rintro ⟨found, ⟨rfl, rfl⟩ | member, facts⟩
          · exact Or.inl (by rw [facts.2.2])
          · exact Or.inr ⟨found, member, facts⟩
      · rw [if_neg entered, inductionHypothesis]
        constructor
        · rintro ⟨found, member, facts⟩
          exact ⟨found, Or.inr member, facts⟩
        · rintro ⟨found, ⟨rfl, rfl⟩ | member, facts⟩
          · exact absurd (by simp [facts.1, facts.2.1]) entered
          · exact ⟨found, member, facts⟩

theorem ofChildren_names_sublist (excluded : List Text) (skipBuild : Bool)
    (children : List (Text × Entry)) :
    ((ofChildren excluded skipBuild children).map Prod.fst).Sublist (children.map Prod.fst) := by
  induction children with
  | nil => simp [ofChildren]
  | cons child rest inductionHypothesis =>
      obtain ⟨name, entry⟩ := child
      simp only [ofChildren]
      split
      · exact inductionHypothesis.cons_cons name
      · exact inductionHypothesis.cons name

/-- Children that stand in the order of their names are visited as they stand. -/
theorem ofEntry_of_ordered {excluded : List Text} {skipBuild : Bool}
    {children : List (Text × Entry)}
    (ordered : (children.map Prod.fst).Pairwise fun a b => Text.le a b = true) :
    ofEntry excluded skipBuild (.directory children) =
      ((children.filter fun child => child.2.isFile).map fun child => [child.1]) ++
        (ofChildren excluded skipBuild children).flatMap fun (name, below) =>
          below.map (name :: ·) := by
  have files : filesOf children = (children.filter fun child => child.2.isFile).map Prod.fst :=
    List.mergeSort_of_pairwise (ordered.sublist (List.filter_sublist.map Prod.fst))
  have directories : inOrder (ofChildren excluded skipBuild children) =
      ofChildren excluded skipBuild children :=
    List.mergeSort_of_pairwise
      (List.pairwise_map.mp (ordered.sublist (ofChildren_names_sublist _ _ _)))
  rw [ofEntry, files, directories, List.map_map]
  rfl

/-- A place is visited by the walk of an entry: the name of a file in it, or a name of a
directory to be entered followed by a place below. -/
theorem mem_ofEntry {excluded : List Text} {skipBuild : Bool} {entry : Entry}
    {names : List Text} :
    names ∈ ofEntry excluded skipBuild entry ↔
      (∃ name file, names = [name] ∧ (name, file) ∈ entry.children ∧ file.isFile = true) ∨
      ∃ name child rest, names = name :: rest ∧ (name, child) ∈ entry.children ∧
        child.isDirectory = true ∧ isPruned excluded skipBuild name = false ∧
        rest ∈ ofEntry excluded skipBuild child := by
  cases entry with
  | file content changed => simp [ofEntry, Entry.children]
  | directory children =>
      simp only [ofEntry, List.mem_append, List.mem_map, mem_filesOf, List.mem_flatMap,
        Entry.children]
      constructor
      · rintro (⟨name, ⟨file, member, isFile⟩, rfl⟩ | ⟨⟨name, below⟩, listed, rest, visited, rfl⟩)
        · exact Or.inl ⟨name, file, rfl, member, isFile⟩
        · obtain ⟨child, member, isDirectory, kept, rfl⟩ :=
            mem_ofChildren.mp ((inOrder_perm _).mem_iff.mp listed)
          exact Or.inr ⟨name, child, rest, rfl, member, isDirectory, kept, visited⟩
      · rintro (⟨name, file, rfl, member, isFile⟩ |
          ⟨name, child, rest, rfl, member, isDirectory, kept, visited⟩)
        · exact Or.inl ⟨name, ⟨file, member, isFile⟩, rfl⟩
        · have listed := mem_ofChildren.mpr ⟨child, member, isDirectory, kept, rfl⟩
          exact Or.inr ⟨_, (inOrder_perm _).mem_iff.mpr listed, rest, visited, rfl⟩

/-- A walk leads to files: what it visits in a lawful entry is a file there, reached by a
nonempty list of names. -/
theorem at?_of_mem_ofEntry {excluded : List Text} {skipBuild : Bool} {names : List Text}
    {entry : Entry} (lawful : entry.isLawful = true)
    (visited : names ∈ ofEntry excluded skipBuild entry) :
    names ≠ [] ∧ ∃ file, entry.at? names = some file ∧ file.isFile = true := by
  induction names generalizing entry with
  | nil =>
      rcases mem_ofEntry.mp visited with ⟨_, _, impossible, _⟩ | ⟨_, _, _, impossible, _⟩
      · cases impossible
      · cases impossible
  | cons name rest inductionHypothesis =>
      refine ⟨List.cons_ne_nil name rest, ?_⟩
      rcases mem_ofEntry.mp visited with
        ⟨_, file, same, member, isFile⟩ | ⟨_, child, _, same, member, _, _, deeper⟩
      · cases same
        have found := Entry.look?_of_mem (Entry.children_nodup lawful) member
        exact ⟨file, by simp [Entry.at?, found], isFile⟩
      · cases same
        have found := Entry.look?_of_mem (Entry.children_nodup lawful) member
        have childLawful := (Entry.isLawful_of_look? lawful found).2
        obtain ⟨file, there, isFile⟩ := (inductionHypothesis childLawful deeper).2
        exact ⟨file, by simp [Entry.at?, found, there], isFile⟩

/-- What a walk of a lawful entry visits: the files below it, unless one of the directories on
the way is pruned. -/
theorem mem_ofEntry_iff {excluded : List Text} {skipBuild : Bool} {names : List Text}
    {entry : Entry} (lawful : entry.isLawful = true) :
    names ∈ ofEntry excluded skipBuild entry ↔
      names ≠ [] ∧ (∃ file, entry.at? names = some file ∧ file.isFile = true) ∧
        ∀ directory ∈ names.dropLast, isPruned excluded skipBuild directory = false := by
  induction names generalizing entry with
  | nil =>
      rw [mem_ofEntry]
      simp
  | cons name rest inductionHypothesis =>
      constructor
      · intro visited
        obtain ⟨nonempty, there⟩ := at?_of_mem_ofEntry lawful visited
        refine ⟨nonempty, there, ?_⟩
        rcases mem_ofEntry.mp visited with
          ⟨_, _, same, _⟩ | ⟨_, child, _, same, member, _, kept, deeper⟩
        · cases same
          simp
        · cases same
          have found := Entry.look?_of_mem (Entry.children_nodup lawful) member
          have childLawful := (Entry.isLawful_of_look? lawful found).2
          obtain ⟨restNonempty, _, free⟩ := (inductionHypothesis childLawful).mp deeper
          rw [List.dropLast_cons_of_ne_nil restNonempty, List.forall_mem_cons]
          exact ⟨kept, free⟩
      · rintro ⟨_, ⟨file, there, isFile⟩, free⟩
        rw [Entry.at?] at there
        cases found : Entry.look? entry.children name with
        | none => simp [found] at there
        | some child =>
            simp only [found] at there
            have member := Entry.mem_of_look? found
            cases rest with
            | nil =>
                cases there
                exact mem_ofEntry.mpr (Or.inl ⟨name, file, rfl, member, isFile⟩)
            | cons next rest =>
                have isDirectory : child.isDirectory = true := by
                  cases child with
                  | file content changed => simp [Entry.at?, Entry.children, Entry.look?] at there
                  | directory children => rfl
                rw [List.dropLast_cons_of_ne_nil (List.cons_ne_nil next rest),
                  List.forall_mem_cons] at free
                have deeper := (inductionHypothesis (Entry.isLawful_of_look? lawful found).2).mpr
                  ⟨List.cons_ne_nil next rest, ⟨file, there, isFile⟩, free.2⟩
                exact mem_ofEntry.mpr
                  (Or.inr ⟨name, child, next :: rest, rfl, member, isDirectory, free.1, deeper⟩)

/-- A walk comes to one place before another: the files of a directory come before what lies
deeper, and otherwise the names decide. -/
inductive Precedes : List Text → List Text → Prop
  | files {name other : Text} (lower : Text.le name other = true) (apart : name ≠ other) :
      Precedes [name] [other]
  | deeper (name other next : Text) (rest : List Text) : Precedes [name] (other :: next :: rest)
  | directories {name other : Text} (lower : Text.le name other = true) (apart : name ≠ other)
      {left right : List Text} (leftNonempty : left ≠ []) (rightNonempty : right ≠ []) :
      Precedes (name :: left) (other :: right)
  | inside (name : Text) {left right : List Text} (below : Precedes left right) :
      Precedes (name :: left) (name :: right)

theorem Precedes.asymm {left right : List Text} (before : Precedes left right) :
    ¬ Precedes right left := by
  have nothing (names : List Text) : ¬ Precedes names [] := by rintro ⟨⟩
  induction before with
  | files lower apart =>
      intro after
      cases after with
      | files upper _ => exact apart (Text.le_antisymm lower upper)
      | directories _ _ nonempty _ => exact nonempty rfl
      | inside _ below => exact nothing _ below
  | deeper name other next rest =>
      intro after
      cases after with
      | directories _ _ _ nonempty => exact nonempty rfl
      | inside _ below => exact nothing _ below
  | directories lower apart leftNonempty rightNonempty =>
      intro after
      cases after with
      | files _ _ => exact leftNonempty rfl
      | deeper _ _ _ _ => exact rightNonempty rfl
      | directories upper _ _ _ => exact apart (Text.le_antisymm lower upper)
      | inside _ _ => exact apart rfl
  | inside name below inductionHypothesis =>
      intro after
      cases after with
      | files _ apart => exact apart rfl
      | deeper _ _ _ _ => exact nothing _ below
      | directories _ apart _ _ => exact apart rfl
      | inside _ above => exact inductionHypothesis above

mutual

/-- A walk of a lawful entry visits places in their order. -/
theorem pairwise_ofEntry (excluded : List Text) (skipBuild : Bool) :
    (entry : Entry) → entry.isLawful = true →
      (ofEntry excluded skipBuild entry).Pairwise Precedes
  | .file _ _, _ => List.Pairwise.nil
  | .directory children, lawful => by
      have once := Entry.children_nodup lawful
      have later := pairwise_ofChildren excluded skipBuild children lawful
      have files : ((filesOf children).map fun name => [name]).Pairwise Precedes :=
        List.pairwise_map.mpr (((Text.pairwise_sort _).and (filesOf_nodup once)).imp
          fun between => .files between.1 between.2)
      have distinct : ((inOrder (ofChildren excluded skipBuild children)).map Prod.fst).Nodup :=
        ((inOrder_perm _).map Prod.fst).nodup_iff.mpr
          (once.sublist (ofChildren_names_sublist excluded skipBuild children))
      have nonempty {name : Text} {visits : List (List Text)} {names : List Text}
          (listed : (name, visits) ∈ inOrder (ofChildren excluded skipBuild children))
          (visited : names ∈ visits) : names ≠ [] := by
        obtain ⟨entry, member, _, _, rfl⟩ := mem_ofChildren.mp ((inOrder_perm _).mem_iff.mp listed)
        exact (at?_of_mem_ofEntry ((Entry.lawfulChildren_iff.mp lawful).2 _ member).2 visited).1
      rw [ofEntry]
      refine List.pairwise_append.mpr ⟨files, List.pairwise_flatMap.mpr ⟨?_, ?_⟩, ?_⟩
      · intro result member
        have each := later result ((inOrder_perm _).mem_iff.mp member)
        exact List.pairwise_map.mpr (each.imp fun below => .inside _ below)
      · refine ((Text.pairwise_mergeSort Prod.fst _).and (List.pairwise_map.mp distinct)).imp_of_mem ?_
        rintro ⟨first, firstVisits⟩ ⟨second, secondVisits⟩ inFirst inSecond ⟨lower, apart⟩ names
          firstVisited others secondVisited
        obtain ⟨left, visited, rfl⟩ := List.mem_map.mp firstVisited
        obtain ⟨right, otherVisited, rfl⟩ := List.mem_map.mp secondVisited
        exact .directories lower apart (nonempty inFirst visited) (nonempty inSecond otherVisited)
      · intro names inFiles others inBelow
        obtain ⟨name, _, rfl⟩ := List.mem_map.mp inFiles
        obtain ⟨⟨directory, visits⟩, listed, inVisits⟩ := List.mem_flatMap.mp inBelow
        obtain ⟨rest, visited, rfl⟩ := List.mem_map.mp inVisits
        obtain ⟨next, more, rfl⟩ := List.exists_cons_of_ne_nil (nonempty listed visited)
        exact .deeper name directory next more

/-- So do the walks of the children of a lawful directory. -/
theorem pairwise_ofChildren (excluded : List Text) (skipBuild : Bool) :
    (children : List (Text × Entry)) → Entry.lawfulChildren children = true →
      ∀ result ∈ ofChildren excluded skipBuild children, result.2.Pairwise Precedes
  | [], _ => by simp [ofChildren]
  | (name, entry) :: rest, lawful => by
      obtain ⟨_, _, entryLawful, restLawful⟩ := Entry.lawfulChildren_cons.mp lawful
      have others := pairwise_ofChildren excluded skipBuild rest restLawful
      rw [ofChildren]
      split
      · intro result member
        rcases List.mem_cons.mp member with rfl | later
        · exact pairwise_ofEntry excluded skipBuild entry entryLawful
        · exact others result later
      · exact others

end

theorem nodup_of_precedes {places : List (List Text)} (ordered : places.Pairwise Precedes) :
    places.Nodup :=
  ordered.imp fun before same => (same ▸ before).asymm (same ▸ before)

/-- What is visited in order is determined by its places. -/
theorem eq_of_precedes {left right : List (List Text)} (leftOrdered : left.Pairwise Precedes)
    (rightOrdered : right.Pairwise Precedes) (same : ∀ names, names ∈ left ↔ names ∈ right) :
    left = right := by
  have permutation : left.Perm right := (List.perm_ext_iff_of_nodup (nodup_of_precedes leftOrdered)
    (nodup_of_precedes rightOrdered)).mpr same
  exact permutation.eq_of_pairwise (fun _ _ _ _ before after => absurd after before.asymm)
    leftOrdered rightOrdered

theorem isName_of_mem_ofEntry {excluded : List Text} {skipBuild : Bool} {names : List Text}
    {entry : Entry} (lawful : entry.isLawful = true)
    (visited : names ∈ ofEntry excluded skipBuild entry) : ∀ name ∈ names, isName name = true := by
  obtain ⟨_, file, there, _⟩ := at?_of_mem_ofEntry lawful visited
  exact (Entry.isLawful_of_at? lawful there).1

/-! ## The walk of a tree -/

variable {tree : Tree}

/-- What a path leads to in a lawful tree is lawful. -/
theorem isLawful_of_entry {path : Path} {entry : Entry} (lawful : tree.Lawful)
    (found : tree.entry path = .ok entry) : entry.isLawful = true := by
  unfold Tree.entry at found
  split at found
  · split at found
    · next there =>
        cases found
        exact (Entry.isLawful_of_at? lawful there).2
    · cases found
  · cases found

/-- What a path leads to, if anything, is lawful. -/
def LawfulAt (tree : Tree) (path : Path) : Prop :=
  ∀ entry, tree.entry path = .ok entry → entry.isLawful = true

theorem lawfulAt_of_lawful (lawful : tree.Lawful) (path : Path) : LawfulAt tree path :=
  fun _ => isLawful_of_entry lawful

/-- A walk visits places in their order. -/
theorem relativeFiles_ordered {base : Path} (lawful : LawfulAt tree base) (excluded : List Text)
    (skipBuild : Bool) : (relativeFiles tree base excluded skipBuild).Pairwise Precedes := by
  unfold relativeFiles
  split
  · next entry found => exact pairwise_ofEntry excluded skipBuild entry (lawful entry found)
  · exact List.Pairwise.nil

/-- A walk visits no place twice. -/
theorem relativeFiles_nodup {base : Path} (lawful : LawfulAt tree base) (excluded : List Text)
    (skipBuild : Bool) : (relativeFiles tree base excluded skipBuild).Nodup :=
  nodup_of_precedes (relativeFiles_ordered lawful excluded skipBuild)

theorem relativeFiles_named {base : Path} (lawful : LawfulAt tree base) {excluded : List Text}
    {skipBuild : Bool} {names : List Text}
    (visited : names ∈ relativeFiles tree base excluded skipBuild) :
    names ≠ [] ∧ ∀ name ∈ names, isName name = true := by
  unfold relativeFiles at visited
  split at visited
  · next entry found =>
      exact ⟨(at?_of_mem_ofEntry (lawful entry found) visited).1,
        isName_of_mem_ofEntry (lawful entry found) visited⟩
  · cases visited

theorem isPruned_mono {excluded : List Text} {name : Text}
    (kept : isPruned excluded true name = false) : isPruned excluded false name = false := by
  simp only [isPruned, Bool.or_eq_false_iff] at kept ⊢
  exact ⟨kept.1, rfl⟩

/-- A walk for source files visits nothing that the other walk does not visit. -/
theorem mem_ofEntry_mono {excluded : List Text} {names : List Text} {entry : Entry}
    (visited : names ∈ ofEntry excluded true entry) : names ∈ ofEntry excluded false entry := by
  induction names generalizing entry with
  | nil =>
      rcases mem_ofEntry.mp visited with ⟨_, _, impossible, _⟩ | ⟨_, _, _, impossible, _⟩
      · cases impossible
      · cases impossible
  | cons name rest inductionHypothesis =>
      rcases mem_ofEntry.mp visited with file | ⟨_, child, _, same, member, isDirectory, kept, deeper⟩
      · exact mem_ofEntry.mpr (Or.inl file)
      · cases same
        exact mem_ofEntry.mpr (Or.inr ⟨name, child, rest, rfl, member, isDirectory,
          isPruned_mono kept, inductionHypothesis deeper⟩)

theorem relativeFiles_mono {base : Path} {excluded : List Text} {names : List Text}
    (visited : names ∈ relativeFiles tree base excluded true) :
    names ∈ relativeFiles tree base excluded false := by
  unfold relativeFiles at visited ⊢
  split at visited
  · exact mem_ofEntry_mono visited
  · cases visited

end Walk
end Codemap
