import Codemap.Proofs.Bundle.Isolation
import Codemap.Proofs.Cache.Apart
import Codemap.Proofs.Import.Twin

namespace Codemap
namespace Bundle

/-!
# What the files of a bundle say

A bundle is kept for the set of its files, and the set says nothing about which of them
matched and which refer to those.  Yet a file of the set has matched exactly if the globs
of the request select it, because patterns only look into files that the globs select.
So two searches that find the same set have found the same files for the same reasons,
and if the files have not changed either, the bundles differ in the description file and
the time at most.
-/

open Codemap.Tree

variable {settings : Settings} {request : Request} {tree : Tree} {directory : Path} {files : Files}
  {names : List Text} {text : Text}

/-! ## Directories that can be searched -/

/-- A directory in which files can be searched: it is there, and its entries have names of
their own. -/
structure Searched (tree : Tree) (directory : Path) : Prop where
  root : directory.root = .slash
  named : ∀ name ∈ directory.names, isName name = true
  found : ∃ children, tree.root.at? directory.names = some (.directory children)
  lawful : Walk.LawfulAt tree directory

namespace Searched

variable (searched : Searched tree directory)

include searched

theorem rooted : directory.isAbsolute = true := by
  rw [Path.isAbsolute, searched.root]
  rfl

theorem plain : Plain directory :=
  plain_of_named searched.rooted searched.named

theorem legible : directory.Legible :=
  ⟨searched.rooted, fun name member => isSegment_of_isName (searched.named name member)⟩

theorem resolve (current : Path) : Path.resolve current directory = directory := by
  have joined : current.join directory = directory := by
    rw [Path.join, if_pos searched.rooted]
  rw [Path.resolve, joined, normalize_plain searched.plain, ← searched.root]

theorem entry : ∃ children, tree.entry directory = .ok (.directory children) := by
  obtain ⟨children, there⟩ := searched.found
  exact ⟨children, entry_of_at? searched.rooted searched.named there⟩

theorem checkBase : Search.checkBase tree directory = .ok directory := by
  obtain ⟨children, there⟩ := searched.entry
  rw [Search.checkBase, Tree.status, there, searched.resolve]

/-- A directory that has not changed can still be searched. -/
theorem of_at?_eq {after : Tree}
    (same : after.root.at? directory.names = tree.root.at? directory.names) :
    Searched after directory where
  root := searched.root
  named := searched.named
  found := by
    rw [same]
    exact searched.found
  lawful := fun entry leads =>
    searched.lawful entry ((entry_ok_congr searched.rooted searched.named same).mp leads)

/-- Its description file is the same as well. -/
theorem readmeOf_eq {after : Tree}
    (same : after.root.at? directory.names = tree.root.at? directory.names) :
    readmeOf after directory = readmeOf tree directory := by
  have rooted (name : Text) : (directory.child name).isAbsolute = true := searched.rooted
  have named : ∀ name ∈ readmeNames, ∀ other ∈ (directory.child name).names,
      isName other = true := by
    have each : ∀ name ∈ readmeNames, isName name = true := by decide
    intro name listed
    rw [Path.child, List.forall_mem_append, List.forall_mem_singleton]
    exact ⟨searched.named, each name listed⟩
  have there (name : Text) : after.root.at? (directory.child name).names =
      tree.root.at? (directory.child name).names := by
    rw [Path.child, Entry.at?_concat, Entry.at?_concat, same]
  have paths : readmePath? after directory = readmePath? tree directory := by
    apply List.find?_congr
    intro path member
    obtain ⟨name, listed, rfl⟩ := List.mem_map.mp member
    exact isFile_congr (rooted name) (named name listed) (there name)
  rw [readmeOf, readmeOf, paths]
  cases chosen : readmePath? tree directory with
  | none => rfl
  | some path =>
      obtain ⟨name, listed, rfl⟩ := List.mem_map.mp (List.mem_of_find?_eq_some chosen)
      obtain ⟨content, changed, leads⟩ := isFile_iff.mp (List.find?_some chosen)
      have stays := (entry_ok_congr (rooted name) (named name listed) (there name)).mpr leads
      simp only [Tree.readText, Tree.readBytes, leads, stays]

end Searched

/-- The text of a file below a directory. -/
def textBelow (directory : Path) (names : List Text) : Text :=
  Path.text { directory with names := directory.names ++ names }

/-- What a walk visits: the files that are there, unless one of the directories on the way is
pruned. -/
theorem Searched.visited_iff (searched : Searched tree directory) {excluded : List Text}
    {skipBuild : Bool} : names ∈ Walk.relativeFiles tree directory excluded skipBuild ↔
      names ≠ [] ∧
        (∃ content changed,
          tree.root.at? (directory.names ++ names) = some (.file content changed)) ∧
        ∀ above ∈ names.dropLast, Walk.isPruned excluded skipBuild above = false := by
  obtain ⟨children, leads⟩ := searched.entry
  rw [Walk.relativeFiles, leads, Entry.at?_append, at?_of_entry searched.plain leads,
    Option.bind_some, Walk.mem_ofEntry_iff (searched.lawful _ leads)]
  have file : (∃ file, (Entry.directory children).at? names = some file ∧ file.isFile = true) ↔
      ∃ content changed, (Entry.directory children).at? names = some (.file content changed) := by
    constructor
    · rintro ⟨file, there, isFile⟩
      cases file with
      | directory others => cases isFile
      | file content changed => exact ⟨content, changed, there⟩
    · rintro ⟨content, changed, there⟩
      exact ⟨_, there, rfl⟩
  rw [file]

/-- What a walk visits are files that are there. -/
theorem Searched.lists (searched : Searched tree directory) {excluded : List Text}
    {skipBuild : Bool} (visited : names ∈ Walk.relativeFiles tree directory excluded skipBuild) :
    ∃ content changed,
      tree.Lists (textBelow directory names) (directory.names ++ names) content changed := by
  obtain ⟨nonempty, named⟩ := Walk.relativeFiles_named searched.lawful visited
  obtain ⟨_, ⟨content, changed, there⟩, _⟩ := searched.visited_iff.mp visited
  refine ⟨content, changed, by rw [textBelow, searched.root], by simp [nonempty], ?_, there⟩
  rw [List.forall_mem_append]
  exact ⟨searched.named, named⟩

/-! ## Files that match -/

/-- The globs of a request select a file by the names that lead to it. -/
def IsSelected (request : Request) (names : List Text) : Prop :=
  (Glob.Selection.ofTexts (globsOf request)).selects (List.intercalate ['/'] names) = true

/-- Names below a directory lead to a source file. -/
def IsSource (directory : Path) (names : List Text) : Prop :=
  Walk.isSourceName (Path.name { directory with names := directory.names ++ names }) = true

/-- The globs of a request select a file below a directory. -/
def Selects (request : Request) (directory : Path) (text : Text) : Prop :=
  ∃ names, names ≠ [] ∧ (∀ name ∈ names, isName name = true) ∧ text = textBelow directory names ∧
    (Glob.Selection.ofTexts (globsOf request)).selects (List.intercalate ['/'] names) = true

theorem mem_byGlob (searched : Searched tree directory) {globs excluded : List Text} :
    text ∈ Search.byGlob tree directory globs excluded ↔
      ∃ names ∈ Walk.relativeFiles tree directory excluded false,
        text = textBelow directory names ∧
          (Glob.Selection.ofTexts globs).selects (List.intercalate ['/'] names) = true := by
  rw [Search.mem_byGlob, searched.resolve]
  simp only [textBelow, searched.root]

theorem globsOf_isEmpty (request : Request) : (globsOf request).isEmpty = false := by
  rw [globsOf]
  split
  · rfl
  · next some => simpa using some

/-- Patterns find nothing that the globs do not find. -/
theorem matching_eq_byGlob (searched : Searched tree directory) {patterns excluded : List Text}
    {matched : List Text}
    (search : Search.matching tree directory (globsOf request) patterns excluded = .ok matched) :
    matched = Search.byGlob tree directory (globsOf request) excluded :=
  Search.matching_eq_byGlob (globsOf_isEmpty request) searched.checkBase search

/-- What a search that succeeds has found. -/
theorem findFiles_ok (found : findFiles settings request tree directory = .ok files) :
    Search.matching tree directory (globsOf request) request.patterns settings.excluded =
        .ok files.matched ∧
      (files.referencing = [] ∨ ∃ references,
        Import.references tree (files.matched.map Path.ofText) directory (depthOf settings request)
          settings.excluded = .ok references ∧
        files.referencing = Import.referencing references) := by
  rw [findFiles] at found
  cases search : Search.find tree directory (globsOf request) request.patterns
      settings.excluded with
  | error why =>
      simp only [search, throw, throwThe, MonadExceptOf.throw, bind, Except.bind] at found
      cases found
  | ok matched =>
      simp only [search, bind, Except.bind, pure, Except.pure] at found
      split at found
      · cases found
        exact ⟨Search.matching_of_find search, Or.inl rfl⟩
      · split at found
        · next references followed =>
            cases found
            exact ⟨Search.matching_of_find search, Or.inr ⟨references, followed, rfl⟩⟩
        · cases found

/-- The files that have matched are those that a walk visits and the globs select. -/
theorem mem_matched (searched : Searched tree directory)
    (found : findFiles settings request tree directory = .ok files) :
    text ∈ files.matched ↔
      ∃ names ∈ Walk.relativeFiles tree directory settings.excluded false,
        text = textBelow directory names ∧
          (Glob.Selection.ofTexts (globsOf request)).selects (List.intercalate ['/'] names) =
            true := by
  rw [matching_eq_byGlob searched (findFiles_ok found).1, mem_byGlob searched]

/-! ## Files that refer to others -/

/-- What is recorded beyond the targets is a source. -/
theorem mem_addLevels {sources : List Import.Source} {greatest : Int} {fuel depth : Nat}
    {references : List Import.Reference} {reference : Import.Reference}
    (member : reference ∈ Import.addLevels sources greatest fuel depth references) :
    reference ∈ references ∨ ∃ source ∈ sources, source.file = reference.file := by
  induction fuel generalizing depth references with
  | zero => exact Or.inl member
  | succ fuel inductionHypothesis =>
      rw [Import.addLevels] at member
      split at member
      · split at member
        · exact Or.inl member
        · rcases inductionHypothesis member with known | source
          · rcases List.mem_append.mp known with old | new
            · exact Or.inl old
            · obtain ⟨source, met, _, _, rfl⟩ := Import.mem_nextLevel.mp new
              exact Or.inr ⟨source, met, rfl⟩
          · exact Or.inr source
      · exact Or.inl member

theorem targets_depth {asked : List Path} {reference : Import.Reference}
    (member : reference ∈ Import.targets tree asked) : reference.depth = 0 := by
  obtain ⟨_, _, rfl⟩ := Import.mem_targets.mp member
  rfl

/-- The files that have matched are the targets. -/
theorem mem_targets_matched (searched : Searched tree directory)
    (found : findFiles settings request tree directory = .ok files) :
    text ∈ Import.tracked (Import.targets tree (files.matched.map Path.ofText)) ↔
      text ∈ files.matched := by
  have resolved : ∀ file ∈ files.matched,
      (Path.resolve tree.current (Path.ofText file)).text = file := by
    intro file member
    obtain ⟨names, visited, rfl, _⟩ := (mem_matched searched found).mp member
    obtain ⟨content, changed, lists⟩ := searched.lists visited
    have plain : Plain ({ names := directory.names ++ names } : Path) :=
      plain_of_named rfl lists.named
    have joined : tree.current.join { names := directory.names ++ names } =
        { names := directory.names ++ names } := by
      rw [Path.join, if_pos plain.rooted]
    rw [lists.ofText_eq, Path.resolve, joined, normalize_plain plain, textBelow, searched.root]
  rw [Import.mem_tracked]
  constructor
  · rintro ⟨reference, member, rfl⟩
    obtain ⟨path, listed, rfl⟩ := Import.mem_targets.mp member
    obtain ⟨file, matched, rfl⟩ := List.mem_map.mp listed
    dsimp only
    rw [resolved file matched]
    exact matched
  · intro matched
    exact ⟨_, Import.mem_targets.mpr ⟨_, List.mem_map_of_mem matched, rfl⟩, resolved text matched⟩

section Followed

variable {asked : List Path} {greatest : Int} {excluded : List Text}
  {references : List Import.Reference}
  (followed : Import.references tree asked directory greatest excluded = .ok references)

include followed

/-- No file is recorded twice. -/
theorem tracked_nodup (lawful : Walk.LawfulAt tree (Import.Resolver.start tree directory).root) :
    (Import.tracked references).Nodup := by
  rcases Import.references_ok followed with rfl | ⟨sources, sourceFiles, rfl⟩
  · exact Import.targets_nodup
  · refine Import.nodup_addLevels ?_ _ _ Import.targets_nodup
    rw [sourceFiles]
    exact (Import.projectFiles_text_nodup lawful).sublist (List.filter_sublist.map Path.text)

/-- What is recorded beyond the targets is a file that has been walked. -/
theorem exists_walked_of_deep {reference : Import.Reference} (recorded : reference ∈ references)
    (deep : 0 < reference.depth) :
    ∃ path ∈ Import.walkedFiles tree asked directory excluded, path.text = reference.file := by
  have notTarget : reference ∉ Import.targets tree asked := fun target => by
    rw [targets_depth target] at deep
    cases deep
  rcases Import.references_ok followed with rfl | ⟨sources, sourceFiles, rfl⟩
  · exact absurd recorded notTarget
  · rcases mem_addLevels recorded with target | ⟨source, met, same⟩
    · exact absurd target notTarget
    · have walked := List.mem_map_of_mem (f := Import.Source.file) met
      rw [sourceFiles, same] at walked
      exact List.mem_map.mp walked

end Followed

/-- The files that refer to others are sorted, have not matched themselves, and are files
that a walk visits. -/
theorem referencing_facts (searched : Searched tree directory)
    (found : findFiles settings request tree directory = .ok files) :
    Text.Ascending files.referencing ∧ ∀ text ∈ files.referencing, text ∉ files.matched ∧
      ∃ names ∈ Walk.relativeFiles tree directory settings.excluded true,
        text = textBelow directory names ∧ IsSource directory names := by
  have root : (Import.Resolver.start tree directory).root = directory := searched.resolve _
  rcases (findFiles_ok found).2 with nothing | ⟨references, followed, listed⟩
  · rw [nothing]
    exact ⟨List.Pairwise.nil, fun text member => absurd member List.not_mem_nil⟩
  rw [listed, Import.referencing]
  constructor
  · refine List.Pairwise.and (Text.pairwise_sort _) ((List.mergeSort_perm _ _).nodup_iff.mpr ?_)
    have once := tracked_nodup followed (by rw [root]; exact searched.lawful)
    exact once.sublist (List.filter_sublist.map Import.Reference.file)
  · intro text member
    obtain ⟨reference, filtered, rfl⟩ := List.mem_map.mp (Text.mem_sort.mp member)
    obtain ⟨recorded, deep⟩ := List.mem_filter.mp filtered
    obtain ⟨path, walked, text⟩ := exists_walked_of_deep followed recorded (by simpa using deep)
    obtain ⟨project, fresh⟩ := Import.mem_walkedFiles.mp walked
    rw [mem_targets_matched searched found, text] at fresh
    have source := Import.isSourceName_of_mem_projectFiles project
    obtain ⟨names, visited, rfl⟩ := Import.mem_projectFiles project
    rw [root] at visited text source
    exact ⟨fresh, names, visited, text.symm, source⟩

/-! ## The set of the files -/

/-- Every file of a bundle is a file that a walk visits: the globs select it, or it is a source
file. -/
theorem visited_of_mem_all (searched : Searched tree directory)
    (found : findFiles settings request tree directory = .ok files) (member : text ∈ files.all) :
    ∃ names ∈ Walk.relativeFiles tree directory settings.excluded false,
      text = textBelow directory names ∧ (IsSelected request names ∨ IsSource directory names) := by
  rcases List.mem_append.mp member with matched | refers
  · obtain ⟨names, visited, same, selected⟩ := (mem_matched searched found).mp matched
    exact ⟨names, visited, same, Or.inl selected⟩
  · obtain ⟨_, names, visited, same, source⟩ := (referencing_facts searched found).2 text refers
    exact ⟨names, Walk.relativeFiles_mono visited, same, Or.inr source⟩

/-- The files of a bundle are there. -/
theorem lists_of_mem_all (searched : Searched tree directory)
    (found : findFiles settings request tree directory = .ok files) (member : text ∈ files.all) :
    ∃ names content changed, tree.Lists text (directory.names ++ names) content changed := by
  obtain ⟨names, visited, rfl, _⟩ := visited_of_mem_all searched found member
  exact ⟨names, searched.lists visited⟩

/-- A file of a bundle has matched exactly if the globs of the request select it. -/
theorem mem_matched_iff (searched : Searched tree directory)
    (found : findFiles settings request tree directory = .ok files) :
    text ∈ files.matched ↔ text ∈ files.all ∧ Selects request directory text := by
  constructor
  · intro matched
    obtain ⟨names, visited, same, selected⟩ := (mem_matched searched found).mp matched
    obtain ⟨nonempty, named⟩ := Walk.relativeFiles_named searched.lawful visited
    exact ⟨List.mem_append_left _ matched, names, nonempty, named, same, selected⟩
  · rintro ⟨member, names, nonempty, named, same, selected⟩
    obtain ⟨others, visited, text, _⟩ := visited_of_mem_all searched found member
    obtain ⟨othersNonempty, othersNamed⟩ := Walk.relativeFiles_named searched.lawful visited
    have equal : names = others :=
      Path.below_text_injective directory nonempty othersNonempty named othersNamed
        (same.symm.trans text)
    exact (mem_matched searched found).mpr ⟨others, visited, text, equal ▸ selected⟩

theorem mem_referencing_iff (searched : Searched tree directory)
    (found : findFiles settings request tree directory = .ok files) :
    text ∈ files.referencing ↔ text ∈ files.all ∧ text ∉ files.matched := by
  constructor
  · intro refers
    exact ⟨List.mem_append_right _ refers, ((referencing_facts searched found).2 text refers).1⟩
  · rintro ⟨member, unmatched⟩
    exact (List.mem_append.mp member).resolve_left unmatched

theorem globsOf_perm {left right : Request} (permutation : left.globs.Perm right.globs) :
    (globsOf left).Perm (globsOf right) := by
  rw [globsOf, globsOf, permutation.isEmpty_eq]
  split
  · exact List.Perm.refl _
  · exact permutation

section Twice

variable {otherRequest : Request} {otherTree : Tree} {otherFiles : Files}
  (searched : Searched tree directory) (otherSearched : Searched otherTree directory)
  (found : findFiles settings request tree directory = .ok files)
  (otherFound : findFiles settings otherRequest otherTree directory = .ok otherFiles)
  (globs : request.globs.Perm otherRequest.globs)
  (sameFiles : ∀ text, text ∈ files.all ↔ text ∈ otherFiles.all)

include searched otherSearched found otherFound globs sameFiles

/-- Two searches that find the same set of files have found the same files. -/
theorem found_eq :
    files.matched = otherFiles.matched ∧ files.referencing = otherFiles.referencing := by
  have sameMatched : ∀ text, text ∈ files.matched ↔ text ∈ otherFiles.matched := by
    intro text
    have selected : Selects request directory text ↔ Selects otherRequest directory text := by
      simp only [Selects, Search.selects_perm (globsOf_perm globs)]
    rw [mem_matched_iff searched found, mem_matched_iff otherSearched otherFound, sameFiles, selected]
  constructor
  · rw [matching_eq_byGlob searched (findFiles_ok found).1,
      matching_eq_byGlob otherSearched (findFiles_ok otherFound).1]
    apply (Search.ascending_byGlob _ _ _ _).eq_of_mem_iff (Search.ascending_byGlob _ _ _ _)
    intro text
    have member := sameMatched text
    rwa [matching_eq_byGlob searched (findFiles_ok found).1,
      matching_eq_byGlob otherSearched (findFiles_ok otherFound).1] at member
  · apply (referencing_facts searched found).1.eq_of_mem_iff
      (referencing_facts otherSearched otherFound).1
    intro text
    rw [mem_referencing_iff searched found, mem_referencing_iff otherSearched otherFound, sameFiles,
      sameMatched]

/-- If their texts are the same as well, the contents differ in the description file and
the time at most. -/
theorem contentOf_eq (environment otherEnvironment : Environment)
    (sameTexts : ∀ text ∈ files.all,
      tree.readText (Path.ofText text) = otherTree.readText (Path.ofText text)) :
    contentOf environment tree directory files =
      { contentOf otherEnvironment otherTree directory otherFiles with
        generated := environment.now
        readme := readmeOf tree directory } := by
  obtain ⟨sameMatched, sameReferencing⟩ :=
    found_eq searched otherSearched found otherFound globs sameFiles
  have outlines : ∀ text ∈ files.all, Item.mk text (Outline.ofFile tree (Path.ofText text)) =
      ⟨text, Outline.ofFile otherTree (Path.ofText text)⟩ := by
    intro text member
    rw [Outline.ofFile, Outline.ofFile, sameTexts text member]
  rw [contentOf, contentOf, searched.resolve, otherSearched.resolve, ← sameMatched,
    ← sameReferencing]
  dsimp only
  congr 1
  · exact List.map_congr_left fun text member => outlines text (List.mem_append_left _ member)
  · exact List.map_congr_left fun text member => outlines text (List.mem_append_right _ member)

end Twice

/-! ## The subject of a bundle -/

/-- What the bundle for some files is kept for. -/
def subjectOf (settings : Settings) (request : Request) (tree : Tree) (directory : Path)
    (files : Files) : Cache.Subject :=
  .now tree (cacheRequest settings request tree directory) files.all

/-- In two trees files at the same place with the same time hold the same. -/
def Consistent (left right : Tree) (names : List Text) : Prop :=
  ∀ content other changed, left.root.at? names = some (.file content changed) →
    right.root.at? names = some (.file other changed) → content = other

/-- Bundles with alike subjects differ in the description file and the time at most. -/
theorem contentOf_of_alike {otherRequest : Request} {otherTree : Tree} {otherFiles : Files}
    (searched : Searched tree directory) (otherSearched : Searched otherTree directory)
    (found : findFiles settings request tree directory = .ok files)
    (otherFound : findFiles settings otherRequest otherTree directory = .ok otherFiles)
    (alike : (subjectOf settings request tree directory files).Alike
      (subjectOf settings otherRequest otherTree directory otherFiles))
    (consistent : ∀ names, Consistent tree otherTree (directory.names ++ names))
    (environment otherEnvironment : Environment) :
    contentOf environment tree directory files =
      { contentOf otherEnvironment otherTree directory otherFiles with
        generated := environment.now
        readme := readmeOf tree directory } := by
  obtain ⟨⟨_, globs, _, _⟩, into, back, times⟩ := alike
  refine contentOf_eq searched otherSearched found otherFound globs
    (fun text => ⟨into text, back text⟩) environment otherEnvironment fun text member => ?_
  obtain ⟨names, content, changed, lists⟩ := lists_of_mem_all searched found member
  obtain ⟨others, other, otherChanged, otherLists⟩ :=
    lists_of_mem_all otherSearched otherFound (into text member)
  have otherMember : text ∈ otherFiles.all := into text member
  have time : Cache.recordedTime (Cache.timesOf tree files.all) text =
      Cache.recordedTime (Cache.timesOf otherTree otherFiles.all) text := times text member
  rw [Cache.recordedTime_timesOf member, Cache.recordedTime_timesOf otherMember,
    Cache.timeOf_of_lists lists, Cache.timeOf_of_lists otherLists] at time
  have place : directory.names ++ others = directory.names ++ names := by
    have same := lists.ofText_eq.symm.trans otherLists.ofText_eq
    exact (congrArg Path.names same).symm
  have same : content = other :=
    consistent names content other changed lists.there (time ▸ place ▸ otherLists.there)
  rw [lists.readText, otherLists.readText, same]

end Bundle
end Codemap
