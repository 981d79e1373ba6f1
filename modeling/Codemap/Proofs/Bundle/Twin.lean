import Codemap.Proofs.Bundle.Found

namespace Codemap
namespace Bundle

/-!
# Describing directories past hidden files

If a search of a directory does not come upon hidden files, it finds the same files in trees
that differ in hidden files only, and their outlines are the same, so the bundle is the same.
If the directory of the hidden files has been made in the meantime, finding files may meet a
name that is too long; otherwise this holds too.
-/

open Codemap.Tree

variable {settings : Settings} {request : Request} {left right : Tree} {directory : Path}
  {files : Files} {place names : List Text} {hidden : Text → Bool} {text : Text}

/-- A fault because of a name that is too long. -/
def Fault.IsLong (why : Fault) : Prop :=
  ∃ fault : Import.ResolveFault, fault.IsLong ∧ why = .imports fault

/-! ## Directories in which hidden files are not seen -/

/-- Nobody who searches a directory comes upon hidden files: walks do not get to them or the
globs do not select them, and walks get to no file that is spelt like a hidden source file. -/
structure Unseen (place : List Text) (hidden : Text → Bool) (settings : Settings)
    (request : Request) (tree : Tree) (directory : Path) : Prop where
  unselected : ∀ name rest, hidden name = true → directory.names ++ rest = place ++ [name] →
    (∀ above ∈ rest.dropLast, Walk.isPruned settings.excluded false above = false) →
      ¬ IsSelected request rest
  unspelt : ∀ name, hidden name = true → ∀ ending ∈ Walk.sourceSuffixes, ∀ rest,
    directory.names ++ rest = place ++ [name ++ ending] →
      (∀ above ∈ rest.dropLast, Walk.isPruned settings.excluded false above = false) →
        ∀ content changed,
          tree.root.at? (directory.names ++ rest) ≠ some (.file content changed)

/-- Hidden files lie apart from a directory that is clear of them. -/
theorem unseen_of_clear (searched : Searched left directory)
    (clear : Clear place hidden directory.names) (settings : Settings) (request : Request) :
    Unseen place hidden settings request left directory where
  unselected := by
    intro name rest isHidden names _ _
    have upon : directory.names <+: place ++ [name] := ⟨rest, names⟩
    rcases List.prefix_concat_iff.mp upon with same | above
    · exact clear.notBelow name isHidden (same ▸ List.prefix_refl _)
    · exact clear.notAbove above
  unspelt := by
    intro name _ ending _ rest names _ content changed found
    have upon : directory.names <+: place ++ [name ++ ending] := ⟨rest, names⟩
    rcases List.prefix_concat_iff.mp upon with same | above
    · obtain ⟨children, directory⟩ := searched.found
      rw [names, ← same, directory] at found
      cases found
    · exact clear.notAbove above

/-- Nor are hidden files seen below a directory that walks do not enter. -/
theorem unseen_of_pruned {way : List Text} (below : directory.names ++ way = place)
    (pruned : ∃ name ∈ way, Walk.isPruned settings.excluded false name = true) (request : Request)
    (tree : Tree) : Unseen place hidden settings request tree directory := by
  obtain ⟨closed, member, pruned⟩ := pruned
  have barred {last : Text} {rest : List Text} (names : directory.names ++ rest = place ++ [last])
      (free : ∀ above ∈ rest.dropLast, Walk.isPruned settings.excluded false above = false) :
      False := by
    rw [← below, List.append_assoc] at names
    rw [List.append_cancel_left names, List.dropLast_concat] at free
    rw [free closed member] at pruned
    cases pruned
  exact ⟨fun _ _ _ names free => (barred names free).elim,
    fun _ _ _ _ _ names free => (barred names free).elim⟩

/-- No source file is hidden. -/
theorem not_isSource_of_hidden (overlooks : Import.Overlooks hidden) {name : Text}
    {rest : List Text} (isHidden : hidden name = true)
    (names : directory.names ++ rest = place ++ [name]) : ¬ IsSource directory rest := by
  intro source
  have last : Path.name { directory with names := directory.names ++ rest } = name := by
    rw [Path.name, names]
    simp
  rw [IsSource, last, Walk.isSourceName, Text.endsWithAny, List.any_eq_true] at source
  obtain ⟨ending, listed, ends⟩ := source
  obtain ⟨stem, rfl⟩ := List.isSuffixOf_iff_suffix.mp ends
  rw [overlooks.source stem ending listed] at isHidden
  cases isHidden

/-- What is not seen in a tree is not seen after it has grown. -/
theorem Unseen.of_grown {mayMake : Prop} (grown : Grown mayMake place hidden left right)
    (overlooks : Import.Overlooks hidden)
    (unseen : Unseen place hidden settings request left directory) :
    Unseen place hidden settings request right directory where
  unselected := unseen.unselected
  unspelt := by
    intro name isHidden ending listed rest names free content changed there
    refine unseen.unspelt name isHidden ending listed rest names free content changed
      ((grown.file_iff fun other otherHidden same => ?_).mp there)
    rw [names] at same
    have last := (List.cons.inj (List.append_cancel_left same)).1
    rw [← last, overlooks.source name ending listed] at otherHidden
    cases otherHidden

/-- No description file has the name of a cache entry. -/
theorem readmeNames_shown : ∀ name ∈ readmeNames, Cache.isEntryName name = false := by
  decide

theorem contentNotices_congr {files : List Text} (patterns : List Text)
    (same : ∀ text ∈ files,
      left.readText (Path.ofText text) = right.readText (Path.ofText text)) :
    Search.contentNotices left files patterns = Search.contentNotices right files patterns := by
  rw [Search.contentNotices, Search.contentNotices]
  dsimp only
  split
  · rfl
  · congr 1
    split
    · rfl
    · apply List.filterMap_congr
      intro text member
      rw [same text member]

section Directory

variable {mayMake : Prop} (grown : Grown mayMake place hidden left right)
  (searched : Searched left directory) (again : Searched right directory)

include grown searched again

/-- As far as a walk keeps no hidden files, it visits the same files. -/
theorem filter_relativeFiles_eq {excluded : List Text} {skipBuild : Bool} {keep : List Text → Bool}
    (leaves : ∀ name rest, hidden name = true → directory.names ++ rest = place ++ [name] →
      (∀ above ∈ rest.dropLast, Walk.isPruned excluded skipBuild above = false) →
        keep rest = false) :
    (Walk.relativeFiles left directory excluded skipBuild).filter keep =
      (Walk.relativeFiles right directory excluded skipBuild).filter keep := by
  apply Walk.eq_of_precedes ((Walk.relativeFiles_ordered searched.lawful _ _).filter _)
    ((Walk.relativeFiles_ordered again.lawful _ _).filter _)
  intro names
  rw [List.mem_filter, List.mem_filter, searched.visited_iff, again.visited_iff]
  have same (kept : keep names = true)
      (free : ∀ above ∈ names.dropLast, Walk.isPruned excluded skipBuild above = false)
      (content : Bytes) (changed : Int) :
      right.root.at? (directory.names ++ names) = some (.file content changed) ↔
        left.root.at? (directory.names ++ names) = some (.file content changed) := by
    refine grown.file_iff fun name isHidden there => ?_
    rw [leaves name names isHidden there free] at kept
    cases kept
  constructor
  · rintro ⟨⟨nonempty, ⟨content, changed, there⟩, free⟩, kept⟩
    exact ⟨⟨nonempty, ⟨content, changed, (same kept free _ _).mpr there⟩, free⟩, kept⟩
  · rintro ⟨⟨nonempty, ⟨content, changed, there⟩, free⟩, kept⟩
    exact ⟨⟨nonempty, ⟨content, changed, (same kept free _ _).mp there⟩, free⟩, kept⟩

/-- The same source files are met. -/
theorem projectFiles_eq (overlooks : Import.Overlooks hidden) (excluded : List Text) :
    Import.projectFiles right directory excluded = Import.projectFiles left directory excluded := by
  have project (tree : Tree) (there : Searched tree directory) :
      Import.projectFiles tree directory excluded =
        ((Walk.relativeFiles tree directory excluded true).filter fun names =>
          Walk.isSourceName (Path.name { directory with names := directory.names ++ names })).map
            fun names => { directory with names := directory.names ++ names } := by
    rw [Import.projectFiles, Import.Resolver.start, Walk.sourceFiles, Walk.files, there.resolve,
      List.filter_map]
    rfl
  rw [project left searched, project right again,
    filter_relativeFiles_eq grown searched again fun name rest isHidden names _ =>
      Bool.eq_false_iff.mpr (not_isSource_of_hidden overlooks isHidden names)]

variable (overlooks : Import.Overlooks hidden)
  (unseen : Unseen place hidden settings request left directory)

omit grown again in
include overlooks unseen in
/-- What a search keeps spells no hidden file. -/
theorem followed_of_visited {skipBuild : Bool}
    (visited : names ∈ Walk.relativeFiles left directory settings.excluded skipBuild)
    (kept : IsSelected request names ∨ IsSource directory names) :
    Import.Followed place hidden { directory with names := directory.names ++ names } := by
  obtain ⟨content, changed, lists⟩ := searched.lists visited
  obtain ⟨_, _, free⟩ := searched.visited_iff.mp visited
  have entered : ∀ above ∈ names.dropLast, Walk.isPruned settings.excluded false above = false := by
    intro above member
    cases skipBuild with
    | false => exact free above member
    | true => exact Walk.isPruned_mono (free above member)
  have plain : Plain { directory with names := directory.names ++ names } :=
    plain_of_named searched.rooted lists.named
  refine ⟨plain, ⟨searched.rooted, fun name member => isSegment_of_isName (lists.named name member)⟩,
    ?_⟩
  rintro ⟨_, name, ending, isHidden, rfl | listed, spelt⟩
  · rw [List.append_nil] at spelt
    rcases kept with selected | source
    · exact unseen.unselected name names isHidden spelt entered selected
    · exact not_isSource_of_hidden overlooks isHidden spelt source
  · exact unseen.unspelt name isHidden ending listed names spelt entered content changed lists.there

omit again in
include overlooks unseen in
/-- What a search keeps stands in the other tree as well. -/
theorem lists_right {skipBuild : Bool}
    (visited : names ∈ Walk.relativeFiles left directory settings.excluded skipBuild)
    (kept : IsSelected request names ∨ IsSource directory names) {content : Bytes} {changed : Int}
    (lists : left.Lists text (directory.names ++ names) content changed) :
    right.Lists text (directory.names ++ names) content changed := by
  have followed := followed_of_visited searched overlooks unseen visited kept
  have seen := Import.visible_of_not_spelt followed.plain followed.legible followed.unspelt
  exact lists.of_at?_eq (((grown.file_iff seen.seen).mpr lists.there).trans lists.there.symm)

include unseen in
theorem byGlob_eq : Search.byGlob left directory (globsOf request) settings.excluded =
    Search.byGlob right directory (globsOf request) settings.excluded := by
  rw [Search.byGlob, Search.byGlob, searched.resolve, again.resolve]
  dsimp only
  rw [filter_relativeFiles_eq grown searched again fun name rest isHidden names free =>
    Bool.eq_false_iff.mpr (unseen.unselected name rest isHidden names free)]

omit again in
include overlooks unseen in
theorem readText_eq
    (member : text ∈ Search.byGlob left directory (globsOf request) settings.excluded) :
    left.readText (Path.ofText text) = right.readText (Path.ofText text) := by
  obtain ⟨names, visited, rfl, selected⟩ := (mem_byGlob searched).mp member
  obtain ⟨content, changed, lists⟩ := searched.lists visited
  rw [lists.readText,
    (lists_right grown searched overlooks unseen visited (Or.inl selected) lists).readText]

include overlooks unseen

theorem byContent_eq (patterns : List Text) :
    Search.byContent left
        (Search.byGlob left directory (globsOf request) settings.excluded) patterns =
      Search.byContent right
        (Search.byGlob right directory (globsOf request) settings.excluded) patterns := by
  rw [← byGlob_eq grown searched again unseen, Search.byContent, Search.byContent]
  have filtered (nodes : List Pattern.Node) :
      (Search.byGlob left directory (globsOf request) settings.excluded).filter
          (Search.contains left nodes) =
        (Search.byGlob left directory (globsOf request) settings.excluded).filter
          (Search.contains right nodes) := by
    apply List.filter_congr
    intro text member
    rw [Search.contains, Search.contains, readText_eq grown searched overlooks unseen member]
  simp only [filtered]

theorem find_twin (patterns : List Text) :
    Search.find left directory (globsOf request) patterns settings.excluded =
      Search.find right directory (globsOf request) patterns settings.excluded := by
  have some := globsOf_isEmpty request
  cases deep : Glob.Selection.isTooDeep (globsOf request) with
  | true =>
      rw [Search.find_of_tooDeep searched.checkBase deep, Search.find_of_tooDeep again.checkBase deep]
  | false =>
      rw [Search.find_eq_matching deep, Search.find_eq_matching deep,
        Search.matching_eq searched.checkBase, Search.matching_eq again.checkBase,
        Search.candidates, Search.candidates]
      simp only [some, Bool.false_eq_true, if_false]
      rw [byContent_eq grown searched again overlooks unseen, byGlob_eq grown searched again unseen]

theorem notices_eq (patterns : List Text) :
    Search.notices left directory (globsOf request) patterns settings.excluded =
      Search.notices right directory (globsOf request) patterns settings.excluded := by
  have some := globsOf_isEmpty request
  have reading : Search.contentNotices left
        (Search.byGlob left directory (globsOf request) settings.excluded) patterns =
      Search.contentNotices right
        (Search.byGlob right directory (globsOf request) settings.excluded) patterns := by
    rw [← byGlob_eq grown searched again unseen]
    exact contentNotices_congr patterns fun text member =>
      readText_eq grown searched overlooks unseen member
  rw [Search.notices, Search.notices, find_twin grown searched again overlooks unseen,
    searched.checkBase, again.checkBase]
  cases Search.find right directory (globsOf request) patterns settings.excluded with
  | error why => rfl
  | ok found => simp only [Search.candidates, some, Bool.false_eq_true, if_false, reading]

/-- The files of a bundle are found again. -/
theorem findFiles_repeats :
    Repeats mayMake Fault.IsLong Eq (findFiles settings request left directory)
      (findFiles settings request right directory) := by
  rw [findFiles, findFiles, ← find_twin grown searched again overlooks unseen,
    ← notices_eq grown searched again overlooks unseen]
  cases search : Search.find left directory (globsOf request) request.patterns
      settings.excluded with
  | error why => exact .error _
  | ok matched =>
      have asked : ∀ file ∈ matched.map Path.ofText,
          Import.Followed place hidden (Path.resolve left.current file) := by
        intro file listed
        obtain ⟨text, member, rfl⟩ := List.mem_map.mp listed
        rw [matching_eq_byGlob searched (Search.matching_of_find search)] at member
        obtain ⟨names, visited, rfl, selected⟩ := (mem_byGlob searched).mp member
        obtain ⟨content, changed, lists⟩ := searched.lists visited
        have followed := followed_of_visited searched overlooks unseen visited (Or.inl selected)
        have joined : left.current.join { names := directory.names ++ names } =
            { names := directory.names ++ names } := by
          rw [Path.join, if_pos]
          rfl
        rw [lists.ofText_eq, Path.resolve, joined, normalize_plain (plain_of_named rfl lists.named)]
        rwa [searched.root] at followed
      have walked : ∀ path ∈ Import.projectFiles left directory settings.excluded,
          Import.Followed place hidden path := by
        intro path member
        have source := Import.isSourceName_of_mem_projectFiles member
        obtain ⟨names, visited, rfl⟩ := Import.mem_projectFiles member
        have root : (Import.Resolver.start left directory).root = directory := searched.resolve _
        rw [root] at visited source ⊢
        exact followed_of_visited searched overlooks unseen visited (Or.inr source)
      have followed := Import.references_repeat grown overlooks (depthOf settings request)
        settings.excluded (projectFiles_eq grown searched again overlooks settings.excluded) walked
        asked
      simp only [bind, Except.bind, pure, Except.pure]
      split
      · exact .ok rfl
      · generalize Import.references left (matched.map Path.ofText) directory
          (depthOf settings request) settings.excluded = early at followed
        generalize Import.references right (matched.map Path.ofText) directory
          (depthOf settings request) settings.excluded = late at followed
        cases followed with
        | ok repeated =>
            subst repeated
            exact .ok rfl
        | error why => exact .error _
        | tooLong allowed long => exact .tooLong allowed ⟨_, long, rfl⟩

omit again

/-- The files of a bundle are there in the other tree. -/
theorem lists_of_mem_all_right (found : findFiles settings request left directory = .ok files)
    (member : text ∈ files.all) :
    ∃ names content changed, left.Lists text names content changed ∧
      right.Lists text names content changed := by
  obtain ⟨names, visited, rfl, kept⟩ := visited_of_mem_all searched found member
  obtain ⟨content, changed, lists⟩ := searched.lists visited
  exact ⟨_, content, changed, lists,
    lists_right grown searched overlooks unseen visited kept lists⟩

/-- Files that are there have the same times. -/
theorem subjectOf_eq (found : findFiles settings request left directory = .ok files) :
    subjectOf settings request left directory files =
      subjectOf settings request right directory files := by
  have times : Cache.timesOf right files.all = Cache.timesOf left files.all := by
    apply Cache.timesOf_eq
    intro text member
    obtain ⟨names, content, changed, lists, listsAgain⟩ :=
      lists_of_mem_all_right grown searched overlooks unseen found member
    rw [Cache.timeOf_of_lists lists, Cache.timeOf_of_lists listsAgain]
  rw [subjectOf, subjectOf, Cache.Subject.now, Cache.Subject.now, times, cacheRequest, cacheRequest,
    grown.current]

omit overlooks unseen in
/-- The description file is no hidden file, so it is the same. -/
theorem readmeOf_grown (described : ∀ name ∈ readmeNames, hidden name = false) :
    readmeOf right directory = readmeOf left directory := by
  have visible : ∀ name ∈ readmeNames, Visible place hidden (directory.child name) :=
    fun name listed => searched.plain.visible_child
      ((by decide : ∀ name ∈ readmeNames, name ≠ upward) name listed) (described name listed)
  have paths : readmePath? right directory = readmePath? left directory := by
    apply List.find?_congr
    intro path member
    obtain ⟨name, listed, rfl⟩ := List.mem_map.mp member
    exact (grown.isFile (visible name listed)).symm
  rw [readmeOf, readmeOf, paths]
  cases chosen : readmePath? left directory with
  | none => rfl
  | some path =>
      obtain ⟨name, listed, rfl⟩ := List.mem_map.mp (List.mem_of_find?_eq_some chosen)
      have same := grown.readText (visible name listed)
      dsimp only
      generalize left.readText (directory.child name) = before at same
      generalize right.readText (directory.child name) = after at same
      cases before <;> cases after <;> cases same <;> rfl

/-- The content of a bundle is the same. -/
theorem contentOf_twin (described : ∀ name ∈ readmeNames, hidden name = false)
    (environment : Environment) (found : findFiles settings request left directory = .ok files) :
    contentOf environment left directory files = contentOf environment right directory files := by
  have outlines : ∀ text ∈ files.all, Item.mk text (Outline.ofFile left (Path.ofText text)) =
      ⟨text, Outline.ofFile right (Path.ofText text)⟩ := by
    intro text member
    obtain ⟨names, content, changed, lists, listsAgain⟩ :=
      lists_of_mem_all_right grown searched overlooks unseen found member
    rw [Outline.ofFile, Outline.ofFile, lists.readText, listsAgain.readText]
  rw [contentOf, contentOf, grown.current, readmeOf_grown grown searched described]
  congr 1
  · exact List.map_congr_left fun text member => outlines text (List.mem_append_left _ member)
  · exact List.map_congr_left fun text member => outlines text (List.mem_append_right _ member)

end Directory

/-- Past hidden files the files of a bundle are the same. -/
theorem findFiles_eq (twin : Twin place hidden left right) (searched : Searched left directory)
    (clear : Clear place hidden directory.names) (overlooks : Import.Overlooks hidden)
    (settings : Settings) (request : Request) :
    findFiles settings request left directory = findFiles settings request right directory :=
  ((findFiles_repeats twin searched (searched.of_at?_eq (twin.at?_eq clear).symm) overlooks
    (unseen_of_clear searched clear settings request)).eq False.elim).symm

end Bundle
end Codemap
