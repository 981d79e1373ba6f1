import Codemap.Search.Matching
import Codemap.Proofs.Cache.Key
import Codemap.Proofs.Files.Walk

namespace Codemap
namespace Search

/-!
# What a search finds

A search for globs finds exactly the files whose paths the globs select, as far as no
directory on the way to them is pruned.  Patterns look into the files that the globs
select, so beside globs they add nothing.  Neither the order of the globs nor that of the
patterns has any influence, so all requests that share a place in the cache find the same.
-/

open Codemap.Tree

variable {tree : Tree} {base root : Path} {globs patterns excluded : List Text}

/-! ## Reading patterns -/

/-- A pattern that is read or left out, because it is malformed at worst. -/
def Tolerated (text : Text) : Prop :=
  ∀ why, Pattern.Node.ofText options text = .error why → why = .malformed

instance (text : Text) : Decidable (Tolerated text) :=
  match read : Pattern.Node.ofText options text with
  | .ok _ => .isTrue (by simp [Tolerated, read])
  | .error why => decidable_of_iff (why = .malformed) (by simp [Tolerated, read])

/-- The patterns of a list that can be read. -/
def readable (patterns : List Text) : List Pattern.Node :=
  patterns.filterMap fun text => (Pattern.Node.ofText options text).toOption

/-- A pattern that is not tolerated is refused though it is not malformed. -/
theorem not_tolerated_iff {text : Text} : ¬ Tolerated text ↔
    ∃ fault, Pattern.Node.ofText options text = .error fault ∧ fault ≠ .malformed := by
  simp [Tolerated]

/-- Tolerated patterns in front of others are read or left out. -/
theorem readPatterns_append (tolerated : ∀ text ∈ patterns, Tolerated text) (others : List Text) :
    readPatterns (patterns ++ others) = (readPatterns others).map (readable patterns ++ ·) := by
  induction patterns with
  | nil => cases h : readPatterns others <;> simp [h, readable, Except.map]
  | cons text rest inductionHypothesis =>
      rw [List.forall_mem_cons] at tolerated
      rw [List.cons_append, readPatterns, readable, List.filterMap_cons,
        inductionHypothesis tolerated.2]
      cases read : Pattern.Node.ofText options text with
      | ok node => cases readPatterns others <;> rfl
      | error why =>
          cases tolerated.1 why read
          rfl

/-- Of tolerated patterns those are used that can be read. -/
theorem readPatterns_eq (tolerated : ∀ text ∈ patterns, Tolerated text) :
    readPatterns patterns = .ok (readable patterns) := by
  rw [← List.append_nil patterns, readPatterns_append tolerated]
  simp [readPatterns, Except.map]

/-- The first pattern of a list that is refused though it is not malformed, and its fault. -/
def Refuses (patterns : List Text) (why : Fault) : Prop :=
  ∃ before text after fault, patterns = before ++ text :: after ∧
    (∀ other ∈ before, Tolerated other) ∧
    Pattern.Node.ofText options text = .error fault ∧ fault ≠ .malformed ∧ why = .pattern fault

theorem Refuses.readPatterns {why : Fault} (refuses : Refuses patterns why) :
    readPatterns patterns = .error why := by
  obtain ⟨before, text, after, fault, rfl, tolerated, unread, notMalformed, rfl⟩ := refuses
  rw [readPatterns_append tolerated, Search.readPatterns, unread]
  cases fault with
  | malformed => exact absurd rfl notMalformed
  | _ => rfl

theorem exists_refuses {text : Text} (member : text ∈ patterns) (refused : ¬ Tolerated text) :
    ∃ why, Refuses patterns why := by
  induction patterns with
  | nil => cases member
  | cons first rest inductionHypothesis =>
      by_cases tolerated : Tolerated first
      · have later : text ∈ rest := by
          rcases List.mem_cons.mp member with rfl | later
          · exact absurd tolerated refused
          · exact later
        obtain ⟨why, before, other, after, fault, rfl, front, found⟩ := inductionHypothesis later
        exact ⟨why, first :: before, other, after, fault, rfl,
          List.forall_mem_cons.mpr ⟨tolerated, front⟩, found⟩
      · obtain ⟨fault, unread, notMalformed⟩ := not_tolerated_iff.mp tolerated
        exact ⟨_, [], first, rest, fault, rfl, List.forall_mem_nil _, unread, notMalformed, rfl⟩

/-- Patterns cannot be read exactly if one of them is refused though it is not malformed; the
first such pattern gives the fault. -/
theorem readPatterns_error_iff {why : Fault} :
    readPatterns patterns = .error why ↔ Refuses patterns why := by
  refine ⟨fun failed => ?_, Refuses.readPatterns⟩
  by_cases tolerated : ∀ text ∈ patterns, Tolerated text
  · rw [readPatterns_eq tolerated] at failed
    cases failed
  · push Not at tolerated
    obtain ⟨text, member, refused⟩ := tolerated
    obtain ⟨other, refuses⟩ := exists_refuses member refused
    rw [refuses.readPatterns] at failed
    exact Except.error.inj failed ▸ refuses

/-- Patterns cannot be read if one of them is not malformed and yet cannot be read. -/
theorem readPatterns_error {why : Fault} (failed : readPatterns patterns = .error why) :
    ∃ text ∈ patterns, ∃ fault, Pattern.Node.ofText options text = .error fault ∧
      fault ≠ .malformed ∧ why = .pattern fault := by
  obtain ⟨before, text, after, fault, rfl, -, found⟩ := readPatterns_error_iff.mp failed
  exact ⟨text, by simp, fault, found⟩

theorem readPatterns_of_unread {text : Text} {fault : Pattern.PatternFault}
    (member : text ∈ patterns) (unread : Pattern.Node.ofText options text = .error fault)
    (notMalformed : fault ≠ .malformed) : ∃ why, readPatterns patterns = .error why := by
  obtain ⟨why, refuses⟩ := exists_refuses member (not_tolerated_iff.mpr ⟨fault, unread, notMalformed⟩)
  exact ⟨why, refuses.readPatterns⟩

/-! ## Globs -/

/-- The order of the globs does not matter. -/
theorem selects_perm {left right : List Text} (permutation : left.Perm right) (path : Text) :
    (Glob.Selection.ofTexts left).selects path = (Glob.Selection.ofTexts right).selects path := by
  rw [Glob.Selection.selects, Glob.Selection.selects, Glob.Selection.ofTexts, Glob.Selection.ofTexts]
  dsimp only
  rw [(permutation.filterMap _).any_eq, (permutation.filterMap _).any_eq]

/-- What is found by globs are files that a walk visits. -/
theorem mem_byGlob {text : Text} : text ∈ byGlob tree base globs excluded ↔
    ∃ names ∈ Walk.relativeFiles tree (Path.resolve tree.current base) excluded false,
      text = Path.text { names := (Path.resolve tree.current base).names ++ names } ∧
        (Glob.Selection.ofTexts globs).selects (List.intercalate ['/'] names) = true := by
  rw [byGlob]
  dsimp only
  split
  · rw [Text.mem_sortedSet, List.mem_map]
    constructor
    · rintro ⟨names, member, rfl⟩
      obtain ⟨visited, selected⟩ := List.mem_filter.mp member
      exact ⟨names, visited, rfl, selected⟩
    · rintro ⟨names, visited, rfl, selected⟩
      exact ⟨names, List.mem_filter.mpr ⟨visited, selected⟩, rfl⟩
  · next unusable =>
      -- Without a usable glob nothing is selected.
      have none : (Glob.Selection.ofTexts globs).includes = [] := by
        simpa [Glob.Selection.isUsable] using unusable
      constructor
      · intro impossible
        cases impossible
      · rintro ⟨names, _, _, selected⟩
        simp [Glob.Selection.selects, none] at selected

theorem ascending_byGlob (tree : Tree) (base : Path) (globs excluded : List Text) :
    Text.Ascending (byGlob tree base globs excluded) := by
  rw [byGlob]
  dsimp only
  split
  · exact Text.ascending_sortedSet _
  · exact List.Pairwise.nil

theorem byGlob_perm {left right : List Text} (permutation : left.Perm right) (tree : Tree)
    (base : Path) (excluded : List Text) :
    byGlob tree base left excluded = byGlob tree base right excluded := by
  apply (ascending_byGlob tree base left excluded).eq_of_mem_iff
    (ascending_byGlob tree base right excluded)
  intro text
  simp only [mem_byGlob, selects_perm permutation]

theorem candidates_perm {left right : List Text} (permutation : left.Perm right) (tree : Tree)
    (root : Path) (excluded : List Text) :
    candidates tree root left excluded = candidates tree root right excluded := by
  rw [candidates, candidates, permutation.isEmpty_eq]
  split
  · rfl
  · exact byGlob_perm permutation tree root excluded

/-! ## Looking into files -/

/-- Tolerated patterns find the files that contain a match for one that can be read. -/
theorem byContent_eq (tolerated : ∀ text ∈ patterns, Tolerated text) (tree : Tree)
    (files : List Text) :
    byContent tree files patterns =
      .ok (Text.sortedSet (files.filter (contains tree (readable patterns)))) := by
  rw [byContent, readPatterns_eq tolerated]
  split
  · next none => simp [List.isEmpty_iff.mp none, Text.sortedSet, Text.sort]
  · rfl

/-- What contains a match is among the files that are looked into. -/
theorem mem_of_byContent {files found : List Text} (looked : byContent tree files patterns = .ok found)
    {text : Text} (member : text ∈ found) : text ∈ files := by
  rw [byContent] at looked
  split at looked
  · cases looked
    cases member
  · cases read : readPatterns patterns with
    | error why =>
        rw [read] at looked
        cases looked
    | ok nodes =>
        rw [read] at looked
        cases looked
        exact (List.mem_filter.mp (Text.mem_sortedSet.mp member)).1

theorem byContent_perm {left right : List Text} (permutation : left.Perm right)
    (tolerated : ∀ text ∈ left, Tolerated text) (tree : Tree) (files : List Text) :
    byContent tree files left = byContent tree files right := by
  have same (file : Text) :
      contains tree (readable left) file = contains tree (readable right) file := by
    rw [contains, contains, readable, readable]
    cases tree.readText (Path.ofText file) with
    | error why => rfl
    | ok text => exact (permutation.filterMap _).any_eq
  rw [byContent_eq tolerated,
    byContent_eq fun text member => tolerated text (permutation.mem_iff.mpr member), funext same]

/-! ## Searching below a directory -/

theorem checkBase_of_isDirectory (there : tree.isDirectory base = true) :
    checkBase tree base = .ok (Path.resolve tree.current base) := by
  rw [Tree.isDirectory] at there
  split at there
  · next entry found =>
      cases entry with
      | file content changed => cases there
      | directory children => rw [checkBase, Tree.status, found]
  · cases there

/-- A search below a directory that is there. -/
theorem matching_eq (there : checkBase tree base = .ok root) :
    matching tree base globs patterns excluded =
      (if patterns.isEmpty then .ok []
        else byContent tree (candidates tree root globs excluded) patterns).map fun found =>
          Text.sortedSet ((if globs.isEmpty then [] else byGlob tree root globs excluded) ++ found) := by
  rw [matching, there]
  by_cases unasked : patterns.isEmpty = true
  · simp [unasked, bind, Except.bind, pure, Except.pure, Except.map]
  · simp only [unasked, Bool.false_eq_true, if_false, bind, Except.bind]
    cases byContent tree (candidates tree root globs excluded) patterns <;> rfl

theorem matching_of_error {why : Fault} (fails : checkBase tree base = .error why) :
    matching tree base globs patterns excluded = .error why := by
  rw [matching, fails]
  rfl

/-- A search fails at its directory or, if there are files to look into, at a pattern. -/
theorem matching_error_iff {why : Fault} :
    matching tree base globs patterns excluded = .error why ↔
      checkBase tree base = .error why ∨
        ∃ root, checkBase tree base = .ok root ∧ candidates tree root globs excluded ≠ [] ∧
          readPatterns patterns = .error why := by
  cases there : checkBase tree base with
  | error other =>
      rw [matching_of_error there]
      constructor
      · intro failed
        cases failed
        exact Or.inl rfl
      · rintro (same | ⟨root, impossible, _⟩)
        · cases same
          rfl
        · cases impossible
  | ok root =>
      rw [matching_eq there]
      constructor
      · intro failed
        refine Or.inr ⟨root, rfl, ?_⟩
        by_cases unasked : patterns.isEmpty = true
        · rw [if_pos unasked] at failed
          cases failed
        rw [if_neg unasked, byContent] at failed
        by_cases unused : (candidates tree root globs excluded).isEmpty = true
        · rw [if_pos unused] at failed
          cases failed
        rw [if_neg unused] at failed
        refine ⟨by simpa using unused, ?_⟩
        cases read : readPatterns patterns with
        | ok nodes =>
            rw [read] at failed
            cases failed
        | error other =>
            rw [read] at failed
            cases failed
            rfl
      · rintro (impossible | ⟨_, same, unempty, unread⟩)
        · cases impossible
        cases same
        have asked : patterns.isEmpty = false := by
          cases patterns with
          | nil => cases unread
          | cons text rest => rfl
        simp [asked, byContent, unempty, unread, Except.map]

/-- With room for the globs there is nothing more to finding files. -/
theorem find_eq_matching (room : Glob.Selection.isTooDeep globs = false) :
    find tree base globs patterns excluded = matching tree base globs patterns excluded := by
  rw [find, room]
  cases there : checkBase tree base with
  | error why => exact (matching_of_error there).symm
  | ok root => rfl

theorem find_of_tooDeep (there : checkBase tree base = .ok root)
    (deep : Glob.Selection.isTooDeep globs = true) :
    find tree base globs patterns excluded = .error (.pattern .nestedTooDeeply) := by
  rw [find, there, deep]
  rfl

theorem find_of_error {why : Fault} (fails : checkBase tree base = .error why) :
    find tree base globs patterns excluded = .error why := by
  rw [find, fails]
  rfl

/-- What is found has been found with room for the globs. -/
theorem matching_of_find {found : List Text}
    (searched : find tree base globs patterns excluded = .ok found) :
    matching tree base globs patterns excluded = .ok found := by
  cases deep : Glob.Selection.isTooDeep globs with
  | false => rwa [find_eq_matching deep] at searched
  | true =>
      cases there : checkBase tree base with
      | error why =>
          rw [find_of_error there] at searched
          cases searched
      | ok root =>
          rw [find_of_tooDeep there deep] at searched
          cases searched

/-- Finding files fails at the directory, at a glob for which there is no room or, if there are
files to look into, at a pattern. -/
theorem find_error_iff {why : Fault} :
    find tree base globs patterns excluded = .error why ↔
      checkBase tree base = .error why ∨
        ∃ root, checkBase tree base = .ok root ∧
          if Glob.Selection.isTooDeep globs = true then why = .pattern .nestedTooDeeply
          else candidates tree root globs excluded ≠ [] ∧ readPatterns patterns = .error why := by
  cases deep : Glob.Selection.isTooDeep globs with
  | false =>
      rw [find_eq_matching deep, matching_error_iff]
      simp only [Bool.false_eq_true, if_false]
  | true =>
      simp only [if_true]
      cases there : checkBase tree base with
      | error other => simp [find_of_error there]
      | ok root => simp [find_of_tooDeep there deep, eq_comm]

/-- With tolerated patterns a search below a directory finds something. -/
theorem exists_matching (tolerated : ∀ text ∈ patterns, Tolerated text)
    (there : checkBase tree base = .ok root) :
    ∃ found, matching tree base globs patterns excluded = .ok found := by
  cases searched : matching tree base globs patterns excluded with
  | ok found => exact ⟨found, rfl⟩
  | error why =>
      rcases matching_error_iff.mp searched with missing | ⟨_, _, _, unread⟩
      · rw [there] at missing
        cases missing
      · rw [readPatterns_eq tolerated] at unread
        cases unread

/-- Beside globs patterns find nothing that the globs do not find. -/
theorem matching_eq_byGlob {found : List Text} (some : globs.isEmpty = false)
    (there : checkBase tree base = .ok root)
    (searched : matching tree base globs patterns excluded = .ok found) :
    found = byGlob tree root globs excluded := by
  rw [matching_eq there, candidates] at searched
  simp only [some, Bool.false_eq_true, if_false] at searched
  cases looked : (if patterns.isEmpty = true then .ok []
      else byContent tree (byGlob tree root globs excluded) patterns : Except Fault (List Text)) with
  | error why =>
      rw [looked] at searched
      cases searched
  | ok more =>
      rw [looked] at searched
      cases searched
      have within : ∀ text ∈ more, text ∈ byGlob tree root globs excluded := by
        intro text member
        split at looked
        · cases looked
          cases member
        · exact mem_of_byContent looked member
      apply (Text.ascending_sortedSet _).eq_of_mem_iff (ascending_byGlob tree root globs excluded)
      intro text
      rw [Text.mem_sortedSet, List.mem_append]
      exact ⟨fun member => member.elim id (within text), Or.inl⟩

/-! ## What is found -/

/-- Names that lead from a directory to a file below it, through no directory that is hidden,
holds dependencies, or is excluded. -/
structure Reaches (tree : Tree) (root : Path) (excluded names : List Text) : Prop where
  nonempty : names ≠ []
  file : ∃ content changed, tree.root.at? (root.names ++ names) = some (.file content changed)
  free : ∀ directory ∈ names.dropLast,
    ¬ ['.'] <+: directory ∧ directory ∉ Walk.dependencyDirectories ∧ directory ∉ excluded

/-- In a lawful tree they are names that a directory can give. -/
theorem Reaches.named {names : List Text} (reaches : Reaches tree root excluded names)
    (lawful : tree.Lawful) : ∀ name ∈ names, isName name = true := by
  obtain ⟨content, changed, there⟩ := reaches.file
  exact fun name member =>
    (Entry.isLawful_of_at? lawful there).1 name (List.mem_append_right _ member)

theorem isPruned_eq_false_iff {name : Text} : Walk.isPruned excluded false name = false ↔
    ¬ ['.'] <+: name ∧ name ∉ Walk.dependencyDirectories ∧ name ∉ excluded := by
  simp [Walk.isPruned, Bool.eq_false_iff, and_assoc]

/-- In a lawful tree a walk visits exactly the files that can be reached. -/
theorem mem_relativeFiles_iff (lawful : tree.Lawful) (plain : Plain root) {names : List Text} :
    names ∈ Walk.relativeFiles tree root excluded false ↔ Reaches tree root excluded names := by
  constructor
  · intro visited
    rw [Walk.relativeFiles] at visited
    split at visited
    · next entry found =>
        obtain ⟨nonempty, ⟨file, below, isFile⟩, free⟩ :=
          (Walk.mem_ofEntry_iff (Walk.isLawful_of_entry lawful found)).mp visited
        refine ⟨nonempty, ?_, fun directory above => isPruned_eq_false_iff.mp (free directory above)⟩
        rw [Entry.at?_append, at?_of_entry plain found, Option.bind_some, below]
        cases file with
        | file content changed => exact ⟨content, changed, rfl⟩
        | directory children => cases isFile
    · cases visited
  · rintro ⟨nonempty, ⟨content, changed, there⟩, free⟩
    have named := (Entry.isLawful_of_at? lawful there).1
    rw [Entry.at?_append] at there
    obtain ⟨entry, here, below⟩ := Option.bind_eq_some_iff.mp there
    have found : tree.entry root = .ok entry :=
      entry_of_at? plain.rooted (fun name member => named name (List.mem_append_left _ member)) here
    rw [Walk.relativeFiles, found]
    exact (Walk.mem_ofEntry_iff (Walk.isLawful_of_entry lawful found)).mpr
      ⟨nonempty, ⟨_, below, rfl⟩, fun directory above =>
        isPruned_eq_false_iff.mpr (free directory above)⟩

/-- A search by globs finds, in order and once each, the files that can be reached below the
directory and whose paths from there the globs select.  A search in the directory finds the
same if there are globs, whatever the patterns. -/
theorem byGlob_exact (lawful : tree.Lawful) (rooted : tree.current.isAbsolute = true)
    (base : Path) (globs excluded : List Text) :
    Text.Ascending (byGlob tree base globs excluded) ∧
    (∀ text, text ∈ byGlob tree base globs excluded ↔
      ∃ names, Reaches tree (Path.resolve tree.current base) excluded names ∧
        (Glob.Selection.ofTexts globs).selects (List.intercalate ['/'] names) = true ∧
        text = Path.text { names := (Path.resolve tree.current base).names ++ names }) ∧
    (globs ≠ [] → tree.isDirectory base = true →
      ∀ patterns, (∀ text ∈ patterns, Tolerated text) →
        matching tree base globs patterns excluded = .ok (byGlob tree base globs excluded)) := by
  refine ⟨ascending_byGlob tree base globs excluded, fun text => ?_,
    fun some there patterns tolerated => ?_⟩
  · simp only [mem_byGlob, mem_relativeFiles_iff lawful (plain_resolve rooted base)]
    constructor
    · rintro ⟨names, reaches, same, selected⟩
      exact ⟨names, reaches, selected, same⟩
    · rintro ⟨names, reaches, selected, same⟩
      exact ⟨names, reaches, same, selected⟩
  · have here := checkBase_of_isDirectory there
    obtain ⟨found, searched⟩ : ∃ found, matching tree base globs patterns excluded = .ok found :=
      exists_matching tolerated here
    have nonempty : globs.isEmpty = false := by simpa using some
    have again : byGlob tree (Path.resolve tree.current base) globs excluded =
        byGlob tree base globs excluded := by
      rw [byGlob, byGlob, resolve_resolve rooted]
    rw [searched, matching_eq_byGlob nonempty here searched, again]

/-- A project in which some directories are pruned. -/
def prunedTree : Tree where
  root := .directory
    [("srv".toList, .directory
      [(".git".toList, .directory [("a.py".toList, .file [] 0)]),
        ("lib".toList, .directory
          [("vendor".toList, .directory [("a.py".toList, .file [] 1)]),
            (".a.py".toList, .file (Utf8.encode "one = 1\n".toList) 2),
            ("b.py".toList, .file (Utf8.encode "two = 2\n".toList) 3)]),
        ("old".toList, .directory [("a.py".toList, .file [] 4)]),
        ("vendor".toList, .file [] 5)])]
  current := { names := ["srv".toList, "lib".toList] }

/-- A search from the directory above finds the hidden file, but nothing that is excluded. -/
theorem byGlob_prunedTree :
    prunedTree.Lawful ∧ prunedTree.current.isAbsolute = true ∧
      (∀ text ∈ ["two".toList, "(".toList], Tolerated text) ∧
      prunedTree.isDirectory { root := .relative, names := [upward] } = true ∧
      ∃ found,
        matching prunedTree { root := .relative, names := [upward] } ["**/*.py".toList]
            ["two".toList, "(".toList] ["old".toList] = .ok found ∧
          "/srv/lib/.a.py".toList ∈ found ∧ "/srv/old/a.py".toList ∉ found := by
  have tolerated : ∀ text ∈ ["two".toList, "(".toList], Tolerated text := by decide +kernel
  obtain ⟨_, members, found⟩ := byGlob_exact (by decide : prunedTree.Lawful) rfl
    { root := .relative, names := [upward] } ["**/*.py".toList] ["old".toList]
  have directory : prunedTree.isDirectory { root := .relative, names := [upward] } = true := by
    decide
  refine ⟨by decide, rfl, tolerated, directory, _, found (by decide) directory _ tolerated, ?_, ?_⟩
  · refine (members _).mpr ⟨["lib".toList, ".a.py".toList], ⟨by decide, ⟨_, _, rfl⟩, by decide⟩, ?_, ?_⟩
    · decide +kernel
    · decide
  · rintro member
    obtain ⟨names, reaches, _, same⟩ := (members _).mp member
    obtain rfl : names = ["old".toList, "a.py".toList] :=
      Path.below_text_injective { names := ["srv".toList] } reaches.nonempty (by decide)
        (reaches.named (by decide)) (by decide) same.symm
    exact (reaches.free "old".toList (by decide)).2.2 (by decide)

/-! ## The order of a request -/

/-- Requests that are described alike find the same files, so the one may be answered with
what is kept for the other. -/
theorem matching_eq_of_descriptor {left right : Cache.Request}
    (same : left.descriptor = right.descriptor)
    (tolerated : ∀ text ∈ left.patterns, Tolerated text) (tree : Tree) (base : Path)
    (excluded : List Text) :
    matching tree base left.globs left.patterns excluded =
        matching tree base right.globs right.patterns excluded ∧
      ∀ root, checkBase tree base = .ok root →
        ∃ found, matching tree base left.globs left.patterns excluded = .ok found := by
  obtain ⟨_, globs, patterns, _⟩ := Cache.Request.alike_of_descriptor (congrArg Json.sortKeys same)
  refine ⟨?_, fun root there => exists_matching tolerated there⟩
  cases there : checkBase tree base with
  | error why => rw [matching_of_error there, matching_of_error there]
  | ok root =>
      rw [matching_eq there, matching_eq there, patterns.isEmpty_eq, globs.isEmpty_eq,
        candidates_perm globs, byGlob_perm globs, byContent_perm patterns tolerated]

/-- A request with globs of every kind and a malformed pattern. -/
def mixedRequest : Cache.Request where
  directory := "/srv".toList
  globs := ["*.py".toList, "!.*".toList, "[z-a]".toList, [], "vendor".toList]
  patterns := ["(".toList, "^two".toList]

/-- The same request in another order. -/
def shuffledRequest : Cache.Request where
  directory := "/srv".toList
  globs := ["vendor".toList, [], "[z-a]".toList, "!.*".toList, "*.py".toList]
  patterns := ["^two".toList, "(".toList]
  depth := some (-1)

/-- Both requests find the same. -/
theorem matching_mixedRequest :
    mixedRequest.descriptor = shuffledRequest.descriptor ∧
      (∀ text ∈ mixedRequest.patterns, Tolerated text) ∧
      ∃ found,
        matching prunedTree { names := ["srv".toList] } mixedRequest.globs mixedRequest.patterns
            ["old".toList] = .ok found ∧
        matching prunedTree { names := ["srv".toList] } shuffledRequest.globs
            shuffledRequest.patterns ["old".toList] = .ok found := by
  have same : mixedRequest.descriptor = shuffledRequest.descriptor :=
    Cache.Request.Alike.descriptor (by decide)
  have tolerated : ∀ text ∈ mixedRequest.patterns, Tolerated text := by decide +kernel
  obtain ⟨equal, finds⟩ := matching_eq_of_descriptor same tolerated prunedTree
    { names := ["srv".toList] } ["old".toList]
  obtain ⟨found, searched⟩ := finds _ (by decide : checkBase prunedTree _ = .ok { names := ["srv".toList] })
  exact ⟨same, tolerated, found, searched, equal ▸ searched⟩

end Search
end Codemap
