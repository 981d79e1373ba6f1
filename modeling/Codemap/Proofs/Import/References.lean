import Codemap.Proofs.Files.Walk
import Codemap.Proofs.Import.Distance
import Codemap.Proofs.Import.Resolver

namespace Codemap
namespace Import

/-!
# What following imports finds

Over a lawful tree the walk meets every source file once, and a file is known by the
text of its path.  The graph that is explored is fixed by the tree, the targets and
the project: what a source imports is what a resolver finds that has been asked
nothing yet, although one resolver serves the whole run.  Levels are distances in
that graph, so neither the order of the walk nor that of the targets shows.
-/

/-! ## Sources and their imports -/

/-- The files that the specifiers in a source lead to. -/
def importsOf (tree : Tree) (root path : Path) : List Path :=
  (specifiersOf tree path).filterMap fun specifier =>
    ((Resolver.answer tree root specifier path).toOption).getD none

/-- A source file as the levels see it. -/
def sourceAt (tree : Tree) (root path : Path) : Source :=
  ⟨path.text, (importsOf tree root path).map Path.text⟩

theorem mem_importsOf {tree : Tree} {root path goal : Path} :
    goal ∈ importsOf tree root path ↔ ∃ specifier ∈ specifiersOf tree path,
      Resolver.answer tree root specifier path = .ok (some goal) := by
  rw [importsOf, List.mem_filterMap]
  constructor
  · rintro ⟨specifier, member, found⟩
    refine ⟨specifier, member, ?_⟩
    cases outcome : Resolver.answer tree root specifier path with
    | error why => simp [outcome, Except.toOption] at found
    | ok answer =>
        rw [outcome] at found
        exact congrArg Except.ok found
  · rintro ⟨specifier, member, found⟩
    exact ⟨specifier, member, by rw [found]; rfl⟩

theorem answers_eq {tree : Tree} {root current : Path} {specifiers : List Text}
    (resolvable : ∀ specifier ∈ specifiers,
      (Resolver.answer tree root specifier current).isOk = true) :
    Resolver.answers tree root current specifiers =
      .ok (specifiers.filterMap fun specifier =>
        ((Resolver.answer tree root specifier current).toOption).getD none) := by
  induction specifiers with
  | nil => rfl
  | cons specifier rest inductionHypothesis =>
      have good := resolvable specifier List.mem_cons_self
      have later := inductionHypothesis fun other member =>
        resolvable other (List.mem_cons_of_mem _ member)
      rw [Resolver.answers, later, List.filterMap_cons]
      cases outcome : Resolver.answer tree root specifier current with
      | error why => simp [outcome, Except.isOk, Except.toBool] at good
      | ok found => cases found <;> rfl

theorem sourcesOf_eq {tree : Tree} {resolver : Resolver} (faithful : resolver.Faithful tree)
    (walked : List Path)
    (resolvable : ∀ path ∈ walked, ∀ specifier ∈ specifiersOf tree path,
      (Resolver.answer tree resolver.root specifier path).isOk = true) :
    sourcesOf tree resolver walked = .ok (walked.map (sourceAt tree resolver.root)) := by
  rw [sourcesOf_eq_answeredSources faithful]
  induction walked with
  | nil => rfl
  | cons path rest inductionHypothesis =>
      have later := inductionHypothesis fun other member =>
        resolvable other (List.mem_cons_of_mem _ member)
      rw [answeredSources, answers_eq (resolvable path List.mem_cons_self), later]
      rfl

/-! ## The graph of a project -/

/-- A resolver that has been asked nothing yet finds a file for a specifier in a source. -/
def ImportsFile (tree : Tree) (project current goal : Path) : Prop :=
  ∃ specifier ∈ specifiersOf tree current,
    ((Resolver.start tree project).resolve tree specifier current).1 = .ok (some goal)

/-- The source files of a project. -/
def projectFiles (tree : Tree) (project : Path) (excluded : List Text) : List Path :=
  Walk.sourceFiles tree (Resolver.start tree project).root excluded

/-- The graph that is explored from target files, on the texts of paths. -/
def graphOf (tree : Tree) (files : List Path) (project : Path) (excluded : List Text) : Graph where
  IsTarget file := ∃ asked ∈ files, (Path.resolve tree.current asked).text = file
  IsSource file := ∃ path ∈ projectFiles tree project excluded, path.text = file
  Imports file next := ∃ path ∈ projectFiles tree project excluded, path.text = file ∧
    ∃ goal, ImportsFile tree project path goal ∧ goal.text = next

/-- No import in a source file of the project ends in a fault. -/
def Resolvable (tree : Tree) (project : Path) (excluded : List Text) : Prop :=
  ∀ path ∈ projectFiles tree project excluded, ∀ specifier ∈ specifiersOf tree path,
    ((Resolver.start tree project).resolve tree specifier path).1.isOk = true

instance (tree : Tree) (project : Path) (excluded : List Text) :
    Decidable (Resolvable tree project excluded) :=
  inferInstanceAs (Decidable (∀ path ∈ projectFiles tree project excluded,
    ∀ specifier ∈ specifiersOf tree path,
      ((Resolver.start tree project).resolve tree specifier path).1.isOk = true))

theorem start_resolve (tree : Tree) (project : Path) (specifier : Text) (current : Path) :
    ((Resolver.start tree project).resolve tree specifier current).1 =
      Resolver.answer tree (Resolver.start tree project).root specifier current :=
  Resolver.resolve_forgetful tree (Resolver.start tree project).root specifier current

section Project

variable {tree : Tree} {files : List Path} {project : Path} {excluded : List Text}

theorem mem_projectFiles {path : Path} (member : path ∈ projectFiles tree project excluded) :
    ∃ names ∈ Walk.relativeFiles tree (Resolver.start tree project).root excluded true,
      path = { (Resolver.start tree project).root with
        names := (Resolver.start tree project).root.names ++ names } := by
  obtain ⟨names, visited, same⟩ := List.mem_map.mp (List.mem_filter.mp member).1
  exact ⟨names, visited, same.symm⟩

theorem isSourceName_of_mem_projectFiles {path : Path}
    (member : path ∈ projectFiles tree project excluded) : Walk.isSourceName path.name = true :=
  (List.mem_filter.mp member).2

/-- A source file of a project is known by its text. -/
theorem projectFiles_text_injective
    (lawful : Walk.LawfulAt tree (Resolver.start tree project).root) {left right : Path}
    (leftMember : left ∈ projectFiles tree project excluded)
    (rightMember : right ∈ projectFiles tree project excluded)
    (same : left.text = right.text) : left = right := by
  obtain ⟨leftNames, leftVisited, rfl⟩ := mem_projectFiles leftMember
  obtain ⟨rightNames, rightVisited, rfl⟩ := mem_projectFiles rightMember
  have leftNamed := Walk.relativeFiles_named lawful leftVisited
  have rightNamed := Walk.relativeFiles_named lawful rightVisited
  rw [Path.below_text_injective _ leftNamed.1 rightNamed.1 leftNamed.2 rightNamed.2 same]

theorem projectFiles_text_nodup
    (lawful : Walk.LawfulAt tree (Resolver.start tree project).root) :
    ((projectFiles tree project excluded).map Path.text).Nodup := by
  have once : (projectFiles tree project excluded).Nodup := by
    apply List.Nodup.filter
    apply (Walk.relativeFiles_nodup lawful excluded true).map
    intro left right same
    exact List.append_cancel_left (congrArg Path.names same)
  exact List.Nodup.map_on
    (fun left leftMember right rightMember =>
      projectFiles_text_injective lawful leftMember rightMember) once

/-- The sources of a run, in whatever order the walk meets them, hold what the graph
says. -/
theorem represents_sources (lawful : tree.Lawful) {walked : List Path}
    (met : ∀ path, path ∈ walked ↔
      path ∈ projectFiles tree project excluded ∧ path.text ∉ tracked (targets tree files)) :
    Represents (graphOf tree files project excluded)
      (walked.map (sourceAt tree (Resolver.start tree project).root)) where
  source_iff := by
    intro file
    have target_iff : file ∈ tracked (targets tree files) ↔
        (graphOf tree files project excluded).IsTarget file := by
      simp [tracked, targets, graphOf]
    rw [← target_iff]
    constructor
    · rintro ⟨source, member, rfl⟩
      obtain ⟨path, listed, rfl⟩ := List.mem_map.mp member
      have facts := (met path).mp listed
      exact ⟨⟨path, facts.1, rfl⟩, facts.2⟩
    · rintro ⟨⟨path, listed, rfl⟩, apart⟩
      exact ⟨_, List.mem_map.mpr ⟨path, (met path).mpr ⟨listed, apart⟩, rfl⟩, rfl⟩
  imports_iff := by
    rintro source member next
    obtain ⟨path, listed, rfl⟩ := List.mem_map.mp member
    have walkedPath := ((met path).mp listed).1
    simp only [sourceAt, List.mem_map, mem_importsOf, graphOf, ImportsFile, start_resolve]
    constructor
    · rintro ⟨goal, found, rfl⟩
      exact ⟨path, walkedPath, rfl, goal, found, rfl⟩
    · rintro ⟨other, otherWalked, same, goal, found, rfl⟩
      cases projectFiles_text_injective (Walk.lawfulAt_of_lawful lawful _) otherWalked walkedPath same
      exact ⟨goal, found, rfl⟩

theorem mem_targets {reference : Reference} :
    reference ∈ targets tree files ↔
      ∃ asked ∈ files, { file := (Path.resolve tree.current asked).text } = reference := by
  simp [targets]

/-- The targets are what is recorded below depth one. -/
theorem targets_recordedBelow :
    RecordedBelow (graphOf tree files project excluded) 1 (targets tree files) := by
  intro reference
  rw [mem_targets]
  constructor
  · rintro ⟨asked, member, rfl⟩
    exact ⟨.target ⟨asked, member, rfl⟩, Nat.zero_lt_one⟩
  · rintro ⟨recorded, first⟩
    cases recorded with
    | target isTarget =>
        obtain ⟨asked, member, rfl⟩ := isTarget
        exact ⟨asked, member, rfl⟩
    | source _ _ _ _ => exact absurd first (by simp)

theorem targets_nodup : (tracked (targets tree files)).Nodup := by
  have files_eq : tracked (targets tree files) =
      (files.map fun file => (Path.resolve tree.current file).text).eraseDups := by
    simp [tracked, targets, Function.comp_def]
  rw [files_eq]
  exact nodup_eraseDups _

/-- What is found is a mapping from files to their references in a graph, up to a
greatest depth; a negative one is no limit.  The imports of a source are those of its
imports that are found one level below it. -/
structure Describes (graph : Graph) (greatest : Int) (found : List Reference) : Prop where
  once : (tracked found).Nodup
  mem_iff : ∀ reference, reference ∈ found ↔
    graph.Recorded reference ∧ (0 ≤ greatest → (reference.depth : Int) ≤ greatest)
  imports_iff : ∀ reference ∈ found, 0 < reference.depth →
    Text.Ascending reference.imports ∧ ∀ next, next ∈ reference.imports ↔
      graph.Imports reference.file next ∧
        ∃ nearer ∈ found, nearer.file = next ∧ nearer.depth + 1 = reference.depth

/-- References that are recorded up to a depth describe their graph. -/
theorem Describes.of_mem_iff {graph : Graph} {sources : List Source} {greatest : Int}
    {found : List Reference} (represents : Represents graph sources)
    (once : (tracked found).Nodup)
    (mem_iff : ∀ reference, reference ∈ found ↔
      graph.Recorded reference ∧ within reference.depth greatest = true) :
    Describes graph greatest found where
  once := once
  mem_iff := fun reference => by rw [mem_iff, within_iff]
  imports_iff := by
    intro reference member deep
    have facts := (mem_iff reference).mp member
    cases recorded : facts.1 with
    | target _ => exact absurd deep (Nat.lt_irrefl 0)
    | @source file imports depth isSource distance ascends members =>
        refine ⟨ascends, fun next => ?_⟩
        rw [members]
        constructor
        · rintro ⟨imported, nearer⟩
          obtain ⟨other, otherRecorded, same, level⟩ := represents.exists_recorded nearer
          have limited : within other.depth greatest = true := by
            rw [level, within_iff]
            intro limit
            have bound := within_iff.mp facts.2 limit
            push_cast at bound
            omega
          exact ⟨imported, other, (mem_iff other).mpr ⟨otherRecorded, limited⟩, same,
            congrArg (· + 1) level⟩
        · rintro ⟨imported, nearer, nearerFound, rfl, level⟩
          have nearerFacts := (mem_iff nearer).mp nearerFound
          have equal : nearer.depth = depth := Nat.succ.inj level
          exact ⟨imported, equal ▸ nearerFacts.1.distance⟩

/-! ## The whole run -/

/-- The source files of a project that are no targets, in the order of the walk. -/
def walkedFiles (tree : Tree) (files : List Path) (project : Path) (excluded : List Text) :
    List Path :=
  (projectFiles tree project excluded).filter fun path =>
    !(tracked (targets tree files)).contains path.text

theorem mem_walkedFiles {path : Path} :
    path ∈ walkedFiles tree files project excluded ↔
      path ∈ projectFiles tree project excluded ∧ path.text ∉ tracked (targets tree files) := by
  simp [walkedFiles]

/-- Whatever the order in which the sources are met, resolving them succeeds, and the
levels made from them describe the graph. -/
theorem describes_addLevels (lawful : tree.Lawful) (resolvable : Resolvable tree project excluded)
    (files : List Path) (greatest : Int) {walked : List Path}
    (order : walked.Perm (walkedFiles tree files project excluded)) :
    ∃ sources, sourcesOf tree (Resolver.start tree project) walked = .ok sources ∧
      Describes (graphOf tree files project excluded) greatest
        (addLevels sources greatest sources.length 1 (targets tree files)) := by
  have met : ∀ path, path ∈ walked ↔
      path ∈ projectFiles tree project excluded ∧ path.text ∉ tracked (targets tree files) :=
    fun path => by rw [order.mem_iff, mem_walkedFiles]
  have represents := represents_sources lawful met
  refine ⟨_, sourcesOf_eq (Resolver.forgetful_faithful _) walked ?_, ?_⟩
  · intro path member specifier asked
    have resolved := resolvable path ((met path).mp member).1 specifier asked
    rw [start_resolve] at resolved
    exact resolved
  · apply Describes.of_mem_iff represents
    · apply nodup_addLevels
      · rw [List.map_map]
        apply (order.map _).nodup_iff.mpr
        exact (projectFiles_text_nodup (Walk.lawfulAt_of_lawful lawful _)).sublist
          (List.filter_sublist.map Path.text)
      · exact targets_nodup
    · apply mem_addLevels represents greatest _ targets_recordedBelow
      · exact within_iff.mpr fun limited => limited
      · exact List.length_filter_le _ _

theorem addLevels_zero (sources : List Source) (fuel : Nat) (found : List Reference) :
    addLevels sources 0 fuel 1 found = found := by
  cases fuel <;> simp [addLevels, within]

theorem addLevels_nil (sources : List Source) (greatest : Int) (fuel : Nat) :
    addLevels sources greatest fuel 1 [] = [] := by
  cases fuel with
  | zero => rfl
  | succ fuel =>
      have empty : nextLevel sources [] 1 = [] := by
        apply List.eq_nil_iff_forall_not_mem.mpr
        intro reference member
        obtain ⟨_, _, _, ⟨_, _, impossible⟩, _⟩ := mem_nextLevel.mp member
        exact List.not_mem_nil impossible
      rw [addLevels, empty]
      split <;> rfl

/-- The run walks the project, resolves what it met and adds the levels; that it stops
early without targets or depth makes no difference. -/
theorem references_eq_addLevels {sources : List Source} (greatest : Int)
    (resolved : sourcesOf tree (Resolver.start tree project)
      (walkedFiles tree files project excluded) = .ok sources) :
    references tree files project greatest excluded =
      .ok (addLevels sources greatest sources.length 1 (targets tree files)) := by
  have run : references tree files project greatest excluded =
      if greatest = 0 || (targets tree files).isEmpty then .ok (targets tree files)
      else (sourcesOf tree (Resolver.start tree project)
        (walkedFiles tree files project excluded)).map fun sources =>
          addLevels sources greatest sources.length 1 (targets tree files) := by
    unfold references
    dsimp only [walkedFiles, projectFiles, pure, Except.pure, bind, Except.bind]
    split
    · rfl
    · split <;> next same => simp only [same, Except.map]
  rw [run, resolved]
  split
  · next early =>
      simp only [Bool.or_eq_true, decide_eq_true_eq, List.isEmpty_iff] at early
      rcases early with zero | none
      · rw [zero, addLevels_zero]
      · rw [none, addLevels_nil]
  · rfl

/-- Following imports always ends.  It finds the targets, and every source file at a
finite distance of at most the greatest depth with that distance and with the imports
that lie one step nearer.  Neither the order of the targets nor that of the walk shows
in what is found. -/
theorem references_describe_distances (lawful : tree.Lawful)
    (resolvable : Resolvable tree project excluded) (files : List Path) (greatest : Int) :
    ∃ found, references tree files project greatest excluded = .ok found ∧
      Describes (graphOf tree files project excluded) greatest found ∧
      (∀ others : List Path, (∀ file, file ∈ others ↔ file ∈ files) →
        ∃ same, references tree others project greatest excluded = .ok same ∧
          ∀ reference, reference ∈ same ↔ reference ∈ found) ∧
      ∀ walked : List Path, walked.Perm (walkedFiles tree files project excluded) →
        ∃ sources, sourcesOf tree (Resolver.start tree project) walked = .ok sources ∧
          ∀ reference,
            reference ∈ addLevels sources greatest sources.length 1 (targets tree files) ↔
              reference ∈ found := by
  obtain ⟨sources, resolved, describes⟩ :=
    describes_addLevels lawful resolvable files greatest (List.Perm.refl _)
  refine ⟨_, references_eq_addLevels greatest resolved, describes, ?_, ?_⟩
  · intro others reordered
    obtain ⟨otherSources, otherResolved, otherDescribes⟩ :=
      describes_addLevels lawful resolvable others greatest (List.Perm.refl _)
    have sameGraph : graphOf tree others project excluded =
        graphOf tree files project excluded := by
      simp only [graphOf, reordered]
    refine ⟨_, references_eq_addLevels greatest otherResolved, fun reference => ?_⟩
    rw [otherDescribes.mem_iff, describes.mem_iff, sameGraph]
  · intro walked order
    obtain ⟨otherSources, otherResolved, otherDescribes⟩ :=
      describes_addLevels lawful resolvable files greatest order
    refine ⟨otherSources, otherResolved, fun reference => ?_⟩
    rw [otherDescribes.mem_iff, describes.mem_iff]

end Project

/-! ## A cycle of imports -/

/-- A project with a cycle of imports. -/
def cyclicProject : Path := { names := ["p".toList] }

/-- A file of that project. -/
def cyclicFile (name : String) : Path := { names := ["p".toList, name.toList] }

/-- Two files that import each other, one of which imports a third. -/
def cyclicTree : Tree where
  root := .directory [("p".toList, .directory
    [("a.ts".toList, .file (Utf8.encode "import './b';".toList) 1),
      ("b.ts".toList, .file (Utf8.encode "import './a';\nimport './c';".toList) 1),
      ("c.ts".toList, .file [] 1)])]

/-- The file that only the cycle leads to is recorded two levels away, and the cycle
itself leaves no trace. -/
theorem cyclicTree_describes :
    cyclicTree.Lawful ∧ Resolvable cyclicTree cyclicProject [] ∧
      references cyclicTree [cyclicFile "c.ts"] cyclicProject (-1) [] = .ok
        [{ file := "/p/c.ts".toList }, ⟨"/p/b.ts".toList, ["/p/c.ts".toList], 1⟩,
          ⟨"/p/a.ts".toList, ["/p/b.ts".toList], 2⟩] ∧
      Describes (graphOf cyclicTree [cyclicFile "c.ts"] cyclicProject []) (-1)
        [{ file := "/p/c.ts".toList }, ⟨"/p/b.ts".toList, ["/p/c.ts".toList], 1⟩,
          ⟨"/p/a.ts".toList, ["/p/b.ts".toList], 2⟩] := by
  have walked : projectFiles cyclicTree cyclicProject [] =
      [cyclicFile "a.ts", cyclicFile "b.ts", cyclicFile "c.ts"] := by
    rw [projectFiles, Walk.sourceFiles, Walk.files, Walk.relativeFiles,
      show cyclicTree.entry (Resolver.start cyclicTree cyclicProject).root = .ok (.directory _)
        from rfl]
    dsimp only
    rw [Walk.ofEntry_of_ordered (by decide)]
    decide +kernel
  have inFirst : specifiersOf cyclicTree (cyclicFile "a.ts") = ["./b".toList] := by decide +kernel
  have inSecond : specifiersOf cyclicTree (cyclicFile "b.ts") =
      ["./a".toList, "./c".toList] := by
    have read : cyclicTree.readText (cyclicFile "b.ts") =
        .ok "import './a';\nimport './c';".toList := by decide +kernel
    have found : quotedForms.flatMap (foundBy "import './a';\nimport './c';".toList) =
        [⟨0, "./a".toList⟩, ⟨14, "./c".toList⟩] := by decide +kernel
    have sorted : [⟨0, "./a".toList⟩, ⟨14, "./c".toList⟩].mergeSort Found.le =
        [⟨0, "./a".toList⟩, ⟨14, "./c".toList⟩] := List.mergeSort_of_pairwise (by decide)
    rw [specifiersOf, read]
    dsimp only
    rw [if_neg (by decide), specifiers, quotedSpecifiers, found, sorted]
    decide
  have inThird : specifiersOf cyclicTree (cyclicFile "c.ts") = [] := by decide +kernel
  have lawful : cyclicTree.Lawful := by decide
  have resolvable : Resolvable cyclicTree cyclicProject [] := by
    simp only [Resolvable, walked, List.forall_mem_cons, inFirst, inSecond, inThird]
    decide
  have sources : sourcesOf cyclicTree (Resolver.start cyclicTree cyclicProject)
      (walkedFiles cyclicTree [cyclicFile "c.ts"] cyclicProject []) =
      .ok [⟨"/p/a.ts".toList, ["/p/b.ts".toList]⟩,
        ⟨"/p/b.ts".toList, ["/p/a.ts".toList, "/p/c.ts".toList]⟩] := by
    have remaining : walkedFiles cyclicTree [cyclicFile "c.ts"] cyclicProject [] =
        [cyclicFile "a.ts", cyclicFile "b.ts"] := by
      rw [walkedFiles, walked]
      decide +kernel
    simp only [remaining, sourcesOf, inFirst, inSecond]
    decide +kernel
  have ran := references_eq_addLevels (-1) sources
  have levels : addLevels [⟨"/p/a.ts".toList, ["/p/b.ts".toList]⟩,
      ⟨"/p/b.ts".toList, ["/p/a.ts".toList, "/p/c.ts".toList]⟩] (-1) 2 1
        (targets cyclicTree [cyclicFile "c.ts"]) =
      [{ file := "/p/c.ts".toList }, ⟨"/p/b.ts".toList, ["/p/c.ts".toList], 1⟩,
        ⟨"/p/a.ts".toList, ["/p/b.ts".toList], 2⟩] := by decide +kernel
  obtain ⟨found, returned, describes, _⟩ :=
    references_describe_distances lawful resolvable [cyclicFile "c.ts"] (-1)
  have same := returned.symm.trans ran
  cases same
  exact ⟨lawful, resolvable, ran.trans (congrArg Except.ok levels), levels ▸ describes⟩

end Import
end Codemap
