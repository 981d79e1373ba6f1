import Codemap.Proofs.Files.Change
import Codemap.Proofs.Import.Resolver
import Codemap.Proofs.Result
import Mathlib.Data.List.TakeWhile

namespace Codemap

/-! ## Directories at or above a path -/

namespace Path

/-- A path stands at or above another one, as both are written. -/
def IsAbove (above below : Path) : Prop :=
  above.root = below.root ∧ above.names <+: below.names

instance : DecidableRel IsAbove := fun above below =>
  inferInstanceAs (Decidable (above.root = below.root ∧ above.names <+: below.names))

theorem IsAbove.antisymm {first second : Path} (above : first.IsAbove second)
    (below : second.IsAbove first) : first = second := by
  obtain ⟨root, names⟩ := first
  obtain ⟨otherRoot, otherNames⟩ := second
  obtain ⟨rfl, shorter⟩ := above
  cases shorter.eq_of_length_le below.2.length_le
  rfl

theorem mem_selfAndAbove {path other : Path} : other ∈ path.selfAndAbove ↔ other.IsAbove path := by
  rw [selfAndAbove, List.mem_map]
  constructor
  · rintro ⟨n, -, rfl⟩
    exact ⟨rfl, List.take_prefix _ _⟩
  · rintro ⟨same, above⟩
    refine ⟨path.names.length - other.names.length, List.mem_range.mpr (by omega), ?_⟩
    rw [Nat.sub_sub_self above.length_le, ← List.prefix_iff_eq_take.mp above, ← same]

/-- The directories above a path come one above the other. -/
theorem pairwise_selfAndAbove (path : Path) :
    path.selfAndAbove.Pairwise fun nearer further => further.IsAbove nearer := by
  refine List.pairwise_map.mpr (List.pairwise_lt_range.imp fun before => ⟨rfl, ?_⟩)
  exact List.take_prefix_take_left (by omega)

end Path

namespace Tree

/-- What has a file in it is a directory. -/
theorem isDirectory_of_isFile_child {tree : Tree} {directory : Path} {name : Text}
    (file : tree.isFile (directory.child name) = true) : tree.isDirectory directory = true := by
  have names : (tree.absolute (directory.child name)).names =
      (tree.absolute directory).names ++ [name] := by
    cases rooted : directory.isAbsolute <;>
      simp_all [absolute, Path.join, Path.child, Path.isAbsolute]
  have walked := walkNames_append tree [] (tree.absolute directory).names [name]
  rw [← names] at walked
  rw [isFile, entry, locate, walked] at file
  rw [isDirectory, entry, locate]
  cases reached : tree.walkNames [] (tree.absolute directory).names with
  | error why => simp [reached, Except.bind, Except.map] at file
  | ok place =>
      simp only [reached, Except.bind, walkNames] at file
      simp only [Except.map]
      cases found : tree.root.at? place.reverse with
      | none => simp [found, Except.map] at file
      | some other =>
          cases other with
          | file content changed => simp [found, Except.map] at file
          | directory children => rfl

end Tree

namespace Import

/-!
# Questions asked one after the other

One resolver serves all files of a run.  It remembers which directory it found for a start
and a kind of marker, also that it found none, and the names of packages.  Whatever it has
been asked before, each of its answers is that of a resolver that has been asked nothing
yet, faults included.

What is remembered is right.  A search for a marked directory looks at the directories at
and above its start, as its path is written, from the nearest one on and not beyond the
root.  A path inside a package resolves in the library of the package so found, and if it
names a package, only if that is the name of the one found.
-/

/-! ## The nearest marked directory -/

section Search

variable {tree : Tree} {root : Path} {marker : Marker} {start : Path}

theorem isFile_of_isFile? {path : Path} {found : Bool} (looked : isFile? tree path = .ok found) :
    tree.isFile path = found := by
  rw [isFile?, Tree.status] at looked
  rw [Tree.isFile]
  cases outcome : tree.entry path with
  | ok entry => simpa [outcome] using looked
  | error why => cases why <;> simp_all

/-- A directory with a marker file. -/
structure Marked (tree : Tree) (marker : Marker) (directory : Path) : Prop where
  isDirectory : tree.isDirectory directory = true
  holds : ∃ name ∈ marker.files, tree.isFile (directory.child name) = true

/-- A directory that a search may find: it stands at or above the start, and not above the
root if the start is inside the root. -/
structure InReach (root start directory : Path) : Prop where
  above : directory.IsAbove start
  below : root.IsAbove start → root.IsAbove directory

/-- The nearest marked directory that a search may find. -/
structure IsNearest (tree : Tree) (root : Path) (marker : Marker) (start directory : Path) :
    Prop where
  inReach : InReach root start directory
  marked : Marked tree marker directory
  nearest : ∀ other, InReach root start other → Marked tree marker other → other.IsAbove directory

/-- What a search for a marked directory may answer: the nearest one, that there is none,
or why the file system refuses to look for a marker. -/
inductive Finds (tree : Tree) (root : Path) (marker : Marker) (start : Path) :
    Except ResolveFault (Option Path) → Prop
  | marked {directory : Path} (isNearest : IsNearest tree root marker start directory) :
      Finds tree root marker start (.ok (some directory))
  | unmarked (empty : ∀ directory, InReach root start directory → ¬ Marked tree marker directory) :
      Finds tree root marker start (.ok none)
  | fault {directory : Path} {name : Text} {why : ResolveFault}
      (inReach : InReach root start directory) (listed : name ∈ marker.files)
      (refused : isFile? tree (directory.child name) = .error why) :
      Finds tree root marker start (.error why)

/-- Looking for the first file of a list. -/
theorem firstFile?_spec (tree : Tree) (paths : List Path) :
    match firstFile? tree paths with
    | .ok (some found) => found ∈ paths ∧ isFile? tree found = .ok true
    | .ok none => ∀ path ∈ paths, isFile? tree path = .ok false
    | .error why => ∃ path ∈ paths, isFile? tree path = .error why := by
  induction paths with
  | nil => exact fun _ member => absurd member List.not_mem_nil
  | cons path rest inductionHypothesis =>
      rw [firstFile?]
      cases looked : isFile? tree path with
      | error why => exact ⟨path, List.mem_cons_self, looked⟩
      | ok here =>
          cases here with
          | true => exact ⟨List.mem_cons_self, looked⟩
          | false =>
              dsimp only [bind, Except.bind]
              rw [if_neg Bool.false_ne_true]
              revert inductionHypothesis
              cases firstFile? tree rest with
              | error why =>
                  rintro ⟨other, member, refused⟩
                  exact ⟨other, List.mem_cons_of_mem _ member, refused⟩
              | ok found =>
                  cases found with
                  | none => exact fun others => List.forall_mem_cons.mpr ⟨looked, others⟩
                  | some found => exact fun here => ⟨List.mem_cons_of_mem _ here.1, here.2⟩

/-- Looking for a marker in a directory. -/
theorem hasMarker_spec (tree : Tree) (marker : Marker) (directory : Path) :
    match hasMarker tree marker directory with
    | .ok true => Marked tree marker directory
    | .ok false => ¬ Marked tree marker directory
    | .error why => ∃ name ∈ marker.files, isFile? tree (directory.child name) = .error why := by
  have spec := firstFile?_spec tree (marker.files.map directory.child)
  revert spec
  rw [hasMarker]
  cases firstFile? tree (marker.files.map directory.child) with
  | error why =>
      rintro ⟨path, member, refused⟩
      obtain ⟨name, listed, rfl⟩ := List.mem_map.mp member
      exact ⟨name, listed, refused⟩
  | ok found =>
      cases found with
      | none =>
          rintro missing ⟨-, name, listed, file⟩
          have looked := isFile_of_isFile? (missing _ (List.mem_map_of_mem listed))
          rw [looked] at file
          cases file
      | some found =>
          rintro ⟨member, looked⟩
          obtain ⟨name, listed, rfl⟩ := List.mem_map.mp member
          have file := isFile_of_isFile? looked
          exact ⟨Tree.isDirectory_of_isFile_child file, name, listed, file⟩

/-- Where a search along some directories ends, and with which answer. -/
inductive Ends (tree : Tree) (root : Path) (marker : Marker) :
    List Path → Except ResolveFault (Option Path) → Prop
  | marked (before : List Path) {after : List Path} {directory : Path} (beyond : root ∉ before)
      (passed : ∀ other ∈ before, ¬ Marked tree marker other)
      (marked : Marked tree marker directory) :
      Ends tree root marker (before ++ directory :: after) (.ok (some directory))
  | unmarked (before : List Path) {after : List Path} (stopped : after ≠ [] → root ∈ before)
      (passed : ∀ other ∈ before, ¬ Marked tree marker other) :
      Ends tree root marker (before ++ after) (.ok none)
  | fault (before : List Path) {after : List Path} {directory : Path} {name : Text}
      {why : ResolveFault} (beyond : root ∉ before) (listed : name ∈ marker.files)
      (refused : isFile? tree (directory.child name) = .error why) :
      Ends tree root marker (before ++ directory :: after) (.error why)

/-- A search goes on past a directory without a marker that is not the root. -/
theorem Ends.cons {directory : Path} {rest : List Path}
    {answer : Except ResolveFault (Option Path)} (ends : Ends tree root marker rest answer)
    (different : directory ≠ root) (unmarked : ¬ Marked tree marker directory) :
    Ends tree root marker (directory :: rest) answer := by
  have beyond {before : List Path} (further : root ∉ before) : root ∉ directory :: before := by
    rw [List.mem_cons, not_or]
    exact ⟨different.symm, further⟩
  cases ends with
  | marked before further passed marked =>
      exact .marked (directory :: before) (beyond further)
        (List.forall_mem_cons.mpr ⟨unmarked, passed⟩) marked
  | unmarked before stopped passed =>
      exact .unmarked (directory :: before) (fun more => List.mem_cons_of_mem _ (stopped more))
        (List.forall_mem_cons.mpr ⟨unmarked, passed⟩)
  | fault before further listed refused =>
      exact .fault (directory :: before) (beyond further) listed refused

theorem ends_firstMarked (tree : Tree) (root : Path) (marker : Marker) (directories : List Path) :
    Ends tree root marker directories (firstMarked tree root marker directories) := by
  induction directories with
  | nil =>
      exact .unmarked [] (fun more => absurd rfl more)
        fun _ member => absurd member List.not_mem_nil
  | cons directory rest inductionHypothesis =>
      have spec := hasMarker_spec tree marker directory
      revert spec
      rw [firstMarked]
      cases hasMarker tree marker directory with
      | error why =>
          rintro ⟨name, listed, refused⟩
          exact .fault [] List.not_mem_nil listed refused
      | ok here =>
          cases here with
          | true =>
              intro marked
              exact .marked [] List.not_mem_nil
                (fun _ member => absurd member List.not_mem_nil) marked
          | false =>
              intro unmarked
              dsimp only [bind, Except.bind]
              rw [if_neg Bool.false_ne_true]
              split
              · next top =>
                  exact .unmarked [directory] (fun _ => by simp [top])
                    (List.forall_mem_singleton.mpr unmarked)
              · next different => exact inductionHypothesis.cons different unmarked

/-- What a search comes to before it passes the root is in its reach. -/
theorem inReach_of_split {before after : List Path} {directory : Path}
    (split : start.selfAndAbove = before ++ directory :: after) (beyond : root ∉ before) :
    InReach root start directory := by
  have ordered := start.pairwise_selfAndAbove
  rw [split] at ordered
  refine ⟨Path.mem_selfAndAbove.mp (by simp [split]), fun inside => ?_⟩
  have member := Path.mem_selfAndAbove.mpr inside
  rw [split] at member
  rcases List.mem_cons.mp ((List.mem_append.mp member).resolve_left beyond) with rfl | further
  · exact ⟨rfl, List.prefix_rfl⟩
  · exact (List.pairwise_cons.mp (List.pairwise_append.mp ordered).2.1).1 root further

/-- A search finds the nearest marked directory. -/
theorem finds_nearest (tree : Tree) (root : Path) (marker : Marker) (start : Path) :
    Finds tree root marker start (nearest tree root marker start) := by
  have ordered := start.pairwise_selfAndAbove
  have ends := ends_firstMarked tree root marker start.selfAndAbove
  rw [nearest]
  generalize firstMarked tree root marker start.selfAndAbove = answer at ends ⊢
  generalize split : start.selfAndAbove = directories at ends ordered
  cases ends with
  | fault before beyond listed refused =>
      exact .fault (inReach_of_split split beyond) listed refused
  | @marked before after directory beyond passed marked =>
      refine .marked ⟨inReach_of_split split beyond, marked, fun other within otherMarked => ?_⟩
      have member := Path.mem_selfAndAbove.mpr within.above
      rw [split] at member
      have later := (List.mem_append.mp member).resolve_left fun early =>
        passed other early otherMarked
      rcases List.mem_cons.mp later with rfl | further
      · exact ⟨rfl, List.prefix_rfl⟩
      · exact (List.pairwise_cons.mp (List.pairwise_append.mp ordered).2.1).1 other further
  | @unmarked before after stopped passed =>
      refine .unmarked fun directory within marked => ?_
      have member := Path.mem_selfAndAbove.mpr within.above
      rw [split] at member
      have later := (List.mem_append.mp member).resolve_left fun early =>
        passed directory early marked
      -- The search has stopped at the root, so what comes later stands above the root.
      have early := stopped (List.ne_nil_of_mem later)
      have inside : root.IsAbove start :=
        Path.mem_selfAndAbove.mp (split ▸ List.mem_append_left _ early)
      have same := (within.below inside).antisymm
        ((List.pairwise_append.mp ordered).2.2 root early directory later)
      exact passed root early (same ▸ marked)

end Search

/-! ## The name of a package -/

/-- The description of a package can be read and gives it a name. -/
def Declares (tree : Tree) (package : Path) (name : Yaml.Content) : Prop :=
  ∃ text document, tree.readText (package.child Marker.packageFile) = .ok text ∧
    Yaml.Document.ofText text = .ok document ∧ describedName? document = some name

/-- A package has the name that its description gives it, and that of its directory if there
is none. -/
def IsNamed (tree : Tree) (package : Path) (name : Yaml.Content) : Prop :=
  Declares tree package name ∨
    (∀ other, ¬ Declares tree package other) ∧ name = .whole package.name

theorem isNamed_of_packageName {tree : Tree} {package : Path} {name : Yaml.Content}
    (named : packageName tree package = .ok name) : IsNamed tree package name := by
  rw [packageName] at named
  cases read : tree.readText (package.child Marker.packageFile) with
  | error why =>
      simp only [read, Except.ok.injEq] at named
      exact Or.inr ⟨fun other ⟨_, _, readable, _⟩ => by simp [read] at readable, named.symm⟩
  | ok text =>
      simp only [read] at named
      cases parsed : Yaml.Document.ofText text with
      | error why =>
          have nameless (other : Yaml.Content) : ¬ Declares tree package other := by
            rintro ⟨_, document, readable, valid, -⟩
            cases read.symm.trans readable
            cases parsed.symm.trans valid
          cases why <;> simp [parsed] at named
          exact Or.inr ⟨nameless, named.symm⟩
      | ok document =>
          simp only [parsed, Except.ok.injEq] at named
          cases described : describedName? document with
          | some found =>
              rw [described, Option.getD_some] at named
              exact Or.inl (named ▸ ⟨text, document, read, parsed, described⟩)
          | none =>
              rw [described, Option.getD_none] at named
              refine Or.inr ⟨?_, named.symm⟩
              rintro other ⟨_, _, readable, valid, gives⟩
              cases read.symm.trans readable
              cases parsed.symm.trans valid
              cases described.symm.trans gives

/-! ## Where a specifier leads -/

/-- A specifier in a file. -/
structure Question where
  specifier : Text
  current : Path
deriving DecidableEq

namespace Resolver

/-- The dots with which a module name begins. -/
def leadingDots (specifier : Text) : Nat :=
  (specifier.takeWhile (· == '.')).length

/-- The names of a module behind the dots. -/
def moduleParts (specifier : Text) : List Text :=
  (Text.fields '.' (specifier.drop (leadingDots specifier))).filter fun part => !part.isEmpty

/-- The directory from which a module name with dots at its beginning starts. -/
def dottedBase (specifier : Text) (current : Path) : Path :=
  (List.replicate (leadingDots specifier - 1) ()).foldl (fun path _ => path.parent) current.parent

end Resolver

open Resolver

/-- What the file to which a specifier leads depends on.  All but a path that begins with a
dot and a module name that begins with one start from the nearest marked directory. -/
inductive Leads (tree : Tree) (root : Path) : Question → Path → Prop
  /-- A quoted path from the importing file. -/
  | relative {specifier : Text} {current : Path} (quoted : current.suffix ≠ ".py".toList)
      (dotted : specifier.head? = some '.') :
      Leads tree root ⟨specifier, current⟩
        (fileOf tree (current.parent.join (.ofText specifier)))
  /-- A quoted path from the library of the package that the importing file belongs to. -/
  | library {specifier : Text} {current package : Path} (dart : current.suffix = ".dart".toList)
      (unnamed : packageScheme.isPrefixOf specifier = false)
      (isNearest : IsNearest tree root .package current.parent package) :
      Leads tree root ⟨specifier, current⟩
        (fileOf tree ((library package).join (.ofText specifier)))
  /-- A path in a named package, which is the one that the importing file belongs to. -/
  | package {name path : Text} {current package : Path}
      (quoted : current.suffix ≠ ".py".toList) (single : '/' ∉ name)
      (isNearest : IsNearest tree root .package current.parent package)
      (isNamed : IsNamed tree package (.whole name)) :
      Leads tree root ⟨packageScheme ++ name ++ '/' :: path, current⟩
        (fileOf tree ((library package).join (.ofText path)))
  /-- A module from the importing file. -/
  | sibling {specifier : Text} {current file : Path} (python : current.suffix = ".py".toList)
      (dotted : 0 < leadingDots specifier)
      (found : moduleFile? tree (dottedBase specifier current) (moduleParts specifier) =
        .ok (some file)) :
      Leads tree root ⟨specifier, current⟩ file
  /-- A module of the project that the importing file belongs to. -/
  | module {specifier : Text} {current project file : Path}
      (python : current.suffix = ".py".toList) (undotted : leadingDots specifier = 0)
      (isNearest : IsNearest tree root .project current.parent project)
      (found : inProject tree project (moduleParts specifier) = .ok (some file)) :
      Leads tree root ⟨specifier, current⟩ file

section Leads

variable {tree : Tree} {root current file : Path} {specifier : Text}

theorem isNearest_of_nearest {marker : Marker} {start directory : Path}
    (found : nearest tree root marker start = .ok (some directory)) :
    IsNearest tree root marker start directory := by
  have finds := finds_nearest tree root marker start
  rw [found] at finds
  cases finds with
  | marked isNearest => exact isNearest

/-- A text with something behind its first slash. -/
theorem eq_append_slash {text : Text}
    (more : text.drop ((text.takeWhile (· != '/')).length + 1) ≠ []) :
    text = text.takeWhile (· != '/') ++
      '/' :: text.drop ((text.takeWhile (· != '/')).length + 1) := by
  induction text with
  | nil => exact absurd rfl more
  | cons c rest inductionHypothesis =>
      by_cases slash : c = '/'
      · simp [slash]
      · have taken : (c :: rest).takeWhile (· != '/') = c :: rest.takeWhile (· != '/') :=
          List.takeWhile_cons_of_pos (by simpa using slash)
        rw [taken] at more ⊢
        exact congrArg (c :: ·) (inductionHypothesis more)

theorem leads_of_ofPackageAnswer (quoted : current.suffix ≠ ".py".toList)
    (answered : ofPackageAnswer tree root specifier current = .ok (some file)) :
    Leads tree root ⟨packageScheme ++ specifier, current⟩ file := by
  unfold ofPackageAnswer at answered
  dsimp only at answered
  split at answered
  · cases answered
  · next more =>
      obtain ⟨found, searched, answered⟩ := ok_of_bind answered
      cases found with
      | none => cases answered
      | some package =>
          obtain ⟨name, named, answered⟩ := ok_of_bind answered
          split at answered
          · next same =>
              cases answered
              have whole := eq_append_slash fun nothing => more (List.isEmpty_iff.mpr nothing)
              have single : '/' ∉ specifier.takeWhile (· != '/') := fun member => by
                simpa using List.mem_takeWhile_imp member
              rw [congrArg (packageScheme ++ ·) whole, ← List.append_assoc]
              exact .package quoted single (isNearest_of_nearest searched)
                (same ▸ isNamed_of_packageName named)
          · cases answered

theorem leads_of_ofModuleAnswer (python : current.suffix = ".py".toList)
    (answered : ofModuleAnswer tree root specifier current = .ok (some file)) :
    Leads tree root ⟨specifier, current⟩ file := by
  unfold ofModuleAnswer at answered
  dsimp only at answered
  split at answered
  · next dotted => exact .sibling python dotted answered
  · next undotted =>
      split at answered
      · cases answered
      · obtain ⟨found, searched, answered⟩ := ok_of_bind answered
        cases found with
        | none => cases answered
        | some project =>
            exact .module python (Nat.eq_zero_of_not_pos undotted) (isNearest_of_nearest searched)
              answered

/-- A resolver that finds a file has been led to it. -/
theorem leads_of_answer (answered : answer tree root specifier current = .ok (some file)) :
    Leads tree root ⟨specifier, current⟩ file := by
  unfold answer at answered
  split at answered
  · next python => exact leads_of_ofModuleAnswer python answered
  · next quoted =>
      split at answered
      · next named =>
          obtain ⟨remainder, rfl⟩ := List.isPrefixOf_iff_prefix.mp named
          rw [List.drop_left] at answered
          exact leads_of_ofPackageAnswer quoted answered
      · next unnamed =>
          split at answered
          · next dotted =>
              cases answered
              exact .relative quoted dotted
          · split at answered
            · cases answered
            · next bare =>
                obtain ⟨found, searched, same⟩ := map_eq_ok_iff.mp answered
                obtain ⟨package, rfl, rfl⟩ := Option.map_eq_some_iff.mp same
                refine .library (not_not.mp fun other => bare (Or.inr other))
                  (Bool.not_eq_true _ ▸ unnamed) (isNearest_of_nearest searched)

end Leads

/-! ## Sequences of questions -/

namespace Resolver

/-- Ask several questions, one after the other. -/
def askAll (resolver : Resolver) (tree : Tree) :
    List Question → List (Except ResolveFault (Option Path)) × Resolver
  | [] => ([], resolver)
  | question :: rest =>
      let asked := resolver.resolve tree question.specifier question.current
      let others := asked.2.askAll tree rest
      (asked.1 :: others.1, others.2)

/-- What a resolver answers that has been asked nothing yet. -/
def freshAnswer (tree : Tree) (project : Path) (question : Question) :
    Except ResolveFault (Option Path) :=
  ((start tree project).resolve tree question.specifier question.current).1

variable {tree : Tree}

/-- A faithful resolver answers every question of a sequence as if it remembered nothing, and
is faithful after the last one. -/
theorem askAll_faithful {resolver : Resolver} (faithful : resolver.Faithful tree)
    (questions : List Question) :
    (resolver.askAll tree questions).1 = questions.map (fun question =>
        answer tree resolver.root question.specifier question.current) ∧
      (resolver.askAll tree questions).2.Faithful tree ∧
      (resolver.askAll tree questions).2.root = resolver.root := by
  induction questions generalizing resolver with
  | nil => exact ⟨rfl, faithful, rfl⟩
  | cons question rest inductionHypothesis =>
      obtain ⟨first, kept, sameRoot⟩ :=
        resolve_answers faithful question.specifier question.current
      obtain ⟨others, finally', stillSame⟩ := inductionHypothesis kept
      refine ⟨?_, finally', stillSame.trans sameRoot⟩
      rw [askAll, List.map_cons, others, first, sameRoot]

end Resolver

/-- Whatever questions a resolver is asked in whatever order, it gives each the answer of a
resolver that has been asked nothing yet.  The directory that it finds then, for any start
and marker, is the nearest marked one, and it says that there is none only if there is none.
A file is found only where such a directory leads to it. -/
theorem answers_in_turn (tree : Tree) (project : Path) (questions : List Question) :
    let start := Resolver.start tree project
    let reached := (start.askAll tree questions).2
    (start.askAll tree questions).1 = questions.map (freshAnswer tree project) ∧
      (∀ marker directory, Finds tree start.root marker directory
        (reached.directory tree marker directory).1) ∧
      (∀ package name, (reached.nameOf tree package).1 = .ok name → IsNamed tree package name) ∧
      ∀ question file, freshAnswer tree project question = .ok (some file) →
        Leads tree start.root question file := by
  have faithful : (Resolver.start tree project).Faithful tree := forgetful_faithful _
  obtain ⟨answers, kept, sameRoot⟩ := askAll_faithful faithful questions
  refine ⟨answers.trans (List.map_congr_left fun question _ => ?_), fun marker directory => ?_,
    fun package name named => ?_, fun question file found => ?_⟩
  · exact (Resolver.resolve_forgetful tree _ question.specifier question.current).symm
  · rw [(directory_answers kept marker directory).1, sameRoot]
    exact finds_nearest tree _ marker directory
  · rw [(nameOf_answers kept package).1] at named
    exact isNamed_of_packageName named
  · exact leads_of_answer
      ((Resolver.resolve_forgetful tree _ question.specifier question.current).symm.trans found)

/-! ## Paths as they are written -/

/-- A package beside the library that a path comes to when it leaves the package. -/
def besideTree : Tree where
  root := .directory [("app".toList, .directory
    [("sub".toList, .directory [("pubspec.yaml".toList, .file [] 1)]),
      ("lib".toList, .directory [("x.dart".toList, .file [] 1)])])]

/-- The path of a file that passes a package which the file is not in. -/
def besidePath : Path where
  names := ["app".toList, "sub".toList, upward, "lib".toList, "x.dart".toList]

/-- A project with a file that is named like a package path. -/
def schemeTree : Tree where
  root := .directory [("pyproject.toml".toList, .file [] 1),
    ("package:shop.py".toList, .file [] 1), ("main.py".toList, .file [] 1)]

/-- A path is searched as it is written, so a package may be used that the importing file is
not in.  And in a file of modules a package path is the name of a module: it leads to a file
although nothing is a package. -/
theorem answers_beside_importing_file :
    freshAnswer besideTree { names := [] } ⟨"y.dart".toList, besidePath⟩ =
        .ok (some { names := ["app".toList, "sub".toList, "lib".toList, "y.dart".toList] }) ∧
      besideTree.locate besidePath = .ok ["app".toList, "lib".toList, "x.dart".toList] ∧
      (∀ n < 3, besideTree.isFile
        { names := ["app".toList, "lib".toList].take n ++ ["pubspec.yaml".toList] } = false) ∧
    freshAnswer schemeTree { names := [] }
        ⟨"package:shop".toList, { names := ["main.py".toList] }⟩ =
        .ok (some { names := ["package:shop.py".toList] }) ∧
      schemeTree.isFile { names := ["pubspec.yaml".toList] } = false := by
  decide +kernel

end Import
end Codemap
