import Codemap.Bundle.Assembly
import Codemap.Proofs.Import.Faults
import Codemap.Proofs.Search.Matching
import Mathlib.Data.List.Forall2

namespace Codemap
namespace Bundle

/-!
# Which faults stay with one directory

The chosen directories are described one after the other, each on the tree that the
ones before have left.  A fault about files becomes the section of its directory, which
leaves the tree as it is, and the others are described as ever.  Any other fault ends
the whole run, so a run has an answer exactly if no directory has such a fault.  There
are five kinds of them, and a sixth fault before any directory is described: a
configured path that no file system takes.

Some things that a tree may do to a run are assumed away where trees are walked and changed and
where records are read: names are texts, and neither directories, those that are to be made
included, nor records are nested more deeply than the stack has room for.
-/

variable (environment : Environment) (settings : Settings) (request : Request)

/-- A directory that is described, and the tree at that time. -/
structure Moment where
  directory : Path
  tree : Tree
deriving Inhabited

/-- The directories with the trees on which they are described. -/
def moments (tree : Tree) : List Path → List Moment
  | [] => []
  | directory :: rest =>
      ⟨directory, tree⟩ ::
        moments (sectionOf environment settings request tree directory).tree rest

/-- A text is the section of a directory.  If the files cannot be found, it says why, and
the tree stays as it is. -/
structure IsSection (moment : Moment) (text : Text) : Prop where
  result : (sectionOf environment settings request moment.tree moment.directory).result = .ok text
  failed : ∀ why, findFiles settings request moment.tree moment.directory = .error why →
    text = failed request moment.directory why ∧
      (sectionOf environment settings request moment.tree moment.directory).tree = moment.tree

/-- A bundle is wanted: there are files, or the request does not say what to look for. -/
def Wanted (request : Request) (files : Files) : Prop :=
  files.matched = [] → request.globs = [] ∧ request.patterns = []

/-- What ends a run while a directory is described: there is no room for a glob, the search
looks into files by a pattern that is not malformed and yet cannot be read, following imports
has a fault that is not about files, or a bundle is asked for with a number of levels that is
too long for a text. -/
inductive Moment.Stops (settings : Settings) (request : Request) (moment : Moment) : Prop
  | glob {root : Path} :
      Search.checkBase moment.tree moment.directory = .ok root →
        Glob.Selection.isTooDeep (globsOf request) = true → Moment.Stops settings request moment
  | pattern {root : Path} {text : Text} {why : Pattern.PatternFault} :
      Search.checkBase moment.tree moment.directory = .ok root →
        Search.candidates moment.tree root (globsOf request) settings.excluded ≠ [] →
          text ∈ request.patterns → Pattern.Node.ofText Search.options text = .error why →
            why ≠ .malformed → Moment.Stops settings request moment
  | imports {matched : List Text} {why : Import.ResolveFault} :
      Search.find moment.tree moment.directory (globsOf request) request.patterns
          settings.excluded = .ok matched →
        matched ≠ [] → depthOf settings request ≠ 0 →
          Import.references moment.tree (matched.map Path.ofText) moment.directory
              (depthOf settings request) settings.excluded = .error why →
            (Fault.imports why).isAboutFiles = false → Moment.Stops settings request moment
  | depth {files : Files} :
      findFiles settings request moment.tree moment.directory = .ok files →
        Wanted request files → Text.isTooLong (depthOf settings request) = true →
          Moment.Stops settings request moment

/-- Where a fault that ends a run comes from. -/
inductive Escapes (settings : Settings) (request : Request) : Fault → Prop
  /-- A configured directory has a path that no file system takes. -/
  | selection {tree : Tree} {directory : Path} {why : StorageFault} :
      directory ∈ settings.searchable → tree.status directory = .error why →
        Escapes settings request (.selection ⟨why, directory.text⟩)
  /-- The alternatives of a glob are nested too deeply. -/
  | glob {text : Text} :
      text ∈ request.globs → Glob.Matcher.isTooDeep (Glob.Clause.ofText text).source = true →
        Escapes settings request (.search (.pattern .nestedTooDeeply))
  /-- A pattern is not malformed, and yet cannot be read. -/
  | pattern {text : Text} {why : Pattern.PatternFault} :
      text ∈ request.patterns → Pattern.Node.ofText Search.options text = .error why →
        why ≠ .malformed → Escapes settings request (.search (.pattern why))
  /-- The description of a package is no malformed document, and yet cannot be read. -/
  | document {tree : Tree} {package : Path} {text : Text} {why : Yaml.Fault} :
      tree.readText (package.child Import.Marker.packageFile) = .ok text →
        Yaml.Document.ofText text = .error why → why ≠ .malformed →
          Escapes settings request (.imports (.document why))
  /-- The path of an imported module has no name. -/
  | emptyName {module : Path} :
      module.name = [] → Escapes settings request (.imports (.emptyName module.text))
  /-- The number of levels has too many digits. -/
  | depth : Text.isTooLong (depthOf settings request) = true →
      Escapes settings request .depthTooLong

variable {environment settings request} {tree : Tree} {directory : Path} {why : Fault}

/-! ## Finding the files of a directory -/

theorem checkBase_error {why : Search.Fault}
    (failed : Search.checkBase tree directory = .error why) :
    (Fault.search why).isAboutFiles = true := by
  rw [Search.checkBase] at failed
  split at failed <;> cases failed <;> rfl

/-- Every file is asked for by a glob for which there is room. -/
theorem mem_globs_of_isTooDeep (deep : Glob.Selection.isTooDeep (globsOf request) = true) :
    ∃ text ∈ request.globs, Glob.Matcher.isTooDeep (Glob.Clause.ofText text).source = true := by
  obtain ⟨text, member, tooDeep⟩ := List.any_eq_true.mp deep
  rw [globsOf] at member
  split at member
  · have room : Glob.Selection.isTooDeep Search.everyFile = false := by decide +kernel
    exact absurd tooDeep (by simpa using List.any_eq_false.mp room text member)
  · exact ⟨text, member, tooDeep⟩

theorem findFiles_of_find_error {fault : Search.Fault}
    (search : Search.find tree directory (globsOf request) request.patterns settings.excluded =
      .error fault) : findFiles settings request tree directory = .error (.search fault) := by
  rw [findFiles]
  simp only [search]
  rfl

theorem findFiles_of_imports_error {matched : List Text} {fault : Import.ResolveFault}
    (search : Search.find tree directory (globsOf request) request.patterns settings.excluded =
      .ok matched) (unempty : matched ≠ []) (followed : depthOf settings request ≠ 0)
    (imported : Import.references tree (matched.map Path.ofText) directory
      (depthOf settings request) settings.excluded = .error fault) :
    findFiles settings request tree directory = .error (.imports fault) := by
  have goesOn : (matched.isEmpty || decide (depthOf settings request = 0)) = false := by
    simp [unempty, followed]
  rw [findFiles]
  simp only [search, bind, Except.bind, pure, Except.pure, goesOn, imported]
  rfl

/-- Finding the files of a directory fails as the search does, or as following imports does. -/
theorem findFiles_error (failed : findFiles settings request tree directory = .error why) :
    (∃ fault, Search.find tree directory (globsOf request) request.patterns settings.excluded =
        .error fault ∧ why = .search fault) ∨
      ∃ matched fault, Search.find tree directory (globsOf request) request.patterns
          settings.excluded = .ok matched ∧
        matched ≠ [] ∧ depthOf settings request ≠ 0 ∧
        Import.references tree (matched.map Path.ofText) directory (depthOf settings request)
          settings.excluded = .error fault ∧ why = .imports fault := by
  rw [findFiles] at failed
  cases search : Search.find tree directory (globsOf request) request.patterns
      settings.excluded with
  | error fault =>
      simp only [search, throw, throwThe, MonadExceptOf.throw, bind, Except.bind] at failed
      cases failed
      exact Or.inl ⟨fault, rfl, rfl⟩
  | ok matched =>
      simp only [search, bind, Except.bind, pure, Except.pure] at failed
      split at failed
      · cases failed
      · next goesOn =>
          simp only [Bool.or_eq_true, decide_eq_true_eq, not_or] at goesOn
          split at failed
          · cases failed
          · next fault followed =>
              cases failed
              exact Or.inr ⟨matched, fault, rfl, by simpa using goesOn.1, goesOn.2, followed, rfl⟩

/-- Finding the files of a directory fails with a fault that is not about files only if the
directory stops the run. -/
theorem stops_of_findFiles {moment : Moment}
    (failed : findFiles settings request moment.tree moment.directory = .error why)
    (notAboutFiles : why.isAboutFiles = false) : moment.Stops settings request := by
  rcases findFiles_error failed with
    ⟨fault, search, rfl⟩ | ⟨matched, fault, search, unempty, followed, imported, rfl⟩
  · rcases Search.find_error_iff.mp search with missing | ⟨root, there, fails⟩
    · rw [checkBase_error missing] at notAboutFiles
      cases notAboutFiles
    · split at fails
      · next deep => exact .glob there deep
      · obtain ⟨looked, unread⟩ := fails
        obtain ⟨text, member, _, unreadable, notMalformed, rfl⟩ := Search.readPatterns_error unread
        exact .pattern there looked member unreadable notMalformed
  · exact .imports search unempty followed imported notAboutFiles

/-- Where a fault comes from that ends the run while files are found. -/
theorem escapes_of_findFiles (failed : findFiles settings request tree directory = .error why)
    (notAboutFiles : why.isAboutFiles = false) : Escapes settings request why := by
  rcases findFiles_error failed with ⟨fault, search, rfl⟩ | ⟨_, fault, _, _, _, imported, rfl⟩
  · rcases Search.find_error_iff.mp search with missing | ⟨_, _, fails⟩
    · rw [checkBase_error missing] at notAboutFiles
      cases notAboutFiles
    · split at fails
      · next deep =>
          subst fails
          obtain ⟨text, member, tooDeep⟩ := mem_globs_of_isTooDeep deep
          exact .glob member tooDeep
      · obtain ⟨text, member, _, unreadable, notMalformed, rfl⟩ :=
          Search.readPatterns_error fails.2
        exact .pattern member unreadable notMalformed
  · have arises := Import.references_fault imported
    cases fault with
    | storage _ _ => cases notAboutFiles
    | emptyName text =>
        obtain ⟨module, nameless, rfl⟩ :
            ∃ module : Path, module.name = [] ∧ text = module.text := arises
        exact .emptyName nameless
    | document other =>
        obtain ⟨notMalformed, package, text, read, unread⟩ := arises
        exact .document read unread notMalformed

/-! ## One directory -/

theorem sectionOf_failed (environment : Environment)
    (failed : findFiles settings request tree directory = .error why)
    (aboutFiles : why.isAboutFiles = true) :
    (sectionOf environment settings request tree directory).result =
        .ok (Bundle.failed request directory why) ∧
      (sectionOf environment settings request tree directory).tree = tree := by
  rw [sectionOf, failed]
  simp only [aboutFiles, if_true, and_self]

/-- If the files are found, a section is missing only if a bundle is wanted and the number of
levels is too long for a text. -/
theorem sectionOf_error_of_found (environment : Environment) {files : Files}
    (found : findFiles settings request tree directory = .ok files) :
    (sectionOf environment settings request tree directory).result = .error why ↔
      why = .depthTooLong ∧ Wanted request files ∧
        Text.isTooLong (depthOf settings request) = true := by
  rw [sectionOf, found, Wanted]
  dsimp only
  split
  · next unwanted =>
      simp only [reduceCtorEq, false_iff]
      rintro ⟨-, wanted, -⟩
      simp only [Bool.and_eq_true, List.isEmpty_iff, Bool.not_eq_true', Bool.and_eq_false_iff,
        List.isEmpty_eq_false_iff] at unwanted
      obtain ⟨globs, patterns⟩ := wanted unwanted.1
      exact unwanted.2.elim (fun some => some globs) (fun some => some patterns)
  · next wanted =>
      have asked : files.matched = [] → request.globs = [] ∧ request.patterns = [] := by
        intro none
        simpa [none] using wanted
      split
      · next long =>
          simp only [Except.error.injEq]
          exact ⟨fun same => ⟨same.symm, asked, long⟩, fun all => all.1.symm⟩
      · next short =>
          split <;>
          · simp only [reduceCtorEq, false_iff]
            exact fun all => short all.2.2

/-- Describing a directory ends a run only if finding its files has a fault that is not
about files, or a bundle is wanted and cannot be kept. -/
theorem sectionOf_error_iff (environment : Environment) :
    (sectionOf environment settings request tree directory).result = .error why ↔
      findFiles settings request tree directory = .error why ∧ why.isAboutFiles = false ∨
        why = .depthTooLong ∧ ∃ files, findFiles settings request tree directory = .ok files ∧
          Wanted request files ∧ Text.isTooLong (depthOf settings request) = true := by
  cases found : findFiles settings request tree directory with
  | ok files =>
      rw [sectionOf_error_of_found environment found]
      simp
  | error other =>
      simp only [Except.error.injEq, reduceCtorEq, false_and, exists_false, and_false, or_false]
      by_cases aboutFiles : other.isAboutFiles = true
      · have result := (sectionOf_failed environment found aboutFiles).1
        simp only [result, reduceCtorEq, false_iff, not_and]
        rintro rfl
        simp [aboutFiles]
      · rw [sectionOf, found]
        simp only [aboutFiles, Bool.false_eq_true, if_false, Except.error.injEq]
        constructor
        · rintro rfl
          exact ⟨rfl, by simpa using aboutFiles⟩
        · exact fun same => same.1

/-- Describing a directory ends a run exactly if the directory stops it. -/
theorem stops_iff (environment : Environment) {moment : Moment} :
    (∃ why, (sectionOf environment settings request moment.tree moment.directory).result =
        .error why) ↔ moment.Stops settings request := by
  constructor
  · rintro ⟨why, ended⟩
    rcases (sectionOf_error_iff environment).mp ended with
      ⟨failed, notAboutFiles⟩ | ⟨-, files, found, wanted, long⟩
    · exact stops_of_findFiles failed notAboutFiles
    · exact .depth found wanted long
  · intro stops
    have ends {why : Fault} (failed : findFiles settings request moment.tree moment.directory =
        .error why) (notAboutFiles : why.isAboutFiles = false) : ∃ why, (sectionOf environment
          settings request moment.tree moment.directory).result = .error why :=
      ⟨why, (sectionOf_error_iff environment).mpr (Or.inl ⟨failed, notAboutFiles⟩)⟩
    cases stops with
    | glob there deep =>
        exact ends (findFiles_of_find_error (Search.find_of_tooDeep there deep)) rfl
    | pattern there looked member unread notMalformed =>
        obtain ⟨why, failed⟩ := Search.readPatterns_of_unread member unread notMalformed
        obtain ⟨_, _, fault, _, _, rfl⟩ := Search.readPatterns_error failed
        by_cases deep : Glob.Selection.isTooDeep (globsOf request) = true
        · exact ends (findFiles_of_find_error (Search.find_of_tooDeep there deep)) rfl
        · have search : Search.find moment.tree moment.directory (globsOf request) request.patterns
              settings.excluded = .error (.pattern fault) :=
            Search.find_error_iff.mpr
              (Or.inr ⟨_, there, by rw [if_neg deep]; exact ⟨looked, failed⟩⟩)
          exact ends (findFiles_of_find_error search) rfl
    | imports search unempty followed imported notAboutFiles =>
        exact ends (findFiles_of_imports_error search unempty followed imported) notAboutFiles
    | depth found wanted long =>
        exact ⟨_, (sectionOf_error_iff environment).mpr (Or.inr ⟨rfl, _, found, wanted, long⟩)⟩

theorem isSection {moment : Moment} {text : Text}
    (result : (sectionOf environment settings request moment.tree moment.directory).result =
      .ok text) : IsSection environment settings request moment text := by
  refine ⟨result, fun why found => ?_⟩
  by_cases aboutFiles : why.isAboutFiles = true
  · obtain ⟨failed, unchanged⟩ := sectionOf_failed environment found aboutFiles
    rw [result] at failed
    exact ⟨Except.ok.inj failed, unchanged⟩
  · have escapes := (sectionOf_error_iff environment).mpr
      (Or.inl ⟨found, by simpa using aboutFiles⟩)
    rw [result] at escapes
    cases escapes

/-! ## Several directories -/

theorem moments_directory (tree : Tree) (directories : List Path) :
    (moments environment settings request tree directories).map Moment.directory = directories := by
  induction directories generalizing tree with
  | nil => rfl
  | cons directory rest inductionHypothesis =>
      rw [moments, List.map_cons, inductionHypothesis]

/-- Several directories are described together if each of them is. -/
theorem sectionsOf_ok_iff {directories : List Path} {texts : List Text} :
    (sectionsOf environment settings request tree directories).result = .ok texts ↔
      List.Forall₂ (IsSection environment settings request)
        (moments environment settings request tree directories) texts := by
  induction directories generalizing tree texts with
  | nil =>
      rw [sectionsOf, moments]
      cases texts <;> simp
  | cons directory rest inductionHypothesis =>
      rw [sectionsOf, moments]
      cases first : (sectionOf environment settings request tree directory).result with
      | error why =>
          constructor
          · intro impossible
            cases impossible
          · rintro (_ | ⟨head, _⟩)
            have result := head.result
            rw [first] at result
            cases result
      | ok text =>
          dsimp only
          cases later : (sectionsOf environment settings request
              (sectionOf environment settings request tree directory).tree rest).result with
          | error why =>
              constructor
              · intro impossible
                cases impossible
              · rintro (_ | ⟨_, tail⟩)
                have result := inductionHypothesis.mpr tail
                rw [later] at result
                cases result
          | ok others =>
              constructor
              · intro same
                cases same
                exact .cons (isSection first) (inductionHypothesis.mp later)
              · rintro (_ | ⟨head, tail⟩)
                have result := head.result
                have results := inductionHypothesis.mpr tail
                rw [first] at result
                rw [later] at results
                cases result
                cases results
                rfl

/-- Describing several directories fails with a fault of one of them. -/
theorem sectionsOf_error {directories : List Path}
    (failed : (sectionsOf environment settings request tree directories).result = .error why) :
    ∃ moment ∈ moments environment settings request tree directories,
      (sectionOf environment settings request moment.tree moment.directory).result =
        .error why := by
  induction directories generalizing tree with
  | nil => cases failed
  | cons directory rest inductionHypothesis =>
      rw [sectionsOf] at failed
      rw [moments]
      cases first : (sectionOf environment settings request tree directory).result with
      | error other =>
          rw [first] at failed
          cases failed
          exact ⟨_, List.mem_cons_self, first⟩
      | ok text =>
          simp only [first] at failed
          cases later : (sectionsOf environment settings request
              (sectionOf environment settings request tree directory).tree rest).result with
          | error other =>
              rw [later] at failed
              cases failed
              obtain ⟨moment, member, fault⟩ := inductionHypothesis later
              exact ⟨moment, List.mem_cons_of_mem _ member, fault⟩
          | ok others =>
              rw [later] at failed
              cases failed

/-! ## The whole run -/

private theorem related_of_mem {α β : Type} {related : α → β → Prop} {values : List α}
    {others : List β} (all : List.Forall₂ related values others) {value : α}
    (member : value ∈ values) : ∃ other, related value other := by
  induction all with
  | nil => cases member
  | cons here _ inductionHypothesis =>
      rcases List.mem_cons.mp member with rfl | member
      · exact ⟨_, here⟩
      · exact inductionHypothesis member

/-- Directories cannot be chosen only if a configured one has a path that no file system
takes. -/
theorem select_error {terms : List Text} {why : SelectionFault}
    (failed : select settings tree terms = .error why) :
    ∃ directory ∈ settings.searchable, ∃ refusal,
      tree.status directory = .error refusal ∧ why = ⟨refusal, directory.text⟩ := by
  rw [select] at failed
  split at failed
  · cases failed
  · cases chosen : settings.searchable.mapM (chosenFor tree (usableTerms terms)) with
    | ok directories =>
        rw [chosen] at failed
        cases failed
    | error other =>
        rw [chosen] at failed
        cases failed
        obtain ⟨directory, member, refused⟩ := error_of_mapM chosen
        rw [chosenFor] at refused
        split at refused
        · next refusal status =>
            cases refused
            exact ⟨directory, member, refusal, status, rfl⟩
        · split at refused <;> cases refused
        · cases refused

end Bundle
end Codemap
