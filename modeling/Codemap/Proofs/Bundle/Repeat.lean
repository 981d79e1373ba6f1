import Codemap.Proofs.Bundle.Answer
import Codemap.Proofs.Cache.Lasting

namespace Codemap
namespace Bundle

/-!
# Asking twice

Answering a request writes into the cache directory, and asking again may be answered from
there.  So the same request gets the same text again if what was written does not matter to
what is found.  The entries of the cache must not be seen when files are searched, no
directory that is made for the cache may be one that the terms choose or lend its place to a
name that is too long, and no two bundles may share a fingerprint.

Even then the texts are the same up to line endings only, because a carriage return does not
survive being written to the cache and read back.
-/

open Codemap.Tree

variable {environment : Environment} {settings : Settings} {request : Request}
  {start final tree left right : Tree} {directory : Path} {directories : List Path} {files : Files}

/-! ## Texts that are read again -/

/-- A later text is an earlier one, or what is read from a file in which it was written. -/
def Rereads (early late : Text) : Prop :=
  late = early ∨ late = early.unifyNewlines

namespace Rereads

variable {early late last : Text}

theorem refl (text : Text) : Rereads text text :=
  Or.inl rfl

theorem trans (first : Rereads early late) (second : Rereads late last) : Rereads early last := by
  rcases second with rfl | rfl
  · exact first
  · rcases first with rfl | rfl
    · exact Or.inr rfl
    · exact Or.inr (Text.unifyNewlines_unifyNewlines early)

theorem unified (rereads : Rereads early late) : late.unifyNewlines = early.unifyNewlines := by
  rcases rereads with rfl | rfl
  · rfl
  · exact Text.unifyNewlines_unifyNewlines early

theorem closed (rereads : Rereads early late) (closed : Text.Closed early) : Text.Closed late := by
  rcases rereads with rfl | rfl
  · exact closed
  · exact Text.closed_of_noReturn (Text.noReturn_unifyNewlines early)

theorem eq_of_noReturn (rereads : Rereads early late) (noReturn : '\r' ∉ early) : late = early := by
  rcases rereads with rfl | rfl
  · rfl
  · exact Text.unifyNewlines_eq_self noReturn

end Rereads

/-! ## What two calls must find -/

/-- The directories that a request chooses. -/
def chosen (settings : Settings) (request : Request) (tree : Tree) : List Path :=
  (select settings tree request.terms).toOption.getD []

/-- No name that is too long keeps directories from being chosen or files from being found. -/
structure Short (settings : Settings) (request : Request) (directories : List Path) (tree : Tree) :
    Prop where
  select : ∀ why, select settings tree request.terms = .error why → ¬ why.IsLong
  findFiles : ∀ directory ∈ directories, ∀ why,
    findFiles settings request tree directory = .error why → ¬ why.IsLong

/-- What the calls write does not matter to what they find. -/
structure Undisturbed (settings : Settings) (request : Request) (start final : Tree) : Prop where
  /-- No search comes upon the entries of the cache. -/
  unseen : ∀ directory ∈ chosen settings request start,
    Unseen settings.cacheDirectory.names (Cache.isHiddenIn settings.cacheDirectory.names start)
      settings request start directory
  /-- No directory that the terms choose is made on the way to the cache. -/
  unmade : ∀ configured ∈ settings.searchable, ∀ offered, Offered configured offered →
    offered.names <+: settings.cacheDirectory.names →
      nameMatches (usableTerms request.terms) offered.name = true →
        start.root.at? offered.names ≠ none
  /-- The fingerprints of the bundles do not collide. -/
  collisionless : ∀ directory ∈ chosen settings request start,
    ∀ files, bundled? settings request start directory = some files →
      ∀ other ∈ chosen settings request start,
        ∀ otherFiles, bundled? settings request start other = some otherFiles →
          Cache.fingerprintOf (subjectOf settings request start directory files).canonicalText =
              Cache.fingerprintOf (subjectOf settings request start other otherFiles).canonicalText →
            (subjectOf settings request start directory files).canonicalText =
              (subjectOf settings request start other otherFiles).canonicalText
  /-- A cache directory that had to be made leads to no name that is too long. -/
  short : start.Lacks settings.cacheDirectory.names →
    Short settings request (chosen settings request start) final

/-- Without a setting bundles are kept below a hidden directory, where no search sees them unless
it begins there. -/
theorem unseen_defaultCache {root : List Text} {hidden : Text → Bool}
    (cache : settings.cacheDirectory.names = root ++ Settings.defaultCache)
    (searched : Searched tree directory)
    (outside : ¬ root ++ Settings.defaultCache.take 1 <+: directory.names) (request : Request) :
    Unseen settings.cacheDirectory.names hidden settings request tree directory := by
  have split : settings.cacheDirectory.names =
      root ++ Settings.defaultCache.take 1 ++ Settings.defaultCache.drop 1 := by
    rw [cache, List.append_assoc, List.take_append_drop]
  by_cases above : directory.names <+: root
  · obtain ⟨way, below⟩ := above
    have barred : Walk.isPruned settings.excluded false ".localctx".toList = true := rfl
    refine unseen_of_pruned (show directory.names ++ (way ++ Settings.defaultCache) = _ by
      rw [cache, ← List.append_assoc, below]) ⟨_, ?_, barred⟩ request tree
    exact List.mem_append_right way List.mem_cons_self
  · refine unseen_of_clear searched ⟨fun onTheWay => ?_, fun name _ below => outside ?_⟩ settings
      request
    · rw [split] at onTheWay
      rcases List.prefix_or_prefix_of_prefix onTheWay (List.prefix_append _ _) with upon | beyond
      · rcases List.prefix_concat_iff.mp (show directory.names <+: root ++ [_] from upon) with
          same | inside
        · exact outside (same ▸ List.prefix_refl _)
        · exact above inside
      · exact outside beyond
    · rw [split, List.append_assoc] at below
      exact (List.prefix_append _ _).trans below

/-- No name is found too long if those of the configured directories are not, and imports are not
followed. -/
theorem short_of_shallow (searchable : ∀ configured ∈ settings.searchable, configured.Resolved)
    (fits : ∀ configured ∈ settings.searchable, ∀ name ∈ configured.names,
      (Utf8.encode name).length ≤ longestName)
    (shallow : depthOf settings request = 0) (directories : List Path) (tree : Tree) :
    Short settings request directories tree where
  select := by
    rintro why failed -
    obtain ⟨configured, member, refusal, status, _⟩ := select_error failed
    have seen : tree.glimpse [] configured.names = .error refusal := by
      rw [← (searchable configured member).plain.sight_eq, sight, status]
      rfl
    obtain ⟨name, inside, long⟩ := tooLong_of_glimpse seen
    exact Nat.not_lt.mpr (fits configured member name inside) long
  findFiles := by
    rintro directory - why failed ⟨fault, -, rfl⟩
    rw [Bundle.findFiles] at failed
    cases search : Search.find tree directory (globsOf request) request.patterns
        settings.excluded with
    | error why =>
        simp only [search, throw, throwThe, MonadExceptOf.throw, bind, Except.bind] at failed
        cases failed
    | ok matched =>
        simp only [search, shallow, decide_true, Bool.or_true, if_true, bind, Except.bind, pure,
          Except.pure] at failed
        cases failed

/-- Settings and files with which calls can be made. -/
structure Calm (settings : Settings) (request : Request) (start final : Tree) : Prop extends
    Undisturbed settings request start final where
  cache : settings.cacheDirectory.Resolved
  searchable : ∀ configured ∈ settings.searchable, configured.Resolved
  lawful : start.Lawful
  top : start.root.isDirectory = true

/-! ## How the files change -/

/-- The files of one moment have become those of another in the course of calls that began with
certain files. -/
abbrev Became (settings : Settings) (start left right : Tree) : Prop :=
  Grown (start.Lacks settings.cacheDirectory.names) settings.cacheDirectory.names
    (Cache.isHiddenIn settings.cacheDirectory.names start) left right

/-- Files that are reached in the course of calls. -/
structure Reached (settings : Settings) (start tree : Tree) : Prop where
  became : Became settings start start tree
  lawful : tree.Lawful

theorem overlooks_isHiddenIn (settings : Settings) (start : Tree) :
    Import.Overlooks (Cache.isHiddenIn settings.cacheDirectory.names start) :=
  (Cache.hides_isHiddenIn settings.cacheDirectory.names start).overlooks

/-- A section leaves the files as they are, or it stores the bundle that it has made. -/
theorem sectionOf_tree (environment : Environment) (settings : Settings) (request : Request)
    (tree : Tree) (directory : Path) :
    (sectionOf environment settings request tree directory).tree = tree ∨
      ∃ files, bundled? settings request tree directory = some files ∧
        Cache.lookup settings.cacheDirectory tree (cacheRequest settings request tree directory)
            files.all = none ∧
        (sectionOf environment settings request tree directory).tree =
          (Cache.store settings.cacheDirectory tree (cacheRequest settings request tree directory)
            files.all (render (contentOf environment tree directory files)) environment.now).2 := by
  cases bundled : bundled? settings request tree directory with
  | none => exact Or.inl (@sectionOf_unbundled _ _ { tree } _ environment bundled).2
  | some files =>
      cases looked : Cache.lookup settings.cacheDirectory tree
          (cacheRequest settings request tree directory) files.all with
      | some text => exact Or.inl (@sectionOf_hit _ _ { tree } _ _ environment bundled _ looked).2
      | none =>
          exact Or.inr ⟨files, rfl, looked,
            (@sectionOf_miss _ _ { tree } _ _ environment bundled looked).2⟩

namespace Calm

variable (calm : Calm settings request start final)

include calm

theorem start_reached : Reached settings start start :=
  ⟨Grown.refl (Cache.hides_isHiddenIn settings.cacheDirectory.names start).files, calm.lawful⟩

/-- A store finds the cache directory in a state in which bundles last. -/
theorem lasts_store (reached : Reached settings start tree) (asked : Cache.Request)
    (files : List Text) (content now : Text) :
    Cache.Lasts settings.cacheDirectory (Cache.isHiddenIn settings.cacheDirectory.names start)
      (.now tree asked files) content tree
      (Cache.store settings.cacheDirectory tree asked files content now).2 := by
  have top : tree.root.isDirectory = true := by
    cases root : start.root with
    | file bytes changed =>
        have top := calm.top
        rw [root] at top
        cases top
    | directory children =>
        obtain ⟨others, there⟩ := reached.became.directory List.nil_prefix
          (show start.root.at? [] = some (.directory children) by rw [root]; rfl)
        rw [Option.some.inj there]
        rfl
  exact Cache.lasts_store reached.lawful top calm.cache.plain calm.cache.legible
    ((Cache.hides_isHiddenIn _ start).of_grown reached.became) asked files content now

/-- Describing a directory leads on. -/
theorem reached_sectionOf (reached : Reached settings start tree) (environment : Environment)
    (asked : Request) (directory : Path) :
    Reached settings start (sectionOf environment settings asked tree directory).tree ∧
      Became settings start tree (sectionOf environment settings asked tree directory).tree := by
  rcases sectionOf_tree environment settings asked tree directory with same | ⟨files, _, _, stored⟩
  · rw [same]
    exact ⟨reached, Grown.refl reached.became.rightFiles⟩
  · have lasts := calm.lasts_store reached (cacheRequest settings asked tree directory) files.all
      (render (contentOf environment tree directory files)) environment.now
    rw [← stored] at lasts
    have became := lasts.grown.mono reached.became.lacks
    exact ⟨⟨reached.became.trans became, lasts.lawful⟩, became⟩

theorem reached_sectionsOf (reached : Reached settings start tree) (environment : Environment)
    (asked : Request) (directories : List Path) :
    Reached settings start (sectionsOf environment settings asked tree directories).tree ∧
      Became settings start tree (sectionsOf environment settings asked tree directories).tree := by
  induction directories generalizing tree with
  | nil => exact ⟨reached, Grown.refl reached.became.rightFiles⟩
  | cons directory rest inductionHypothesis =>
      obtain ⟨next, became⟩ := calm.reached_sectionOf reached environment asked directory
      rw [sectionsOf]
      dsimp only
      split
      · exact ⟨next, became⟩
      · obtain ⟨last, later⟩ := inductionHypothesis next
        exact ⟨last, became.trans later⟩

theorem reached_fetch (reached : Reached settings start tree) (environment : Environment)
    (asked : Request) :
    Reached settings start (fetch environment settings asked tree).tree ∧
      Became settings start tree (fetch environment settings asked tree).tree := by
  have stays : Reached settings start tree ∧ Became settings start tree tree :=
    ⟨reached, Grown.refl reached.became.rightFiles⟩
  rw [fetch]
  dsimp only
  split
  · exact stays
  · exact stays
  · next directories _ _ => exact calm.reached_sectionsOf reached environment asked directories

end Calm

/-! ## What is found again -/

/-- A moment in the course of calls that end with certain files. -/
structure Stage (settings : Settings) (start final tree : Tree) : Prop extends
    Reached settings start tree where
  ahead : Became settings start tree final
  ending : final.Lawful

theorem Stage.last (stage : Stage settings start final tree) : Stage settings start final final :=
  ⟨⟨stage.became.trans stage.ahead, stage.ending⟩, Grown.refl stage.ahead.rightFiles, stage.ending⟩

theorem mem_chosen_iff : directory ∈ chosen settings request start ↔
    ∃ directories, select settings start request.terms = .ok directories ∧ directory ∈ directories := by
  rw [chosen]
  cases select settings start request.terms <;> simp [Except.toOption]

namespace Calm

variable (calm : Calm settings request start final)

include calm

theorem select_repeats (reached : Reached settings start left) (became : Became settings start left right)
    (lawful : right.Lawful) :
    Repeats (start.Lacks settings.cacheDirectory.names) SelectionFault.IsLong Eq
      (select settings left request.terms) (select settings right request.terms) := by
  have lawfulIfThere {tree : Tree} (lawful : tree.Lawful) (names : List Text) :
      Entry.LawfulIfThere (tree.root.at? names) :=
    fun _ found => (Entry.isLawful_of_at? lawful found).2
  refine Bundle.select_repeats fun configured member => ?_
  have plain := (calm.searchable configured member).plain
  by_cases above : configured.names <+: settings.cacheDirectory.names
  · refine chosenFor_repeats_above became plain above (lawfulIfThere reached.lawful _)
      (lawfulIfThere lawful _) fun offered listed onTheWay fits missing => ?_
    have grows := reached.became.above offered.names onTheWay
    have there := calm.unmade configured member offered listed onTheWay fits
    rw [missing] at grows
    generalize start.root.at? offered.names = early at grows there
    cases grows with
    | alike alike =>
        cases alike
        exact there rfl
  · exact chosenFor_repeats became plain above _

/-- The same directories are chosen all along. -/
theorem select_eq (stage : Stage settings start final tree) :
    select settings tree request.terms = select settings start request.terms :=
  (calm.select_repeats calm.start_reached stage.became stage.lawful).eq fun lacks =>
    (calm.select_repeats stage.toReached stage.ahead stage.ending).short (calm.short lacks).select

/-- They can be searched all along. -/
theorem searched (stage : Stage settings start final tree)
    (member : directory ∈ chosen settings request start) : Searched tree directory := by
  obtain ⟨directories, selected, listed⟩ := mem_chosen_iff.mp member
  rw [← calm.select_eq stage] at selected
  exact (searched_of_select calm.searchable
    (fun configured _ => Walk.lawfulAt_of_lawful stage.lawful configured) selected directory listed).1

theorem start_searched (member : directory ∈ chosen settings request start) :
    Searched start directory := by
  obtain ⟨directories, selected, listed⟩ := mem_chosen_iff.mp member
  exact (searched_of_select calm.searchable
    (fun configured _ => Walk.lawfulAt_of_lawful calm.lawful configured) selected directory listed).1

/-- The same files are found all along. -/
theorem findFiles_eq (stage : Stage settings start final tree)
    (member : directory ∈ chosen settings request start) :
    findFiles settings request tree directory = findFiles settings request start directory := by
  have overlooks := overlooks_isHiddenIn settings start
  have unseen := calm.unseen directory member
  have searched := calm.searched stage member
  have early := findFiles_repeats stage.became (calm.start_searched member) searched overlooks unseen
  have late := findFiles_repeats stage.ahead searched (calm.searched stage.last member) overlooks
    (unseen.of_grown stage.became overlooks)
  exact early.eq fun lacks => late.short ((calm.short lacks).findFiles directory member)

theorem bundled?_eq (stage : Stage settings start final tree)
    (member : directory ∈ chosen settings request start) :
    bundled? settings request tree directory = bundled? settings request start directory := by
  rw [bundled?, bundled?, calm.findFiles_eq stage member]

theorem subject_eq (stage : Stage settings start final tree)
    (member : directory ∈ chosen settings request start)
    (found : findFiles settings request start directory = .ok files) :
    subjectOf settings request tree directory files =
      subjectOf settings request start directory files :=
  (subjectOf_eq stage.became (calm.start_searched member) (overlooks_isHiddenIn settings start)
    (calm.unseen directory member) found).symm

theorem content_eq (stage : Stage settings start final tree)
    (member : directory ∈ chosen settings request start)
    (found : findFiles settings request start directory = .ok files) (environment : Environment) :
    contentOf environment tree directory files = contentOf environment start directory files := by
  have described : ∀ name ∈ readmeNames,
      Cache.isHiddenIn settings.cacheDirectory.names start name = false := by
    intro name listed
    rw [Cache.isHiddenIn, readmeNames_shown name listed]
    rfl
  exact (contentOf_twin stage.became (calm.start_searched member)
    (overlooks_isHiddenIn settings start) (calm.unseen directory member) described environment
    found).symm

end Calm

/-! ## What is read again -/

/-- The bundle that a section shows for files: what the cache has, or else a new one. -/
def shownFor (environment : Environment) (settings : Settings) (request : Request) (start : Tree)
    (directory : Path) (files : Files) (tree : Tree) : Text :=
  (Cache.lookupFor settings.cacheDirectory tree
    (subjectOf settings request start directory files)).getD
      (render (contentOf environment start directory files))

/-- Later files show the bundles that earlier ones show, as they are read again. -/
def Recalls (environment : Environment) (settings : Settings) (request : Request)
    (start left right : Tree) : Prop :=
  ∀ directory ∈ chosen settings request start, ∀ files,
    bundled? settings request start directory = some files →
      Rereads (shownFor environment settings request start directory files left)
        (shownFor environment settings request start directory files right)

theorem Recalls.refl (tree : Tree) : Recalls environment settings request start tree tree :=
  fun _ _ _ _ => .refl _

theorem Recalls.trans {last : Tree} (first : Recalls environment settings request start left right)
    (second : Recalls environment settings request start right last) :
    Recalls environment settings request start left last :=
  fun directory member files bundled =>
    (first directory member files bundled).trans (second directory member files bundled)

/-- The section of a directory: it does not depend on the moment, or it shows the bundle for its
files. -/
theorem Calm.sectionOf_eq (calm : Calm settings request start final)
    (stage : Stage settings start final tree) (member : directory ∈ chosen settings request start)
    (environment : Environment) :
    (sectionOf environment settings request tree directory).result =
      match bundled? settings request start directory with
      | some files => .ok (shownFor environment settings request start directory files tree)
      | none => (sectionOf environment settings request start directory).result := by
  cases bundled : bundled? settings request start directory with
  | none =>
      have unbundled := bundled
      rw [← calm.bundled?_eq stage member] at unbundled
      rw [(@sectionOf_unbundled settings request { tree } directory environment unbundled).1,
        (@sectionOf_unbundled settings request { tree := start } directory environment bundled).1]
      rw [State.sectionAt, State.sectionAt, unbundled, bundled, calm.findFiles_eq stage member]
  | some files =>
      have found := (@bundled?_eq_some _ _ { tree := start } _ _ bundled).1
      have again := bundled
      rw [← calm.bundled?_eq stage member] at again
      have subject := calm.subject_eq stage member found
      cases looked : Cache.lookup settings.cacheDirectory tree
          (cacheRequest settings request tree directory) files.all with
      | some text =>
          rw [(@sectionOf_hit _ _ { tree } _ _ environment again _ looked).1]
          rw [Cache.lookup_eq_lookupFor, ← subjectOf, subject] at looked
          dsimp only
          rw [shownFor, looked]
          rfl
      | none =>
          rw [(@sectionOf_miss _ _ { tree } _ _ environment again looked).1]
          rw [Cache.lookup_eq_lookupFor, ← subjectOf, subject] at looked
          dsimp only
          rw [shownFor, looked, calm.content_eq stage member found]
          rfl

namespace Calm

variable (calm : Calm settings request start final)

include calm

/-- Bundles with one key are bundles of one directory. -/
theorem eq_of_key {other : Path} {otherFiles : Files}
    (member : directory ∈ chosen settings request start)
    (bundled : bundled? settings request start directory = some files)
    (otherMember : other ∈ chosen settings request start)
    (otherBundled : bundled? settings request start other = some otherFiles)
    (same : (subjectOf settings request start other otherFiles).key =
      (subjectOf settings request start directory files).key) :
    other = directory ∧ otherFiles = files := by
  have alike := Cache.Subject.alike_of_canonicalText (Cache.Subject.now_lawful _ _ _)
    (Cache.Subject.now_lawful _ _ _) (calm.collisionless other otherMember otherFiles otherBundled
      directory member files bundled (Cache.Subject.fingerprint_of_key same))
  have searched := calm.start_searched member
  have otherSearched := calm.start_searched otherMember
  have texts : (Path.resolve start.current other).text =
      (Path.resolve start.current directory).text := alike.1.1
  rw [otherSearched.resolve, searched.resolve] at texts
  obtain rfl := otherSearched.legible.eq_of_text searched.legible texts
  exact ⟨rfl, Option.some.inj (otherBundled.symm.trans bundled)⟩

/-- Describing a directory changes what is shown only for the bundle that it makes, and that one
is read again. -/
theorem recalls_sectionOf (stage : Stage settings start final tree)
    (member : directory ∈ chosen settings request start) (environment : Environment) :
    Recalls environment settings request start tree
      (sectionOf environment settings request tree directory).tree := by
  rcases sectionOf_tree environment settings request tree directory with
    same | ⟨files, bundled, missed, stored⟩
  · rw [same]
    exact .refl tree
  · rw [calm.bundled?_eq stage member] at bundled
    have found := (@bundled?_eq_some _ _ { tree := start } _ _ bundled).1
    have subject := calm.subject_eq stage member found
    have content := calm.content_eq stage member found environment
    have lasts := calm.lasts_store stage.toReached (cacheRequest settings request tree directory)
      files.all (render (contentOf environment tree directory files)) environment.now
    rw [← stored, ← subjectOf, subject, content] at lasts
    rw [Cache.lookup_eq_lookupFor, ← subjectOf, subject] at missed
    intro other otherMember otherFiles otherBundled
    rcases lasts.lookups (subjectOf settings request start other otherFiles) with
      same | ⟨key, gone | again⟩
    · left
      simp only [shownFor, same]
    · obtain ⟨rfl, rfl⟩ := calm.eq_of_key member bundled otherMember otherBundled key
      left
      simp only [shownFor, gone, missed]
    · obtain ⟨rfl, rfl⟩ := calm.eq_of_key member bundled otherMember otherBundled key
      right
      simp only [shownFor, again, missed, Option.getD_some, Option.getD_none]

theorem section_repeats (leftStage : Stage settings start final left)
    (rightStage : Stage settings start final right)
    (recalls : Recalls environment settings request start left right)
    (member : directory ∈ chosen settings request start) :
    Repeats False (fun _ => False) Rereads
      (sectionOf environment settings request left directory).result
      (sectionOf environment settings request right directory).result := by
  rw [calm.sectionOf_eq leftStage member, calm.sectionOf_eq rightStage member]
  cases bundled : bundled? settings request start directory with
  | some files => exact .ok (recalls directory member files bundled)
  | none =>
      dsimp only
      cases (sectionOf environment settings request start directory).result with
      | error why => exact .error why
      | ok text => exact .ok (.refl text)

/-- A moment before several directories are described. -/
theorem stage_of_ahead (reached : Reached settings start tree)
    (ahead : Became settings start
      (sectionsOf environment settings request tree directories).tree final)
    (ending : final.Lawful) : Stage settings start final tree :=
  ⟨reached, (calm.reached_sectionsOf reached environment request directories).2.trans ahead, ending⟩

theorem recalls_sectionsOf (reached : Reached settings start tree)
    (ahead : Became settings start
      (sectionsOf environment settings request tree directories).tree final)
    (ending : final.Lawful) (inside : ∀ directory ∈ directories, directory ∈ chosen settings request start) :
    Recalls environment settings request start tree
      (sectionsOf environment settings request tree directories).tree := by
  induction directories generalizing tree with
  | nil => exact .refl tree
  | cons directory rest inductionHypothesis =>
      have stage := calm.stage_of_ahead reached ahead ending
      have here := calm.recalls_sectionOf stage (inside directory List.mem_cons_self) environment
      have next := (calm.reached_sectionOf reached environment request directory).1
      rw [sectionsOf] at ahead ⊢
      dsimp only at ahead ⊢
      cases said : (sectionOf environment settings request tree directory).result with
      | error why => exact here
      | ok text =>
          simp only [said] at ahead
          exact here.trans (inductionHypothesis next ahead fun other member =>
            inside other (List.mem_cons_of_mem directory member))

/-- Sections that are asked for after a whole run over the same directories are read again.  The
second run begins when the first one is over, and it goes on while the later sections of the
first are compared, so what is recalled is carried from moment to moment. -/
theorem sections_repeat (leftReached : Reached settings start left)
    (rightReached : Reached settings start right)
    (leftAhead : Became settings start
      (sectionsOf environment settings request left directories).tree final)
    (rightAhead : Became settings start
      (sectionsOf environment settings request right directories).tree final)
    (ending : final.Lawful) (inside : ∀ directory ∈ directories, directory ∈ chosen settings request start)
    (recalls : Recalls environment settings request start
      (sectionsOf environment settings request left directories).tree right) :
    Repeats False (fun _ => False) (List.Forall₂ Rereads)
      (sectionsOf environment settings request left directories).result
      (sectionsOf environment settings request right directories).result := by
  induction directories generalizing left right with
  | nil => exact .ok .nil
  | cons directory rest inductionHypothesis =>
      have member := inside directory List.mem_cons_self
      have others : ∀ other ∈ rest, other ∈ chosen settings request start := fun other listed =>
        inside other (List.mem_cons_of_mem directory listed)
      have leftStage := calm.stage_of_ahead leftReached leftAhead ending
      have rightStage := calm.stage_of_ahead rightReached rightAhead ending
      have here := calm.section_repeats leftStage rightStage
        ((calm.recalls_sectionsOf leftReached leftAhead ending inside).trans recalls) member
      have further := calm.recalls_sectionOf rightStage member environment
      have leftNext := (calm.reached_sectionOf leftReached environment request directory).1
      have rightNext := (calm.reached_sectionOf rightReached environment request directory).1
      rw [sectionsOf] at leftAhead rightAhead recalls
      rw [sectionsOf, sectionsOf]
      dsimp only at leftAhead rightAhead recalls ⊢
      generalize leftSaid : (sectionOf environment settings request left directory).result = early
        at here leftAhead recalls
      generalize rightSaid : (sectionOf environment settings request right directory).result = late
        at here rightAhead
      cases here with
      | error why => exact .error why
      | tooLong impossible _ => exact impossible.elim
      | ok reread =>
          refine (inductionHypothesis leftNext rightNext leftAhead rightAhead others
            (recalls.trans further)).map fun _ _ _ _ reads => ?_
          exact .cons reread reads

end Calm

/-! ## Line endings of an answer -/

theorem closed_sectionOf {text : Text}
    (said : (sectionOf environment settings request tree directory).result = .ok text) :
    Text.Closed text := by
  rw [sectionOf] at said
  split at said
  · split at said
    · cases said
      exact closed_append_line _ _
    · cases said
  · split at said
    · cases said
      exact closed_append_line _ _
    · split at said
      · cases said
      dsimp only at said
      split at said
      · next found =>
          cases said
          rw [Cache.lookup_eq_lookupFor] at found
          exact Text.closed_of_noReturn (Cache.noReturn_of_lookupFor found)
      · rw [← Except.ok.inj said, makeNew]
        exact closed_render _

theorem closed_sectionsOf {texts : List Text}
    (said : (sectionsOf environment settings request tree directories).result = .ok texts) :
    ∀ text ∈ texts, Text.Closed text := by
  induction directories generalizing tree texts with
  | nil =>
      cases said
      exact fun text member => absurd member List.not_mem_nil
  | cons directory rest inductionHypothesis =>
      rw [sectionsOf] at said
      dsimp only at said
      split at said
      · cases said
      · next first here =>
          dsimp only at said
          cases later : (sectionsOf environment settings request
              (sectionOf environment settings request tree directory).tree rest).result with
          | error why =>
              rw [later] at said
              cases said
          | ok others =>
              rw [later] at said
              cases said
              exact List.forall_mem_cons.mpr ⟨closed_sectionOf here, inductionHypothesis later⟩

/-- Sections that are read again make an answer that is read again. -/
theorem joined_rereads {early late : List Text} (reads : List.Forall₂ Rereads early late)
    (closed : ∀ text ∈ early, Text.Closed text) :
    Text.unifyNewlines (List.intercalate separator late) =
        Text.unifyNewlines (List.intercalate separator early) ∧
      ('\r' ∉ List.intercalate separator early →
        List.intercalate separator late = List.intercalate separator early) := by
  have plain : '\r' ∉ separator := by decide
  have each : late.map Text.unifyNewlines = early.map Text.unifyNewlines ∧
      (∀ text ∈ late, Text.Closed text) ∧
      ((∀ text ∈ early, '\r' ∉ text) → late = early) := by
    induction reads with
    | nil => exact ⟨rfl, closed, fun _ => rfl⟩
    | cons reread _ inductionHypothesis =>
        obtain ⟨first, others⟩ := List.forall_mem_cons.mp closed
        obtain ⟨unified, lateClosed, same⟩ := inductionHypothesis others
        refine ⟨by rw [List.map_cons, List.map_cons, reread.unified, unified],
          List.forall_mem_cons.mpr ⟨reread.closed first, lateClosed⟩, fun noReturn => ?_⟩
        obtain ⟨here, later⟩ := List.forall_mem_cons.mp noReturn
        rw [reread.eq_of_noReturn here, same later]
  obtain ⟨unified, lateClosed, same⟩ := each
  refine ⟨?_, fun noReturn => ?_⟩
  · rw [Text.unifyNewlines_intercalate plain lateClosed, unified,
      Text.unifyNewlines_intercalate plain closed]
  · rw [same fun text listed inside => noReturn (Text.mem_intercalate listed inside)]

/-! ## Two calls -/

theorem fetch_of_error {why : SelectionFault} (environment : Environment)
    (refused : select settings tree request.terms = .error why) :
    (fetch environment settings request tree).result = .error (.selection why) := by
  rw [fetch, refused]

theorem fetch_of_none (environment : Environment)
    (none : select settings tree request.terms = .ok []) :
    (fetch environment settings request tree).result = .ok (noDirectories settings request) := by
  rw [fetch, none]

theorem fetch_of_some (environment : Environment)
    (some : select settings tree request.terms = .ok (directory :: directories)) :
    (fetch environment settings request tree).result =
        (sectionsOf environment settings request tree (directory :: directories)).result.map
          (List.intercalate separator) ∧
      (fetch environment settings request tree).tree =
        (sectionsOf environment settings request tree (directory :: directories)).tree := by
  rw [fetch, some]
  exact ⟨rfl, rfl⟩

/-- Whatever the settings say that can be loaded, and whatever the cache holds, a request that is
made twice gets the same text up to line endings, and a text without carriage returns exactly;
all this if what the calls write does not matter to what they find. -/
theorem fetch_repeats {surroundings : Environment} {project : Tree} {asked : Option Path}
    (grounded : Settings.Grounded surroundings project asked)
    (accepted : Settings.load surroundings project asked = .ok settings)
    (lawful : start.Lawful) (top : start.root.isDirectory = true)
    (undisturbed : Undisturbed settings request start
      (fetch environment settings request (fetch environment settings request start).tree).tree) :
    let first := fetch environment settings request start
    let second := fetch environment settings request first.tree
    second.result.map Text.unifyNewlines = first.result.map Text.unifyNewlines ∧
      ((∀ text, first.result = .ok text → '\r' ∉ text) → second.result = first.result) := by
  obtain ⟨cache, searchable⟩ := Settings.resolved_load grounded accepted
  intro first second
  have calm : Calm settings request start second.tree :=
    { undisturbed with cache, searchable, lawful, top }
  obtain ⟨reached, _⟩ := calm.reached_fetch calm.start_reached environment request
  obtain ⟨ending, ahead⟩ := calm.reached_fetch reached environment request
  have again := calm.select_eq ⟨reached, ahead, ending.lawful⟩
  have of_eq (same : second.result = first.result) :
      second.result.map Text.unifyNewlines = first.result.map Text.unifyNewlines ∧
        ((∀ text, first.result = .ok text → '\r' ∉ text) → second.result = first.result) :=
    ⟨congrArg _ same, fun _ => same⟩
  cases selected : select settings start request.terms with
  | error why =>
      rw [selected] at again
      exact of_eq ((fetch_of_error environment again).trans (fetch_of_error environment selected).symm)
  | ok directories =>
      rw [selected] at again
      cases directories with
      | nil =>
          exact of_eq ((fetch_of_none environment again).trans (fetch_of_none environment selected).symm)
      | cons directory rest =>
          obtain ⟨firstResult, firstTree⟩ : first.result =
                (sectionsOf environment settings request start (directory :: rest)).result.map
                  (List.intercalate separator) ∧
              first.tree = (sectionsOf environment settings request start (directory :: rest)).tree :=
            fetch_of_some environment selected
          obtain ⟨secondResult, secondTree⟩ : second.result =
                (sectionsOf environment settings request first.tree (directory :: rest)).result.map
                  (List.intercalate separator) ∧
              second.tree =
                (sectionsOf environment settings request first.tree (directory :: rest)).tree :=
            fetch_of_some environment again
          have inside : ∀ other ∈ directory :: rest, other ∈ chosen settings request start :=
            fun other member => mem_chosen_iff.mpr ⟨_, selected, member⟩
          have reads := calm.sections_repeat calm.start_reached reached
            (by rw [← firstTree]; exact ahead)
            (by rw [← secondTree]; exact Grown.refl ahead.rightFiles) ending.lawful inside
            (by rw [← firstTree]; exact .refl first.tree)
          rw [firstResult, secondResult]
          generalize said : (sectionsOf environment settings request start
            (directory :: rest)).result = early at reads
          generalize (sectionsOf environment settings request first.tree
            (directory :: rest)).result = late at reads
          cases reads with
          | error why => exact ⟨rfl, fun _ => rfl⟩
          | tooLong impossible _ => exact impossible.elim
          | ok reread =>
              obtain ⟨unified, same⟩ := joined_rereads reread (closed_sectionsOf said)
              exact ⟨congrArg Except.ok unified, fun noReturn => congrArg Except.ok (same (noReturn _ rfl))⟩

/-! ## A first request -/

/-- A project with a settings file, one file to be found, and no cache directory yet. -/
def freshProject : Tree where
  root := .directory
    [("lib".toList, .directory
      [("localctx.yml".toList, .file (Utf8.encode "searchable_directories: .\n".toList) 1),
        ("a.py".toList, .file (Utf8.encode "def f(): pass\n".toList) 2)])]
  current := { names := ["lib".toList] }

/-- The surroundings in which it is used. -/
def freshSurroundings : Environment := { home := { names := [] } }

/-- The settings that its settings file makes: the project is searched, and the cache lies below
it. -/
def freshSettings : Settings where
  root := { names := ["lib".toList] }
  file := { names := ["lib".toList, "localctx.yml".toList] }
  base := { names := ["lib".toList] }
  searchable := [{ names := ["lib".toList] }]
  cacheDirectory := { names := ["lib".toList] ++ Settings.defaultCache }

/-- A request for the file. -/
def freshRequest : Request :=
  { terms := ["lib".toList], globs := ["*.py".toList], depth := some 0 }

private theorem freshProject_undisturbed (final : Tree) :
    Undisturbed freshSettings freshRequest freshProject final := by
  have searchable : ∀ configured ∈ freshSettings.searchable, configured.Resolved := by
    intro configured member
    obtain rfl := List.mem_singleton.mp member
    exact ⟨rfl, by decide⟩
  have selected : select freshSettings freshProject freshRequest.terms =
      .ok freshSettings.searchable := by
    decide +kernel
  have only {directory : Path} (member : directory ∈ chosen freshSettings freshRequest freshProject) :
      directory = { names := ["lib".toList] } ∧ Searched freshProject directory := by
    obtain ⟨directories, same, listed⟩ := mem_chosen_iff.mp member
    obtain rfl := Except.ok.inj (selected.symm.trans same)
    exact ⟨List.mem_singleton.mp listed, (searched_of_select searchable
      (fun configured _ => Walk.lawfulAt_of_lawful (by decide) configured) selected _ listed).1⟩
  refine ⟨fun directory member => ?_, ?_, ?_, fun _ => ?_⟩
  · obtain ⟨rfl, searched⟩ := only member
    exact unseen_defaultCache rfl searched (by decide) freshRequest
  · intro configured member offered listed above _
    obtain rfl := List.mem_singleton.mp member
    cases listed with
    | itself => decide +kernel
    | @below name visible =>
        have next : name = ".localctx".toList := by
          simpa [Path.child, freshSettings, Settings.defaultCache] using above
        exact absurd (by rw [next]; rfl) visible
  · intro directory member files bundled other otherMember otherFiles otherBundled _
    obtain rfl := (only member).1
    obtain rfl := (only otherMember).1
    rw [Option.some.inj (otherBundled.symm.trans bundled)]
  · refine short_of_shallow searchable ?_ rfl _ final
    intro configured member
    obtain rfl := List.mem_singleton.mp member
    decide

/-- The first request in a project is answered again with the same text. -/
theorem freshProject_repeats :
    let first := fetch freshSurroundings freshSettings freshRequest freshProject
    let second := fetch freshSurroundings freshSettings freshRequest first.tree
    second.result.map Text.unifyNewlines = first.result.map Text.unifyNewlines ∧
      ((∀ text, first.result = .ok text → '\r' ∉ text) → second.result = first.result) := by
  have grounded : Settings.Grounded freshSurroundings freshProject none :=
    { current := ⟨rfl, by decide⟩
      home := ⟨rfl, by decide⟩
      homes := fun _ member => absurd member List.not_mem_nil
      asked := fun _ none => nomatch none }
  have accepted : Settings.load freshSurroundings freshProject none = .ok freshSettings := by
    decide +kernel
  exact fetch_repeats grounded accepted (by decide) rfl (freshProject_undisturbed _)

end Bundle
end Codemap
