import Codemap.Proofs.Bundle.Chosen

namespace Codemap
namespace Bundle

/-!
# What is remembered of bundles

Here the cache is a list of memories: the bundles that were kept, with the contents from
which they were made.  A section is then said in terms of the files alone.  It is a
notice, or the bundle for the files as they are, in which the description file and the
time are those of the latest alike bundle, if one is remembered.

The files change only below the configured directories, and a file that changes gets a
time that it never had.  This is what carries the proof: a place apart from the cache
never had the same time with different contents, so an alike bundle was made from the
same files.
-/

open Codemap.Tree

/-- A bundle that is kept: what for, and what is in it. -/
structure Memory where
  subject : Cache.Subject
  content : Content
deriving Inhabited

/-- What the cache keeps of it. -/
def Memory.kept (memory : Memory) : Cache.Kept :=
  ⟨memory.subject, render memory.content⟩

/-- The content of the latest bundle that is remembered for an alike subject. -/
def remembered (memories : List Memory) (subject : Cache.Subject) : Option Content :=
  (memories.find? fun memory => decide (memory.subject.Alike subject)).map Memory.content

/-- The files, the bundles that are kept, latest first, and the files there have been. -/
structure State where
  tree : Tree
  memories : List Memory := []
  past : List Tree := []
deriving Inhabited

/-- The cache of a state. -/
def State.cache (state : State) : Cache.State where
  tree := state.tree
  log := state.memories.map Memory.kept

/-! ## Sections -/

/-- A section of an answer. -/
inductive Section where
  /-- A text without a bundle. -/
  | notice (text : Text)
  /-- The bundle for the files as they are, and what is remembered of an alike one. -/
  | bundle (content : Content) (remembered : Option Content)
deriving Inhabited

namespace Section

/-- The text of a section that is made anew. -/
def fresh : Section → Text
  | .notice text => text
  | .bundle content _ => render content

/-- The text of a section.  What is remembered is read from the cache, and it shows the
description file and the time of when it was made. -/
def shown : Section → Text
  | .notice text => text
  | .bundle content none => render content
  | .bundle content (some old) =>
      (render { content with generated := old.generated, readme := old.readme }).unifyNewlines

end Section

variable (environment : Environment) (settings : Settings) (request : Request)

/-- The files for which a directory gets a bundle.  No bundle can be kept under a number of levels
that is too long for a text. -/
def bundled? (tree : Tree) (directory : Path) : Option Files :=
  match findFiles settings request tree directory with
  | .error _ => none
  | .ok files =>
      if files.matched.isEmpty && !(request.globs.isEmpty && request.patterns.isEmpty) then none
      else if Text.isTooLong (depthOf settings request) then none
      else some files

/-- The section of a directory in a state. -/
def State.sectionAt (state : State) (directory : Path) : Except Fault Section :=
  match bundled? settings request state.tree directory with
  | some files =>
      .ok (.bundle (contentOf environment state.tree directory files)
        (remembered state.memories (subjectOf settings request state.tree directory files)))
  | none =>
      match findFiles settings request state.tree directory with
      | .ok files =>
          if files.matched.isEmpty && !(request.globs.isEmpty && request.patterns.isEmpty) then
            .ok (.notice (nothingFound request directory))
          else .error .depthTooLong
      | .error why =>
          if why.isAboutFiles then .ok (.notice (failed request directory why)) else .error why

/-- The bundle that is newly kept when a directory is described. -/
def State.newMemory? (state : State) (directory : Path) : Option Memory :=
  match bundled? settings request state.tree directory with
  | none => none
  | some files =>
      let asked := cacheRequest settings request state.tree directory
      let content := contentOf environment state.tree directory files
      match Cache.lookup settings.cacheDirectory state.tree asked files.all,
        (Cache.store settings.cacheDirectory state.tree asked files.all (render content)
          environment.now).1 with
      | none, .ok _ => some ⟨subjectOf settings request state.tree directory files, content⟩
      | _, _ => none

/-- The state after a directory has been described. -/
def State.describe (state : State) (directory : Path) : State where
  tree := (sectionOf environment settings request state.tree directory).tree
  memories := (state.newMemory? environment settings request directory).toList ++ state.memories
  past := state.tree :: state.past

/-- The sections of several directories, each in the state that those before have left. -/
def State.sections (state : State) : List Path → Except Fault (List Section)
  | [] => .ok []
  | directory :: rest =>
      match state.sectionAt environment settings request directory with
      | .error why => .error why
      | .ok first =>
          ((state.describe environment settings request directory).sections rest).map (first :: ·)

/-- The state after several directories have been described.  A fault that is not about
files ends the run. -/
def State.describeAll (state : State) : List Path → State
  | [] => state
  | directory :: rest =>
      let next := state.describe environment settings request directory
      match state.sectionAt environment settings request directory with
      | .error _ => next
      | .ok _ => next.describeAll rest

/-- The subjects of the bundles that are asked for when directories are described. -/
def State.asked (state : State) : List Path → List Cache.Subject
  | [] => []
  | directory :: rest =>
      let next := state.describe environment settings request directory
      ((bundled? settings request state.tree directory).map
          (subjectOf settings request state.tree directory)).toList ++
        match state.sectionAt environment settings request directory with
        | .error _ => []
        | .ok _ => next.asked rest

/-- The answer to a request, each section in one of its two forms. -/
def State.answer (state : State) (form : Section → Text) : Except Fault Text :=
  match select settings state.tree request.terms with
  | .error why => .error (.selection why)
  | .ok [] => .ok (noDirectories settings request)
  | .ok directories =>
      (state.sections environment settings request directories).map fun sections =>
        List.intercalate separator (sections.map form)

/-- The state after a request has been answered. -/
def State.answered (state : State) : State :=
  match select settings state.tree request.terms with
  | .error _ => state
  | .ok directories => state.describeAll environment settings request directories

/-- The subjects of the bundles that a request asks for. -/
def State.wanted (state : State) : List Cache.Subject :=
  match select settings state.tree request.terms with
  | .error _ => []
  | .ok directories => state.asked environment settings request directories

/-- The sections of the answer to a request, if there are any. -/
def State.answerSections (state : State) : List Section :=
  match select settings state.tree request.terms with
  | .error _ => []
  | .ok directories =>
      (state.sections environment settings request directories).toOption.getD []

variable {environment settings request} {state : State} {directory : Path} {files : Files}
  {occurs : Cache.Subject → Prop}

/-! ## One section -/

theorem bundled?_eq_some (bundled : bundled? settings request state.tree directory = some files) :
    findFiles settings request state.tree directory = .ok files ∧
      (files.matched.isEmpty && !(request.globs.isEmpty && request.patterns.isEmpty)) = false ∧
        Text.isTooLong (depthOf settings request) = false := by
  rw [bundled?] at bundled
  split at bundled
  · cases bundled
  · split at bundled
    · cases bundled
    · next found asked =>
        split at bundled
        · cases bundled
        · next short =>
            cases bundled
            exact ⟨found, by simpa using asked, by simpa using short⟩

/-- A directory without a bundle leaves the files as they are. -/
theorem sectionOf_unbundled (environment : Environment)
    (unbundled : bundled? settings request state.tree directory = none) :
    (sectionOf environment settings request state.tree directory).result =
        (state.sectionAt environment settings request directory).map Section.shown ∧
      (sectionOf environment settings request state.tree directory).tree = state.tree := by
  rw [State.sectionAt, unbundled, sectionOf]
  rw [bundled?] at unbundled
  cases found : findFiles settings request state.tree directory with
  | error why =>
      dsimp only
      split
      · exact ⟨rfl, rfl⟩
      · exact ⟨rfl, rfl⟩
  | ok files =>
      simp only [found] at unbundled
      split at unbundled
      · next unasked => simp only [unasked, if_true, Except.map, Section.shown, and_self]
      · next asked =>
          split at unbundled
          · next long =>
              simp only [asked, Bool.false_eq_true, if_false, long, if_true, Except.map, and_self]
          · cases unbundled

/-- A bundle that the cache has. -/
theorem sectionOf_hit (environment : Environment)
    (bundled : bundled? settings request state.tree directory = some files)
    {text : Text} (hit : Cache.lookup settings.cacheDirectory state.tree
      (cacheRequest settings request state.tree directory) files.all = some text) :
    (sectionOf environment settings request state.tree directory).result = .ok text ∧
      (sectionOf environment settings request state.tree directory).tree = state.tree := by
  obtain ⟨found, asked, short⟩ := bundled?_eq_some bundled
  rw [sectionOf, found]
  simp only [asked, short, Bool.false_eq_true, if_false, hit, and_self]

/-- A bundle that is made anew. -/
theorem sectionOf_miss (environment : Environment)
    (bundled : bundled? settings request state.tree directory = some files)
    (miss : Cache.lookup settings.cacheDirectory state.tree
      (cacheRequest settings request state.tree directory) files.all = none) :
    (sectionOf environment settings request state.tree directory).result =
        .ok (render (contentOf environment state.tree directory files)) ∧
      (sectionOf environment settings request state.tree directory).tree =
        (Cache.store settings.cacheDirectory state.tree
          (cacheRequest settings request state.tree directory) files.all
          (render (contentOf environment state.tree directory files)) environment.now).2 := by
  obtain ⟨found, asked, short⟩ := bundled?_eq_some bundled
  rw [sectionOf, found]
  simp only [asked, short, Bool.false_eq_true, if_false, miss, makeNew, and_self]

/-- When a bundle is made anew, the cache stores it. -/
theorem describe_cache (environment : Environment)
    (bundled : bundled? settings request state.tree directory = some files)
    (miss : Cache.lookup settings.cacheDirectory state.tree
      (cacheRequest settings request state.tree directory) files.all = none) :
    (state.describe environment settings request directory).cache =
      Cache.Event.run settings.cacheDirectory state.cache
        (.store (cacheRequest settings request state.tree directory) files.all
          (render (contentOf environment state.tree directory files)) environment.now) := by
  have changed := (sectionOf_miss environment bundled miss).2
  rw [State.cache, State.describe, changed, State.newMemory?, bundled, Cache.Event.run]
  simp only [miss, State.cache]
  cases stored : Cache.store settings.cacheDirectory state.tree
      (cacheRequest settings request state.tree directory) files.all
      (render (contentOf environment state.tree directory files)) environment.now with
  | mk result after => cases result <;> rfl

/-- What is newly kept was made from the files as they are. -/
theorem newMemory?_eq_some {memory : Memory}
    (kept : state.newMemory? environment settings request directory = some memory) :
    ∃ files, bundled? settings request state.tree directory = some files ∧
      memory = ⟨subjectOf settings request state.tree directory files,
        contentOf environment state.tree directory files⟩ := by
  rw [State.newMemory?] at kept
  split at kept
  · cases kept
  · next files bundled =>
      dsimp only at kept
      split at kept <;> cases kept
      exact ⟨files, bundled, rfl⟩

/-- What is recalled is remembered of an alike bundle. -/
theorem exists_memory_of_recall {memories : List Memory} {subject : Cache.Subject} {old : Content}
    (recalled : remembered memories subject = some old) :
    ∃ memory ∈ memories, memory.subject.Alike subject ∧ memory.content = old := by
  rw [remembered, Option.map_eq_some_iff] at recalled
  obtain ⟨memory, first, content⟩ := recalled
  exact ⟨memory, List.mem_of_find?_eq_some first, by simpa using List.find?_some first, content⟩

/-! ## States that can be reached -/

/-- A memory is of a bundle that was made from files that there have been. -/
def Memory.Made (settings : Settings) (past : List Tree) (memory : Memory) : Prop :=
  ∃ (environment : Environment) (request : Request) (tree : Tree) (directory : Path)
    (files : Files), tree ∈ past ∧ Searched tree directory ∧
      Clear settings.cacheDirectory.names Cache.isEntryName directory.names ∧
      findFiles settings request tree directory = .ok files ∧
      memory.subject = subjectOf settings request tree directory files ∧
      memory.content = contentOf environment tree directory files

/-- The cache shows what is remembered, what is remembered was made from files that there
have been, and no file has had one time with different contents. -/
structure State.Coherent (settings : Settings) (occurs : Cache.Subject → Prop) (state : State) :
    Prop where
  ready : state.cache.Ready settings.cacheDirectory occurs
  lawful : ∀ configured ∈ settings.searchable,
    Entry.LawfulIfThere (state.tree.root.at? configured.names)
  consistent : ∀ names, Clear settings.cacheDirectory.names Cache.isEntryName names →
    ∀ early ∈ state.tree :: state.past, ∀ late ∈ state.tree :: state.past,
      Consistent early late names
  made : ∀ memory ∈ state.memories, memory.Made settings (state.tree :: state.past)

/-- Settings whose paths are written out, with the cache outside the configured
directories. -/
structure Settled (settings : Settings) : Prop where
  cache : settings.cacheDirectory.Resolved
  searchable : ∀ configured ∈ settings.searchable, configured.Resolved
  apart : ∀ configured ∈ settings.searchable,
    ¬ configured.names <+: settings.cacheDirectory.names

theorem Memory.Made.mono {past later : List Tree} {memory : Memory}
    (made : memory.Made settings past) (more : ∀ tree ∈ past, tree ∈ later) :
    memory.Made settings later := by
  obtain ⟨environment, request, tree, directory, files, member, facts⟩ := made
  exact ⟨environment, request, tree, directory, files, more tree member, facts⟩

/-- What the cache has is what is remembered. -/
theorem latest_eq_recall (memories : List Memory) (subject : Cache.Subject) :
    Cache.latest (memories.map Memory.kept) subject = (remembered memories subject).map render := by
  rw [Cache.latest, remembered, List.find?_map]
  have same : ((fun kept : Cache.Kept => decide (kept.subject.Alike subject)) ∘ Memory.kept) =
      fun memory : Memory => decide (memory.subject.Alike subject) := rfl
  rw [same, Option.map_map, Option.map_map]
  rfl

namespace State.Coherent

variable (coherent : state.Coherent settings occurs)

include coherent

/-- What is remembered for an alike bundle differs from what would be made now in the
description file and the time at most. -/
theorem eq_of_recall (searched : Searched state.tree directory)
    (found : findFiles settings request state.tree directory = .ok files) {old : Content}
    (recalled : remembered state.memories (subjectOf settings request state.tree directory files) =
      some old) :
    { contentOf environment state.tree directory files with
      generated := old.generated, readme := old.readme } = old := by
  obtain ⟨memory, remembered, alike, rfl⟩ := exists_memory_of_recall recalled
  obtain ⟨since, asked, tree, other, otherFiles, member, otherSearched, clear, otherFound, subject,
    content⟩ := coherent.made memory remembered
  rw [subject] at alike
  have same : other = directory := by
    have texts : (Path.resolve tree.current other).text =
        (Path.resolve state.tree.current directory).text := alike.1.1
    rw [otherSearched.resolve, searched.resolve] at texts
    exact otherSearched.legible.eq_of_text searched.legible texts
  subst same
  have contents := contentOf_of_alike otherSearched searched otherFound found alike
    (fun names => coherent.consistent _ (clear.append names) tree member state.tree
      List.mem_cons_self) since environment
  rw [content, contents]

omit coherent in
/-- Where no directory can be, what may be there is lawful. -/
theorem lawful_of_files {tree : Tree} {place names : List Text} {name : Text}
    (file : ∀ below, tree.root.at? (place ++ [name]) ≠ some (.directory below))
    (inside : place ++ [name] <+: names) : Entry.LawfulIfThere (tree.root.at? names) := by
  obtain ⟨rest, rfl⟩ := inside
  intro entry found
  cases rest with
  | nil =>
      rw [List.append_nil] at found
      cases entry with
      | file content changed => rfl
      | directory below => exact absurd found (file below)
  | cons next rest =>
      rw [Entry.at?_append, Entry.at?_below_file file] at found
      cases found

/-- A state stays coherent while only the cache changes. -/
theorem next (settled : Settled settings) {tree : Tree} {memories : List Memory}
    (ready : Cache.State.Ready settings.cacheDirectory occurs
      { tree, log := memories.map Memory.kept })
    (same : ∀ names, Clear settings.cacheDirectory.names Cache.isEntryName names →
      tree.root.at? names = state.tree.root.at? names)
    (made : ∀ memory ∈ memories, memory.Made settings (state.tree :: state.past)) :
    State.Coherent settings occurs { tree, memories, past := state.tree :: state.past } where
  ready := ready
  lawful := by
    intro configured member
    by_cases clear : Clear settings.cacheDirectory.names Cache.isEntryName configured.names
    · dsimp only
      rw [same configured.names clear]
      exact coherent.lawful configured member
    · have inside : ∃ name, Cache.isEntryName name = true ∧
          settings.cacheDirectory.names ++ [name] <+: configured.names := by
        by_contra outside
        push Not at outside
        exact clear ⟨settled.apart configured member, outside⟩
      obtain ⟨name, entry, inside⟩ := inside
      exact lawful_of_files (ready.files name entry) inside
  consistent := by
    intro names clear early earlyMember late lateMember
    have known : ∀ other ∈ tree :: state.tree :: state.past, ∃ before ∈ state.tree :: state.past,
        other.root.at? names = before.root.at? names := by
      intro other member
      rcases List.mem_cons.mp member with rfl | older
      · exact ⟨state.tree, List.mem_cons_self, same names clear⟩
      · exact ⟨other, older, rfl⟩
    obtain ⟨first, firstMember, firstSame⟩ := known early earlyMember
    obtain ⟨second, secondMember, secondSame⟩ := known late lateMember
    rw [Consistent, firstSame, secondSame]
    exact coherent.consistent names clear first firstMember second secondMember
  made := fun memory member =>
    (made memory member).mono fun _ older => List.mem_cons_of_mem _ older

/-- A directory at or below a configured one lies apart from the cache, if it is there. -/
theorem clear {configured : Path} (settled : Settled settings)
    (member : configured ∈ settings.searchable) (below : configured.names <+: directory.names)
    (searched : Searched state.tree directory) :
    Clear settings.cacheDirectory.names Cache.isEntryName directory.names := by
  obtain ⟨children, found⟩ := searched.found
  exact Clear.of_directory found
    (fun above => settled.apart configured member (below.trans above)) coherent.ready.files

/-- What a lookup finds is what is remembered. -/
theorem lookup_eq (distinguished : Cache.Distinguished occurs) (settled : Settled settings)
    (happens : occurs (subjectOf settings request state.tree directory files)) :
    Cache.lookup settings.cacheDirectory state.tree
        (cacheRequest settings request state.tree directory) files.all =
      (remembered state.memories (subjectOf settings request state.tree directory files)).map
        fun old => (render old).unifyNewlines := by
  have found : Cache.lookupFor settings.cacheDirectory state.tree
      (subjectOf settings request state.tree directory files) =
        (Cache.latest (state.memories.map Memory.kept)
          (subjectOf settings request state.tree directory files)).map Text.unifyNewlines :=
    coherent.ready.lookupFor distinguished settled.cache.plain happens
  rw [Cache.lookup_eq_lookupFor, ← subjectOf, found, latest_eq_recall]
  cases remembered state.memories (subjectOf settings request state.tree directory files) <;> rfl

omit coherent in
/-- If a directory leaves the files as they are and nothing new is kept, only time has passed. -/
theorem describe_of_unchanged
    (unchanged : (sectionOf environment settings request state.tree directory).tree = state.tree)
    (nothing : state.newMemory? environment settings request directory = none) :
    state.describe environment settings request directory =
      { state with past := state.tree :: state.past } := by
  rw [State.describe, unchanged, nothing]
  rfl

/-- Time alone keeps a state coherent. -/
theorem older (settled : Settled settings) :
    State.Coherent settings occurs { state with past := state.tree :: state.past } :=
  coherent.next settled coherent.ready (fun _ _ => rfl) coherent.made

/-- A bundle that is made anew is remembered, and changes nothing apart from the cache. -/
theorem describe_miss (distinguished : Cache.Distinguished occurs) (settled : Settled settings)
    (searched : Searched state.tree directory)
    (clear : Clear settings.cacheDirectory.names Cache.isEntryName directory.names)
    (bundled : bundled? settings request state.tree directory = some files)
    (miss : Cache.lookup settings.cacheDirectory state.tree
      (cacheRequest settings request state.tree directory) files.all = none)
    (happens : occurs (subjectOf settings request state.tree directory files))
    (environment : Environment) :
    (state.describe environment settings request directory).Coherent settings occurs ∧
      ∀ names, Clear settings.cacheDirectory.names Cache.isEntryName names →
        (state.describe environment settings request directory).tree.root.at? names =
          state.tree.root.at? names := by
  have found := (bundled?_eq_some bundled).1
  have kept := coherent.ready.store distinguished settled.cache.plain settled.cache.legible
    (cacheRequest settings request state.tree directory)
    (render (contentOf environment state.tree directory files)) environment.now happens
    fun text member => by
      obtain ⟨names, content, time, lists⟩ := lists_of_mem_all searched found member
      exact ⟨_, content, time, lists, clear.append names⟩
  rw [← describe_cache environment bundled miss] at kept
  obtain ⟨ready, _, same⟩ := kept
  refine ⟨coherent.next settled ready same fun memory member => ?_, same⟩
  rcases List.mem_append.mp member with new | old
  · obtain ⟨others, again, rfl⟩ := newMemory?_eq_some (Option.mem_toList.mp new)
    exact ⟨environment, request, state.tree, directory, others, List.mem_cons_self,
      searched, clear, (bundled?_eq_some again).1, rfl, rfl⟩
  · exact coherent.made memory old

/-- A section says what the state says, and the state stays coherent. -/
theorem describe (distinguished : Cache.Distinguished occurs) (settled : Settled settings)
    (searched : Searched state.tree directory)
    (clear : Clear settings.cacheDirectory.names Cache.isEntryName directory.names)
    (happens : ∀ files, bundled? settings request state.tree directory = some files →
      occurs (subjectOf settings request state.tree directory files))
    (environment : Environment) :
    (sectionOf environment settings request state.tree directory).result =
        (state.sectionAt environment settings request directory).map Section.shown ∧
      (state.describe environment settings request directory).Coherent settings occurs ∧
      ∀ names, Clear settings.cacheDirectory.names Cache.isEntryName names →
        (state.describe environment settings request directory).tree.root.at? names =
          state.tree.root.at? names := by
  cases bundled : bundled? settings request state.tree directory with
  | none =>
      obtain ⟨result, unchanged⟩ := sectionOf_unbundled environment bundled
      rw [describe_of_unchanged unchanged (by rw [State.newMemory?, bundled])]
      exact ⟨result, coherent.older settled, fun _ _ => rfl⟩
  | some files =>
      have found := (bundled?_eq_some bundled).1
      have looked := coherent.lookup_eq distinguished settled (happens files bundled)
      have said : state.sectionAt environment settings request directory =
          .ok (.bundle (contentOf environment state.tree directory files)
            (remembered state.memories (subjectOf settings request state.tree directory files))) := by
        rw [State.sectionAt, bundled]
      rw [said]
      cases recalled :
          remembered state.memories (subjectOf settings request state.tree directory files) with
      | some old =>
          rw [recalled] at looked
          obtain ⟨result, unchanged⟩ := sectionOf_hit environment bundled looked
          have nothing : state.newMemory? environment settings request directory = none := by
            rw [State.newMemory?, bundled]
            simp only [looked]
            rfl
          rw [describe_of_unchanged unchanged nothing, result]
          refine ⟨?_, coherent.older settled, fun _ _ => rfl⟩
          rw [Except.map, Section.shown, coherent.eq_of_recall searched found recalled]
      | none =>
          rw [recalled] at looked
          rw [(sectionOf_miss environment bundled looked).1]
          exact ⟨rfl, coherent.describe_miss distinguished settled searched clear bundled looked
            (happens files bundled) environment⟩

end State.Coherent

end Bundle
end Codemap
