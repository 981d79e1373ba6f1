import Codemap.Proofs.Bundle.Markdown
import Codemap.Proofs.Bundle.Memory

namespace Codemap
namespace Bundle

/-!
# Answers and what is remembered

A request is answered directory by directory, each in the state that those before have
left.  In a coherent state the answer shows, for each directory, what the state says, and
the state that is left is coherent.  With an empty cache the answer shows the files as
they are, since whatever is remembered then has been made for the same request.
-/

open Codemap.Tree

variable {environment : Environment} {settings : Settings} {request : Request} {state : State}
  {directory : Path} {directories : List Path} {occurs : Cache.Subject → Prop}

/-! ## Several directories -/

/-- Directories that can be described: they are there, apart from the cache. -/
def Describable (settings : Settings) (tree : Tree) (directories : List Path) : Prop :=
  ∀ directory ∈ directories, Searched tree directory ∧
    Clear settings.cacheDirectory.names Cache.isEntryName directory.names

/-- What comes behind the first directory can be described when only the cache has changed. -/
theorem Describable.rest {tree after : Tree}
    (describable : Describable settings tree (directory :: directories))
    (same : ∀ names, Clear settings.cacheDirectory.names Cache.isEntryName names →
      after.root.at? names = tree.root.at? names) : Describable settings after directories := by
  intro other member
  obtain ⟨searched, clear⟩ := describable other (List.mem_cons_of_mem directory member)
  exact ⟨searched.of_at?_eq (same _ clear), clear⟩

/-- What is asked for is the bundle of the first directory, and what the others ask for behind
it. -/
theorem State.asked_cons (happens : ∀ subject ∈ state.asked environment settings request
      (directory :: directories), occurs subject) :
    (∀ files, bundled? settings request state.tree directory = some files →
        occurs (subjectOf settings request state.tree directory files)) ∧
      ∀ part, state.sectionAt environment settings request directory = .ok part →
        ∀ subject ∈ (state.describe environment settings request directory).asked environment
          settings request directories, occurs subject := by
  rw [State.asked, List.forall_mem_append] at happens
  refine ⟨fun files bundled => happens.1 _ ?_, fun part said => ?_⟩
  · rw [bundled]
    exact List.mem_singleton_self _
  · rw [said] at happens
    exact happens.2

/-- Several sections are said if the first can be said, and the others behind it. -/
theorem State.sections_cons {parts : List Section}
    (said : state.sections environment settings request (directory :: directories) = .ok parts) :
    ∃ part others, state.sectionAt environment settings request directory = .ok part ∧
      (state.describe environment settings request directory).sections environment settings request
        directories = .ok others ∧ part :: others = parts := by
  rw [State.sections] at said
  cases first : state.sectionAt environment settings request directory with
  | error why =>
      rw [first] at said
      cases said
  | ok part =>
      rw [first] at said
      obtain ⟨others, later, same⟩ := map_eq_ok_iff.mp said
      exact ⟨part, others, rfl, later, same⟩

namespace State.Coherent

/-- The sections show what the state says, and the state stays coherent. -/
theorem describeAll (coherent : state.Coherent settings occurs)
    (distinguished : Cache.Distinguished occurs) (settled : Settled settings)
    (describable : Describable settings state.tree directories)
    (happens : ∀ subject ∈ state.asked environment settings request directories, occurs subject) :
    (sectionsOf environment settings request state.tree directories).result =
        (state.sections environment settings request directories).map (List.map Section.shown) ∧
      (state.describeAll environment settings request directories).Coherent settings occurs := by
  induction directories generalizing state with
  | nil => exact ⟨rfl, coherent⟩
  | cons directory rest inductionHypothesis =>
      obtain ⟨first, later⟩ := State.asked_cons happens
      obtain ⟨searched, clear⟩ := describable directory List.mem_cons_self
      obtain ⟨result, next, same⟩ :=
        coherent.describe distinguished settled searched clear first environment
      rw [sectionsOf, State.sections, State.describeAll]
      cases said : state.sectionAt environment settings request directory with
      | error why =>
          rw [said] at result
          simp only [result]
          exact ⟨rfl, next⟩
      | ok part =>
          rw [said] at result
          obtain ⟨others, last⟩ := inductionHypothesis next (describable.rest same) (later part said)
          have left : (sectionOf environment settings request state.tree directory).tree =
              (state.describe environment settings request directory).tree := rfl
          rw [← left] at others
          simp only [result, Except.map, others]
          refine ⟨?_, last⟩
          cases (state.describe environment settings request directory).sections environment
            settings request rest <;> rfl

/-- The directories that are chosen can be described. -/
theorem describable (coherent : state.Coherent settings occurs) (settled : Settled settings)
    {terms : List Text} (chosen : select settings state.tree terms = .ok directories) :
    Describable settings state.tree directories := by
  have lawful : ∀ configured ∈ settings.searchable, Walk.LawfulAt state.tree configured :=
    fun configured member entry leads => coherent.lawful configured member entry
      (at?_of_entry (settled.searchable configured member).plain leads)
  intro directory member
  obtain ⟨searched, configured, present, below⟩ :=
    searched_of_select settled.searchable lawful chosen directory member
  exact ⟨searched, coherent.clear settled present below searched⟩

/-- The answer shows what the state says, and the state that is left is coherent. -/
theorem answer (coherent : state.Coherent settings occurs)
    (distinguished : Cache.Distinguished occurs) (settled : Settled settings)
    (happens : ∀ subject ∈ state.wanted environment settings request, occurs subject) :
    (fetch environment settings request state.tree).result =
        state.answer environment settings request Section.shown ∧
      (state.answered environment settings request).Coherent settings occurs := by
  rw [State.wanted] at happens
  rw [fetch, State.answer, State.answered]
  cases chosen : select settings state.tree request.terms with
  | error why => exact ⟨rfl, coherent⟩
  | ok directories =>
      rw [chosen] at happens
      obtain ⟨result, next⟩ := coherent.describeAll distinguished settled
        (coherent.describable settled chosen) happens
      cases directories with
      | nil => exact ⟨rfl, coherent⟩
      | cons first rest =>
          simp only [result]
          refine ⟨?_, next⟩
          cases state.sections environment settings request (first :: rest) <;> rfl

end State.Coherent

/-! ## Empty caches -/

section Twins

variable {left right : State} {files : Files}

/-- The files of a bundle are the same past the entries of the cache. -/
theorem bundled?_twin (twin : Twin settings.cacheDirectory.names Cache.isEntryName left.tree right.tree)
    (searched : Searched left.tree directory)
    (clear : Clear settings.cacheDirectory.names Cache.isEntryName directory.names) :
    bundled? settings request right.tree directory =
      bundled? settings request left.tree directory := by
  rw [bundled?, bundled?, findFiles_eq twin searched clear Cache.overlooks_isEntryName]

/-- So is what is asked for. -/
theorem subjects_twin (twin : Twin settings.cacheDirectory.names Cache.isEntryName left.tree right.tree)
    (searched : Searched left.tree directory)
    (clear : Clear settings.cacheDirectory.names Cache.isEntryName directory.names)
    (request : Request) :
    (bundled? settings request right.tree directory).map
        (subjectOf settings request right.tree directory) =
      (bundled? settings request left.tree directory).map
        (subjectOf settings request left.tree directory) := by
  rw [bundled?_twin twin searched clear]
  cases bundled : bundled? settings request left.tree directory with
  | none => rfl
  | some files =>
      exact congrArg some (subjectOf_eq twin searched Cache.overlooks_isEntryName
        (unseen_of_clear searched clear settings request) (bundled?_eq_some bundled).1).symm

/-- So is the section, if it is made anew. -/
theorem sectionAt_twin (twin : Twin settings.cacheDirectory.names Cache.isEntryName left.tree right.tree)
    (searched : Searched left.tree directory)
    (clear : Clear settings.cacheDirectory.names Cache.isEntryName directory.names)
    (environment : Environment) (request : Request) :
    (right.sectionAt environment settings request directory).map Section.fresh =
      (left.sectionAt environment settings request directory).map Section.fresh := by
  rw [State.sectionAt, State.sectionAt, bundled?_twin twin searched clear,
    ← findFiles_eq twin searched clear Cache.overlooks_isEntryName]
  cases bundled : bundled? settings request left.tree directory with
  | none => rfl
  | some files =>
      have found := (bundled?_eq_some bundled).1
      simp only [Except.map, Section.fresh,
        contentOf_twin twin searched Cache.overlooks_isEntryName
          (unseen_of_clear searched clear settings request) readmeNames_shown environment found]

/-- Describing a directory leaves a cache that shows what is remembered, and nothing
changes but entries. -/
theorem describe_sound (sound : state.cache.Sound settings.cacheDirectory
      settings.cacheDirectory.names occurs) (distinguished : Cache.Distinguished occurs)
    (happens : ∀ files, bundled? settings request state.tree directory = some files →
      occurs (subjectOf settings request state.tree directory files))
    (environment : Environment) :
    (state.describe environment settings request directory).cache.Sound settings.cacheDirectory
        settings.cacheDirectory.names occurs ∧
      Twin settings.cacheDirectory.names Cache.isEntryName state.tree
        (state.describe environment settings request directory).tree := by
  have unchanged (same : (sectionOf environment settings request state.tree directory).tree =
      state.tree) (nothing : state.newMemory? environment settings request directory = none) :
      (state.describe environment settings request directory).cache.Sound settings.cacheDirectory
          settings.cacheDirectory.names occurs ∧
        Twin settings.cacheDirectory.names Cache.isEntryName state.tree
          (state.describe environment settings request directory).tree := by
    have described : state.describe environment settings request directory =
        { state with past := state.tree :: state.past } := by
      rw [State.describe, same, nothing]
      rfl
    rw [described]
    exact ⟨sound, Grown.refl (Cache.State.Ready.files (Or.inl sound))⟩
  cases bundled : bundled? settings request state.tree directory with
  | none =>
      refine unchanged (sectionOf_unbundled environment bundled).2 ?_
      rw [State.newMemory?, bundled]
  | some files =>
      cases looked : Cache.lookup settings.cacheDirectory state.tree
          (cacheRequest settings request state.tree directory) files.all with
      | some text =>
          refine unchanged (sectionOf_hit environment bundled looked).2 ?_
          rw [State.newMemory?, bundled]
          simp only [looked]
      | none =>
          obtain ⟨view, holds, agrees⟩ := sound
          have stored := Cache.State.Sound.store ⟨view, holds, agrees⟩ distinguished
            (cacheRequest settings request state.tree directory) files.all
            (render (contentOf environment state.tree directory files)) environment.now
            (happens files bundled)
          have twin := Cache.store_twin holds agrees.onlyFiles
            (cacheRequest settings request state.tree directory) files.all
            (render (contentOf environment state.tree directory files)) environment.now
          rw [← describe_cache environment bundled looked] at stored
          refine ⟨stored.2.1, ?_⟩
          rw [State.describe, (sectionOf_miss environment bundled looked).2]
          exact twin

end Twins

end Bundle
end Codemap
