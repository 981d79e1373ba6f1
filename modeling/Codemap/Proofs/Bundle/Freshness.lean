import Codemap.Proofs.Bundle.Answer
import Codemap.Proofs.Files.Storing

namespace Codemap
namespace Bundle

/-!
# Answers over a history of edits

While bundles are asked for, files below the configured directories are written, touched
and deleted, and a file that is written gets a time that it never had.  Whatever happens,
an answer is the one that an empty cache would give, except for what a section that was
kept says of the description file and of the time: these are of when it was made.  The
description file does not belong to what a bundle is kept for, so a change of that file
alone stays unseen.
-/

open Codemap.Tree

variable {environment : Environment} {settings : Settings} {request : Request}
  {state left right : State} {directory : Path} {directories : List Path}
  {occurs : Cache.Subject → Prop}

/-! ## Sections up to line endings -/

/-- A section ends with a line, in either form. -/
theorem closed_section {part : Section}
    (said : state.sectionAt environment settings request directory = .ok part) :
    Text.Closed part.fresh ∧ Text.Closed part.shown := by
  rw [State.sectionAt] at said
  split at said
  · next files bundled =>
      cases said
      refine ⟨closed_render _, ?_⟩
      cases remembered state.memories (subjectOf settings request state.tree directory files) with
      | none => exact closed_render _
      | some old => exact Text.closed_of_noReturn (Text.noReturn_unifyNewlines _)
  · split at said <;>
    · split at said
      · cases said
        exact ⟨closed_append_line _ _, closed_append_line _ _⟩
      · cases said

theorem closed_sections {parts : List Section}
    (said : state.sections environment settings request directories = .ok parts) :
    ∀ part ∈ parts, Text.Closed part.fresh ∧ Text.Closed part.shown := by
  induction directories generalizing state parts with
  | nil =>
      cases said
      exact fun part member => absurd member List.not_mem_nil
  | cons directory rest inductionHypothesis =>
      obtain ⟨part, others, first, later, rfl⟩ := State.sections_cons said
      exact List.forall_mem_cons.mpr ⟨closed_section first, inductionHypothesis later⟩

/-- Sections are put into their form before they are joined. -/
theorem joined_eq (said : Except Fault (List Section)) (form : Section → Text) :
    (said.map fun parts => List.intercalate separator (parts.map form)) =
      (said.map (List.map form)).map (List.intercalate separator) := by
  cases said <;> rfl

/-- The line endings of an answer are those of its sections. -/
theorem answer_unified {form : Section → Text} (closed : ∀ parts,
      state.sections environment settings request directories = .ok parts →
        ∀ part ∈ parts, Text.Closed (form part)) :
    ((state.sections environment settings request directories).map fun parts =>
        List.intercalate separator (parts.map form)).map Text.unifyNewlines =
      ((state.sections environment settings request directories).map
        (List.map fun part => (form part).unifyNewlines)).map (List.intercalate separator) := by
  cases said : state.sections environment settings request directories with
  | error why => rfl
  | ok parts =>
      have plain : '\r' ∉ separator := by decide
      have each := closed parts said
      simp only [Except.map]
      rw [Text.unifyNewlines_intercalate plain (by simpa using each), List.map_map]
      rfl

/-! ## What is made during one request -/

/-- Everything that is remembered was made at the time of the request, from the
description files as they are. -/
def State.Current (environment : Environment) (settings : Settings) (state : State) : Prop :=
  ∀ memory ∈ state.memories, ∃ directory, Searched state.tree directory ∧
    Clear settings.cacheDirectory.names Cache.isEntryName directory.names ∧
    memory.subject.request.directory = directory.text ∧
    memory.content.generated = environment.now ∧
    memory.content.readme = readmeOf state.tree directory

theorem State.Current.describe (current : state.Current environment settings)
    (searched : Searched state.tree directory)
    (clear : Clear settings.cacheDirectory.names Cache.isEntryName directory.names)
    (same : ∀ names, Clear settings.cacheDirectory.names Cache.isEntryName names →
      (state.describe environment settings request directory).tree.root.at? names =
        state.tree.root.at? names) :
    (state.describe environment settings request directory).Current environment settings := by
  intro memory member
  rcases List.mem_append.mp member with new | old
  · obtain ⟨files, bundled, rfl⟩ := newMemory?_eq_some (Option.mem_toList.mp new)
    refine ⟨directory, searched.of_at?_eq (same _ clear), clear, ?_, rfl, ?_⟩
    · exact congrArg Path.text (searched.resolve _)
    · exact (searched.readmeOf_eq (same _ clear)).symm
  · obtain ⟨other, otherSearched, otherClear, subject, generated, readme⟩ := current memory old
    refine ⟨other, otherSearched.of_at?_eq (same _ otherClear), otherClear, subject, generated, ?_⟩
    rw [readme, otherSearched.readmeOf_eq (same _ otherClear)]

/-- What is remembered of the request itself is what would be said anew. -/
theorem State.Current.sectionAt (current : state.Current environment settings)
    (request : Request) (coherent : state.Coherent settings occurs) (searched : Searched state.tree directory) :
    (state.sectionAt environment settings request directory).map
        (fun part => part.shown.unifyNewlines) =
      (state.sectionAt environment settings request directory).map
        fun part => part.fresh.unifyNewlines := by
  rw [State.sectionAt]
  cases bundled : bundled? settings request state.tree directory with
  | none =>
      dsimp only
      cases findFiles settings request state.tree directory with
      | ok _ | error _ =>
          dsimp only
          split <;> rfl
  | some files =>
      have found := (bundled?_eq_some bundled).1
      dsimp only
      cases recalled : remembered state.memories (subjectOf settings request state.tree directory files) with
      | none => rfl
      | some old =>
          have agrees : { contentOf environment state.tree directory files with
              generated := old.generated, readme := old.readme } = old :=
            coherent.eq_of_recall searched found recalled
          obtain ⟨memory, member, alike, rfl⟩ := exists_memory_of_recall recalled
          obtain ⟨other, otherSearched, _, subject, generated, readme⟩ := current memory member
          have texts : memory.subject.request.directory =
              (Path.resolve state.tree.current directory).text := alike.1.1
          rw [subject, searched.resolve] at texts
          obtain rfl := otherSearched.legible.eq_of_text searched.legible texts
          rw [generated, readme] at agrees
          have itself : contentOf environment state.tree other files = memory.content := agrees
          simp only [Except.map, Section.shown, Section.fresh, ← itself,
            Text.unifyNewlines_unifyNewlines]

/-- So a request that starts with nothing remembered says everything anew. -/
theorem State.Current.sections (current : state.Current environment settings)
    (coherent : state.Coherent settings occurs) (distinguished : Cache.Distinguished occurs)
    (settled : Settled settings) (describable : Describable settings state.tree directories)
    (happens : ∀ subject ∈ state.asked environment settings request directories, occurs subject) :
    (state.sections environment settings request directories).map
        (List.map fun part => part.shown.unifyNewlines) =
      (state.sections environment settings request directories).map
        (List.map fun part => part.fresh.unifyNewlines) := by
  induction directories generalizing state with
  | nil => rfl
  | cons directory rest inductionHypothesis =>
      obtain ⟨first, later⟩ := State.asked_cons happens
      obtain ⟨searched, clear⟩ := describable directory List.mem_cons_self
      obtain ⟨_, next, same⟩ :=
        coherent.describe distinguished settled searched clear first environment
      have here := current.sectionAt request coherent searched
      rw [State.sections]
      cases said : state.sectionAt environment settings request directory with
      | error why => rfl
      | ok part =>
          rw [said] at here
          exact map_cons_congr (Except.ok.inj here)
            (inductionHypothesis (current.describe searched clear same) next (describable.rest same)
              (later part said))

/-- The whole answer, then, is what would be said anew. -/
theorem State.Current.answer (current : state.Current environment settings)
    (coherent : state.Coherent settings occurs) (distinguished : Cache.Distinguished occurs)
    (settled : Settled settings)
    (happens : ∀ subject ∈ state.wanted environment settings request, occurs subject) :
    (state.answer environment settings request Section.shown).map Text.unifyNewlines =
      (state.answer environment settings request Section.fresh).map Text.unifyNewlines := by
  rw [State.wanted] at happens
  rw [State.answer, State.answer]
  cases chosen : select settings state.tree request.terms with
  | error why => rfl
  | ok directories =>
      rw [chosen] at happens
      cases directories with
      | nil => rfl
      | cons first rest =>
          dsimp only
          rw [answer_unified fun parts said part member => (closed_sections said part member).2,
            answer_unified fun parts said part member => (closed_sections said part member).1,
            current.sections coherent distinguished settled (coherent.describable settled chosen)
              happens]

/-! ## Two states of one tree -/

/-- Two states that differ in what they remember ask for the same and say the same anew. -/
theorem sections_twin (leftSound : left.cache.Sound settings.cacheDirectory
      settings.cacheDirectory.names occurs)
    (rightSound : right.cache.Sound settings.cacheDirectory settings.cacheDirectory.names occurs)
    (distinguished : Cache.Distinguished occurs)
    (twin : Twin settings.cacheDirectory.names Cache.isEntryName left.tree right.tree)
    (describable : Describable settings left.tree directories)
    (happens : ∀ subject ∈ left.asked environment settings request directories, occurs subject) :
    right.asked environment settings request directories =
        left.asked environment settings request directories ∧
      (right.sections environment settings request directories).map (List.map Section.fresh) =
        (left.sections environment settings request directories).map (List.map Section.fresh) := by
  induction directories generalizing left right with
  | nil => exact ⟨rfl, rfl⟩
  | cons directory rest inductionHypothesis =>
      obtain ⟨searched, clear⟩ := describable directory List.mem_cons_self
      have subjects := subjects_twin twin searched clear request
      have same := sectionAt_twin twin searched clear environment request
      obtain ⟨leftFirst, leftLater⟩ := State.asked_cons happens
      have rightFirst : ∀ files, bundled? settings request right.tree directory = some files →
          occurs (subjectOf settings request right.tree directory files) := fun files bundled => by
        rw [bundled, Option.map_some] at subjects
        obtain ⟨others, found, equal⟩ := Option.map_eq_some_iff.mp subjects.symm
        exact equal ▸ leftFirst others found
      have leftNext := describe_sound leftSound distinguished leftFirst environment
      have rightNext := describe_sound rightSound distinguished rightFirst environment
      rw [State.asked, State.asked, State.sections, State.sections, subjects]
      cases said : left.sectionAt environment settings request directory with
      | error why =>
          rw [said] at same
          rw [map_eq_error_iff.mp same]
          exact ⟨rfl, rfl⟩
      | ok part =>
          rw [said] at same
          obtain ⟨other, saidAgain, here⟩ := map_eq_ok_iff.mp same
          rw [saidAgain]
          obtain ⟨asked, sections⟩ := inductionHypothesis leftNext.1 rightNext.1
            ((leftNext.2.symm.trans twin).trans rightNext.2)
            (describable.rest fun names apart => (leftNext.2.at?_eq apart).symm)
            (leftLater part said)
          exact ⟨by simp only [asked], map_cons_congr here sections⟩

/-- Two states for which the same directories are chosen say the same anew, if they say the same
anew of these directories. -/
theorem answer_congr (chosen : select settings right.tree request.terms =
      select settings left.tree request.terms)
    (same : ∀ directories, select settings left.tree request.terms = .ok directories →
      right.asked environment settings request directories =
          left.asked environment settings request directories ∧
        (right.sections environment settings request directories).map (List.map Section.fresh) =
          (left.sections environment settings request directories).map (List.map Section.fresh)) :
    right.wanted environment settings request = left.wanted environment settings request ∧
      right.answer environment settings request Section.fresh =
        left.answer environment settings request Section.fresh := by
  rw [State.wanted, State.wanted, State.answer, State.answer, chosen]
  cases selected : select settings left.tree request.terms with
  | error why => exact ⟨rfl, rfl⟩
  | ok directories =>
      obtain ⟨asked, sections⟩ := same directories selected
      refine ⟨asked, ?_⟩
      cases directories with
      | nil => rfl
      | cons first rest =>
          dsimp only
          rw [joined_eq, joined_eq]
          exact congrArg (Except.map (List.intercalate separator)) sections

/-- The state after the cache has been emptied: nothing is remembered. -/
def State.forgotten (settings : Settings) (state : State) : State where
  tree := Cache.emptied settings.cacheDirectory state.tree
  past := state.tree :: state.past

/-- What there has been does not matter to what is said. -/
theorem sections_past (state : State) (past : List Tree) :
    State.asked environment settings request { state with past } directories =
        state.asked environment settings request directories ∧
      State.sections environment settings request { state with past } directories =
        state.sections environment settings request directories := by
  induction directories generalizing state past with
  | nil => exact ⟨rfl, rfl⟩
  | cons directory rest inductionHypothesis =>
      obtain ⟨asked, sections⟩ := inductionHypothesis
        (state.describe environment settings request directory) (state.tree :: past)
      have next : State.describe environment settings request { state with past } directory =
          { state.describe environment settings request directory with
            past := state.tree :: past } := rfl
      have here : State.sectionAt environment settings request { state with past } directory =
          state.sectionAt environment settings request directory := rfl
      rw [State.asked, State.asked, State.sections, State.sections, next, here, asked, sections]
      exact ⟨rfl, rfl⟩

/-- Emptying the cache of a coherent state leaves a coherent state that asks for the same
and says the same anew. -/
theorem State.Coherent.forgotten (coherent : state.Coherent settings occurs)
    (distinguished : Cache.Distinguished occurs) (settled : Settled settings)
    (happens : ∀ subject ∈ state.wanted environment settings request, occurs subject) :
    (state.forgotten settings).Coherent settings occurs ∧
      (state.forgotten settings).wanted environment settings request =
        state.wanted environment settings request ∧
      (state.forgotten settings).answer environment settings request Section.fresh =
        state.answer environment settings request Section.fresh := by
  rcases coherent.ready with ⟨view, holds, agrees⟩ | ⟨nothing, below, lacks⟩
  · have twin := Cache.twin_emptied holds agrees.onlyFiles
    have emptied : Cache.State.Sound settings.cacheDirectory settings.cacheDirectory.names occurs
        (state.forgotten settings).cache :=
      ⟨_, (Cache.revised_emptied holds agrees.onlyFiles).holds, agrees.emptied⟩
    refine ⟨coherent.next settled (Or.inl emptied) (fun names clear => (twin.at?_eq clear).symm)
      fun memory member => absurd member List.not_mem_nil, ?_⟩
    refine answer_congr (select_eq twin (fun configured member =>
      (settled.searchable configured member).plain) settled.apart).symm fun directories chosen => ?_
    rw [State.wanted, chosen] at happens
    exact sections_twin ⟨view, holds, agrees⟩ emptied distinguished twin
      (coherent.describable settled chosen) happens
  · have untouched : Cache.emptied settings.cacheDirectory state.tree = state.tree :=
      Cache.emptied_lacking settled.cache.plain lacks
    have none : state.memories = [] := List.map_eq_nil_iff.mp nothing
    have same : state.forgotten settings = { state with past := state.tree :: state.past } := by
      rw [State.forgotten, untouched, none]
    rw [same]
    refine ⟨coherent.next settled coherent.ready (fun _ _ => rfl) coherent.made,
      answer_congr rfl fun directories _ => ?_⟩
    exact ⟨(sections_past state _).1, congrArg _ (sections_past state _).2⟩

/-! ## Edits -/

/-- A state before anything is remembered. -/
theorem State.Coherent.start {start : Tree}
    (ready : Cache.State.Ready settings.cacheDirectory occurs { tree := start })
    (lawful : ∀ configured ∈ settings.searchable,
      Entry.LawfulIfThere (start.root.at? configured.names)) :
    State.Coherent settings occurs { tree := start } where
  ready := ready
  lawful := lawful
  consistent := by
    intro names _ early earlyMember late lateMember content other changed found otherFound
    rw [List.mem_singleton.mp earlyMember] at found
    rw [List.mem_singleton.mp lateMember, found] at otherFound
    cases otherFound
    rfl
  made := fun memory member => absurd member List.not_mem_nil

/-- A state stays coherent when a file below a configured directory is edited, if the file
never had its new time before. -/
theorem State.Coherent.edited {after : Tree} {names : List Text} {configured : Path}
    {change : Option Entry → Option Entry} (coherent : state.Coherent settings occurs)
    (settled : Settled settings) (edited : state.tree.Edited after names change)
    (member : configured ∈ settings.searchable) (below : configured.names <+: names)
    (proper : configured.names ≠ names)
    (fresh : ∀ content changed, change (state.tree.root.at? names) = some (.file content changed) →
      ∀ tree ∈ state.tree :: state.past, ∀ other,
        tree.root.at? names ≠ some (.file other changed)) :
    State.Coherent settings occurs
      { tree := after, memories := state.memories, past := state.tree :: state.past } where
  ready := coherent.ready.edited edited below proper (settled.apart configured member)
  lawful := fun other listed => edited.lawful (coherent.lawful other listed)
  consistent := by
    intro place clear
    -- What the edit leaves at a place agrees with what has ever been there.
    have agrees : ∀ old ∈ state.tree :: state.past, ∀ content other changed,
        after.root.at? place = some (.file content changed) →
          old.root.at? place = some (.file other changed) → content = other := by
      intro old oldMember content other changed new was
      by_cases above : place <+: names
      · by_cases same : place = names
        · subst same
          rw [edited.at?_self] at new
          exact absurd was (fresh content changed new old oldMember other)
        · obtain ⟨children, directory⟩ := (edited.above above same).2
          rw [directory] at new
          cases new
      · rw [edited.at?_apart above] at new
        exact coherent.consistent place clear state.tree List.mem_cons_self old oldMember content
          other changed new was
    intro early earlyMember late lateMember content other changed found otherFound
    rcases List.mem_cons.mp earlyMember with rfl | earlyOld <;>
      rcases List.mem_cons.mp lateMember with rfl | lateOld
    · rw [found] at otherFound
      cases otherFound
      rfl
    · exact agrees late lateOld content other changed found otherFound
    · exact (agrees early earlyOld other content changed otherFound found).symm
    · exact coherent.consistent place clear early earlyOld late lateOld content other changed found
        otherFound
  made := fun memory listed =>
    (coherent.made memory listed).mono fun _ older => List.mem_cons_of_mem _ older

/-! ## Histories -/

/-- What may happen between requests, and requests themselves. -/
inductive Step where
  | edit (file : Path) (what : FileChange)
  | makeDirectory (directory : Path)
  | fetch (environment : Environment) (request : Request)

/-- A path that is written out in full and leads below a configured directory. -/
structure Below (settings : Settings) (path : Path) : Prop where
  resolved : path.Resolved
  inside : ∃ configured ∈ settings.searchable,
    configured.names <+: path.names ∧ configured.names ≠ path.names

namespace Step

/-- What a step leaves. -/
def run (settings : Settings) (state : State) : Step → State
  | .edit file what =>
      { tree := what.run state.tree file
        memories := state.memories
        past := state.tree :: state.past }
  | .makeDirectory directory =>
      { tree := (state.tree.makeDirectories directory).toOption.getD state.tree
        memories := state.memories
        past := state.tree :: state.past }
  | .fetch environment request => state.answered environment settings request

/-- The subjects of the bundles that a step asks for. -/
def wanted (settings : Settings) (state : State) : Step → List Cache.Subject
  | .edit _ _ | .makeDirectory _ => []
  | .fetch environment request => state.wanted environment settings request

/-- Files are edited below a configured directory, and a file gets a time that it never
had.  Directories are made one at a time. -/
def Allowed (settings : Settings) (state : State) : Step → Prop
  | .edit file what => Below settings file ∧ ∀ time, what.time? = some time →
      ∀ tree ∈ state.tree :: state.past, ∀ content,
        tree.root.at? file.names ≠ some (.file content time)
  | .makeDirectory directory => Below settings directory ∧
      (∀ name ∈ directory.names, isName name = true) ∧
      ∃ children, state.tree.root.at? directory.names.dropLast = some (.directory children)
  | .fetch _ _ => True

end Step

/-- The state after a history. -/
def State.after (settings : Settings) (state : State) (steps : List Step) : State :=
  steps.foldl (Step.run settings) state

/-- The subjects of the bundles that a history asks for. -/
def State.subjects (settings : Settings) (state : State) : List Step → List Cache.Subject
  | [] => []
  | step :: rest => step.wanted settings state ++ subjects settings (step.run settings state) rest

/-- Every step of a history is allowed where it is made. -/
def State.Permits (settings : Settings) (state : State) : List Step → Prop
  | [] => True
  | step :: rest => step.Allowed settings state ∧ Permits settings (step.run settings state) rest

theorem Below.nonempty {path : Path} (below : Below settings path) : path.names ≠ [] := by
  obtain ⟨configured, _, inside, proper⟩ := below.inside
  intro none
  rw [none] at inside proper
  exact proper (List.prefix_nil.mp inside)

/-- An allowed step keeps a state coherent. -/
theorem State.Coherent.run (coherent : state.Coherent settings occurs)
    (distinguished : Cache.Distinguished occurs) (settled : Settled settings) {step : Step}
    (allowed : step.Allowed settings state)
    (happens : ∀ subject ∈ step.wanted settings state, occurs subject) :
    (step.run settings state).Coherent settings occurs := by
  have untouched : State.Coherent settings occurs
      { state with past := state.tree :: state.past } :=
    coherent.next settled coherent.ready (fun _ _ => rfl) coherent.made
  cases step with
  | fetch environment request => exact (coherent.answer distinguished settled happens).2
  | edit file what =>
      obtain ⟨below, fresh⟩ := allowed
      obtain ⟨configured, member, inside, proper⟩ := below.inside
      rcases FileChange.run_edited below.resolved.plain below.resolved.legible below.nonempty what with
        same | ⟨change, edited, time⟩
      · rw [Step.run, same]
        exact untouched
      · exact coherent.edited settled edited member inside proper fun content changed new =>
          fresh changed (time content changed new)
  | makeDirectory directory =>
      obtain ⟨below, named, children, parent⟩ := allowed
      obtain ⟨configured, member, inside, proper⟩ := below.inside
      rcases makeDirectories_edited below.resolved.legible.rooted below.nonempty named parent with
        same | edited
      · rw [Step.run, same]
        exact untouched
      · refine coherent.edited settled edited member inside proper fun content changed new => ?_
        cases new

/-- An allowed history keeps a state coherent. -/
theorem State.Coherent.after (coherent : state.Coherent settings occurs)
    (distinguished : Cache.Distinguished occurs) (settled : Settled settings) {steps : List Step}
    (permitted : state.Permits settings steps)
    (happens : ∀ subject ∈ state.subjects settings steps, occurs subject) :
    (state.after settings steps).Coherent settings occurs := by
  induction steps generalizing state with
  | nil => exact coherent
  | cons step rest inductionHypothesis =>
      rw [State.subjects, List.forall_mem_append] at happens
      exact inductionHypothesis (coherent.run distinguished settled permitted.1 happens.1)
        permitted.2 happens.2

/-- What is remembered differs from what would be said anew in the description file and the
time at most. -/
theorem State.Coherent.remembered (coherent : state.Coherent settings occurs)
    (distinguished : Cache.Distinguished occurs) (settled : Settled settings)
    (describable : Describable settings state.tree directories)
    (happens : ∀ subject ∈ state.asked environment settings request directories, occurs subject)
    {parts : List Section} (said : state.sections environment settings request directories = .ok parts)
    {content old : Content} (member : Section.bundle content (some old) ∈ parts) :
    { content with generated := old.generated, readme := old.readme } = old := by
  induction directories generalizing state parts with
  | nil =>
      cases said
      cases member
  | cons directory rest inductionHypothesis =>
      obtain ⟨part, others, first, later, rfl⟩ := State.sections_cons said
      obtain ⟨bundle, rest⟩ := State.asked_cons happens
      obtain ⟨searched, clear⟩ := describable directory List.mem_cons_self
      obtain ⟨_, next, same⟩ :=
        coherent.describe distinguished settled searched clear bundle environment
      rcases List.mem_cons.mp member with rfl | member
      · rw [State.sectionAt] at first
        split at first
        · next files bundled =>
            obtain ⟨rfl, recalled⟩ := Section.bundle.inj (Except.ok.inj first)
            exact coherent.eq_of_recall searched (bundled?_eq_some bundled).1 recalled
        · split at first <;>
          · split at first <;> cases first
      · exact inductionHypothesis next (describable.rest same) (rest part first) later member

/-- Under one time a bundle that was kept is the present one exactly if the description
file still says the same. -/
theorem shown_eq_fresh_iff {content old : Content} (time : old.generated = content.generated) :
    (Section.bundle content (some old)).shown =
        (Section.bundle content (some old)).fresh.unifyNewlines ↔
      (readmeSection old.readme).unifyNewlines = (readmeSection content.readme).unifyNewlines := by
  rw [Section.shown, Section.fresh, time]
  exact render_readme_iff content old.readme content.readme

/-- After every history of edits and requests that starts with nothing kept, an answer is
the one that an empty cache gives, line endings apart, except for what sections say that
were kept.  Such a section shows the present files with the description file and the time
of when it was made; so under one time it is what an empty cache gives exactly if the
description file still says the same. -/
theorem fetch_fresh_except_readme (settled : Settled settings)
    (distinguished : Cache.Distinguished occurs) (start : Tree)
    (empty : Cache.State.Ready settings.cacheDirectory occurs { tree := start })
    (lawful : ∀ configured ∈ settings.searchable,
      Entry.LawfulIfThere (start.root.at? configured.names))
    (steps : List Step) (permitted : State.Permits settings { tree := start } steps)
    (happens : ∀ subject ∈ State.subjects settings { tree := start } steps, occurs subject)
    (environment : Environment) (request : Request)
    (asked : ∀ subject ∈ (State.after settings { tree := start } steps).wanted environment settings
      request, occurs subject) :
    let state := State.after settings { tree := start } steps
    (fetch environment settings request state.tree).result =
        state.answer environment settings request Section.shown ∧
      (fetch environment settings request
            (Cache.emptied settings.cacheDirectory state.tree)).result.map Text.unifyNewlines =
        (state.answer environment settings request Section.fresh).map Text.unifyNewlines ∧
      ∀ content old, Section.bundle content (some old) ∈
          state.answerSections environment settings request →
        { content with generated := old.generated, readme := old.readme } = old ∧
        (old.generated = content.generated →
          ((Section.bundle content (some old)).shown =
              (Section.bundle content (some old)).fresh.unifyNewlines ↔
            (readmeSection old.readme).unifyNewlines =
              (readmeSection content.readme).unifyNewlines)) := by
  have coherent : (State.after settings { tree := start } steps).Coherent settings occurs :=
    (State.Coherent.start empty lawful).after distinguished settled permitted happens
  intro state
  obtain ⟨emptied, same, anew⟩ := coherent.forgotten distinguished settled asked
  have current : (state.forgotten settings).Current environment settings :=
    fun memory member => absurd member List.not_mem_nil
  have wanted : ∀ subject ∈ (state.forgotten settings).wanted environment settings request,
      occurs subject := by
    rw [same]
    exact asked
  refine ⟨(coherent.answer distinguished settled asked).1, ?_, fun content old member => ?_⟩
  · have answered : (fetch environment settings request
        (Cache.emptied settings.cacheDirectory state.tree)).result =
          (state.forgotten settings).answer environment settings request Section.shown :=
      (emptied.answer distinguished settled wanted).1
    rw [answered, current.answer emptied distinguished settled wanted, anew]
  · refine ⟨?_, shown_eq_fresh_iff⟩
    rw [State.answerSections] at member
    rw [State.wanted] at asked
    cases chosen : select settings state.tree request.terms with
    | error why =>
        rw [chosen] at member
        cases member
    | ok directories =>
        rw [chosen] at member asked
        cases said : state.sections environment settings request directories with
        | error why =>
            simp only [said] at member
            cases member
        | ok parts =>
            simp only [said] at member
            exact coherent.remembered distinguished settled (coherent.describable settled chosen)
              asked said member

/-! ## A short history -/

/-- Settings with one directory to search. -/
def smallSettings : Settings where
  root := { names := [] }
  file := { names := ["localctx.yml".toList] }
  base := { names := [] }
  searchable := [{ names := ["lib".toList] }]
  cacheDirectory := { names := ["cache".toList] }
  depth := 0

/-- A project with one file and an empty directory for the cache. -/
def smallTree : Tree where
  root := .directory
    [("cache".toList, .directory []),
      ("lib".toList, .directory [("a.py".toList, .file (Utf8.encode "def f(): pass\n".toList) 5)])]

/-- The directory of that project. -/
def smallDirectory : Path := { names := ["lib".toList] }

/-- The file of that project. -/
def smallFile : Path := { names := ["lib".toList, "a.py".toList] }

/-- A request for the file. -/
def smallRequest : Request := { terms := ["lib".toList], globs := ["*.py".toList] }

/-- The surroundings in which it is made. -/
def smallEnvironment : Environment := { home := { names := [] } }

/-- The file is written again. -/
def smallChange : FileChange := .write (Utf8.encode "def g(): pass\n".toList) 7

/-- A bundle is made for the file, and then the file is written again. -/
def smallSteps : List Step := [.fetch smallEnvironment smallRequest, .edit smallFile smallChange]

/-- What the bundle for the request is kept for when the file has some time of change. -/
def smallSubject (time : Int) : Cache.Subject where
  request := { directory := "/lib".toList, globs := ["*.py".toList], depth := some 0 }
  files := ["/lib/a.py".toList]
  times := [("/lib/a.py".toList, time)]

private theorem smallSettings_settled : Settled smallSettings where
  cache := ⟨rfl, by decide⟩
  searchable := fun configured member => by
    obtain rfl := List.mem_singleton.mp member
    exact ⟨rfl, by decide⟩
  apart := by decide

private theorem smallSubjects_distinguished :
    Cache.Distinguished fun subject => subject = smallSubject 5 ∨ subject = smallSubject 7 where
  lawful := by
    rintro subject (rfl | rfl) <;> rfl
  readable := by
    rintro subject (rfl | rfl) <;> decide
  collisionless := by
    have apart : Cache.fingerprintOf (smallSubject 5).canonicalText ≠
        Cache.fingerprintOf (smallSubject 7).canonicalText := by
      simp only [Cache.Subject.canonicalText, Cache.canonicalText, Cache.sortKeys_payload]
      decide +kernel
    rintro left right (rfl | rfl) (rfl | rfl) same
    · rfl
    · exact absurd same apart
    · exact absurd same.symm apart
    · rfl

private theorem smallTree_sound (occurs : Cache.Subject → Prop) :
    (State.cache { tree := smallTree }).Sound smallSettings.cacheDirectory
      smallSettings.cacheDirectory.names occurs :=
  ⟨_, ⟨rfl, by decide +kernel, ⟨[], rfl, rfl⟩⟩, Cache.agrees_empty occurs⟩

private theorem smallFile_resolved : smallFile.Resolved := ⟨rfl, by decide⟩

private theorem smallFile_clear :
    Clear smallSettings.cacheDirectory.names Cache.isEntryName smallFile.names :=
  ⟨by decide, fun name _ below => by
    rcases below with ⟨rest, same⟩
    cases same⟩

private theorem smallDirectory_clear :
    Clear smallSettings.cacheDirectory.names Cache.isEntryName smallDirectory.names :=
  ⟨by decide, fun name _ below => by
    rcases below with ⟨rest, same⟩
    cases same⟩

/-- The state after the first bundle has been kept. -/
private def smallKept : State :=
  State.describe smallEnvironment smallSettings smallRequest { tree := smallTree } smallDirectory

/-- The first request keeps its bundle, and nothing but the cache changes. -/
private theorem smallTree_answered :
    State.answered smallEnvironment smallSettings smallRequest { tree := smallTree } = smallKept ∧
      Twin smallSettings.cacheDirectory.names Cache.isEntryName smallTree smallKept.tree := by
  have chosen : select smallSettings smallTree smallRequest.terms = .ok [smallDirectory] := by
    decide +kernel
  have asked : (bundled? smallSettings smallRequest smallTree smallDirectory).map
      (subjectOf smallSettings smallRequest smallTree smallDirectory) = some (smallSubject 5) := by
    decide +kernel
  obtain ⟨files, bundled, subject⟩ := Option.map_eq_some_iff.mp asked
  constructor
  · simp only [State.answered, chosen, State.describeAll, State.sectionAt, bundled]
    rfl
  · refine (describe_sound (smallTree_sound _) smallSubjects_distinguished ?_ smallEnvironment).2
    intro found same
    cases bundled.symm.trans same
    exact Or.inl subject

private theorem smallSteps_permitted :
    State.Permits smallSettings { tree := smallTree } smallSteps := by
  obtain ⟨answered, twin⟩ := smallTree_answered
  have below : Below smallSettings smallFile :=
    ⟨smallFile_resolved, smallDirectory, List.mem_singleton_self _, by decide, by decide⟩
  refine ⟨trivial, ⟨below, fun time gets tree member content found => ?_⟩, trivial⟩
  rw [Step.run, answered] at member
  cases gets
  have there : smallTree.root.at? smallFile.names =
      some (.file (Utf8.encode "def f(): pass\n".toList) 5) := rfl
  have known : tree.root.at? smallFile.names = smallTree.root.at? smallFile.names := by
    rcases List.mem_cons.mp member with rfl | member
    · exact (twin.at?_eq smallFile_clear).symm
    · rw [List.mem_singleton.mp member]
  rw [known, there] at found
  cases found

/-- The file is written as it would be if nothing had been kept. -/
private theorem smallSteps_twin :
    Twin smallSettings.cacheDirectory.names Cache.isEntryName
      (State.tree { tree := smallChange.run smallTree smallFile })
      (State.after smallSettings { tree := smallTree } smallSteps).tree := by
  obtain ⟨answered, twin⟩ := smallTree_answered
  have ran : (State.after smallSettings { tree := smallTree } smallSteps).tree =
      smallChange.run (State.answered smallEnvironment smallSettings smallRequest
        { tree := smallTree }).tree smallFile := rfl
  rw [ran, answered]
  exact twin.write smallFile_resolved.plain smallFile_resolved.legible smallFile_clear
    (List.cons_ne_nil _ _) (entry_of_at? rfl (by decide) rfl) _ 7

/-- The second request asks for the bundle of the file with its new time. -/
private theorem smallSteps_wanted :
    (State.after smallSettings { tree := smallTree } smallSteps).wanted smallEnvironment
      smallSettings smallRequest = [smallSubject 7] := by
  have twin := smallSteps_twin
  have searched : Searched (State.tree { tree := smallChange.run smallTree smallFile })
      smallDirectory :=
    ⟨rfl, by decide, ⟨_, rfl⟩, Walk.lawfulAt_of_lawful (by decide) _⟩
  have chosen : select smallSettings (State.tree { tree := smallChange.run smallTree smallFile })
      smallRequest.terms = .ok [smallDirectory] := by decide +kernel
  have asked : (bundled? smallSettings smallRequest
      (State.tree { tree := smallChange.run smallTree smallFile }) smallDirectory).map
        (subjectOf smallSettings smallRequest
          (State.tree { tree := smallChange.run smallTree smallFile }) smallDirectory) =
      some (smallSubject 7) := by decide +kernel
  rw [select_eq twin (fun configured member => (smallSettings_settled.searchable configured
    member).plain) smallSettings_settled.apart] at chosen
  rw [← subjects_twin twin searched smallDirectory_clear] at asked
  rw [State.wanted, chosen]
  dsimp only
  rw [State.asked, asked]
  dsimp only [State.asked]
  split <;> rfl

/-- The answer after the file was written again is that of an empty cache, although the bundle for
the earlier file is kept. -/
theorem smallSteps_fetch_fresh :
    let state := State.after smallSettings { tree := smallTree } smallSteps
    (fetch smallEnvironment smallSettings smallRequest
        (Cache.emptied smallSettings.cacheDirectory state.tree)).result.map Text.unifyNewlines =
      (state.answer smallEnvironment smallSettings smallRequest Section.fresh).map
        Text.unifyNewlines := by
  have lawful : ∀ configured ∈ smallSettings.searchable,
      Entry.LawfulIfThere (smallTree.root.at? configured.names) := by
    intro configured member entry found
    obtain rfl := List.mem_singleton.mp member
    cases found
    decide
  have asked : State.subjects smallSettings { tree := smallTree } smallSteps =
      [smallSubject 5] := by decide +kernel
  refine (fetch_fresh_except_readme smallSettings_settled smallSubjects_distinguished smallTree
    (Or.inl (smallTree_sound _)) lawful smallSteps smallSteps_permitted ?_ smallEnvironment
    smallRequest ?_).2.1
  · rw [asked]
    exact fun subject member => Or.inl (List.mem_singleton.mp member)
  · rw [smallSteps_wanted]
    exact fun subject member => Or.inr (List.mem_singleton.mp member)

end Bundle
end Codemap
