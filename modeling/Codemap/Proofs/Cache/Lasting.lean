import Codemap.Proofs.Cache.Apart

namespace Codemap
namespace Cache

/-!
# What a store leaves to be found

A bundle can be stored whatever the cache directory holds: files may have been left aside,
directories may stand where entries belong, and there may be no such directory at all.  A
store changes the two files of its bundle at most, and no directory becomes a file or the
other way round.  So whatever is looked for afterwards, what was found before is found still,
unless the key is that of the bundle; then the new text may be found instead, or nothing.
-/

open Codemap.Tree

variable {directory : Path} {tree after : Tree} {place : List Text}
  {view other : Text → Option Entry} {subject : Subject} {content : Text} {hidden : Text → Bool}

/-! ## Lookups after a bundle was to be kept -/

/-- What is read under a name depends on what the directory shows there. -/
theorem readText_child_congr (holds : tree.Holds directory place view)
    (again : after.Holds directory place other) {name : Text} (ordinary : name ≠ upward)
    (same : other name = view name) :
    after.readText (directory.child name) = tree.readText (directory.child name) := by
  rw [readText, readText, readBytes, readBytes, holds.entry_child ordinary,
    again.entry_child ordinary, same]

theorem lookupKey_congr (holds : tree.Holds directory place view)
    (again : after.Holds directory place other) {name : Text} (entry : isEntryName name = true)
    (record : isEntryName (recordName name) = true) (text : other name = view name)
    (recorded : other (recordName name) = view (recordName name)) (times : Times) :
    lookupKey directory after name times = lookupKey directory tree name times := by
  rw [lookupKey, lookupKey,
    readText_child_congr holds again (ordinary_of_isEntryName entry) text,
    readText_child_congr holds again (ordinary_of_isEntryName record) recorded]

/-- What is found is the text under the key. -/
theorem readText_of_lookupFor {found : Text}
    (looked : lookupFor directory tree subject = some found) :
    tree.readText (directory.child subject.key) = .ok found := by
  have noText (why : ReadFault) (text : Text) : Outcome.ofFault why ≠ .found text := by
    cases why with
    | storage why => cases why <;> exact Outcome.noConfusion
    | undecodable failure => exact Outcome.noConfusion
  rw [lookupFor] at looked
  split at looked
  · next text outcome =>
      cases looked
      rw [lookupKey] at outcome
      split at outcome
      · exact absurd outcome (noText _ _)
      · split at outcome
        · cases outcome
        · split at outcome
          · split at outcome
            · next content read =>
                cases outcome
                exact read
            · exact absurd outcome (noText _ _)
          · cases outcome
  · cases looked

/-- What is found has no carriage return. -/
theorem noReturn_of_lookupFor {found : Text}
    (looked : lookupFor directory tree subject = some found) : '\r' ∉ found := by
  have read := readText_of_lookupFor looked
  rw [readText] at read
  split at read
  · cases read
  · split at read
    · cases read
      exact Text.noReturn_unifyNewlines _
    · cases read

/-- What is found under the key of a text is that text, with its line endings as reading gives
them. -/
theorem lookupFor_text (holds : tree.Holds directory place view) {changed : Int}
    (text : view subject.key = some (.file (Utf8.encode content) changed)) :
    lookupFor directory tree subject = none ∨
      lookupFor directory tree subject = some content.unifyNewlines := by
  have ordinary := ordinary_of_isEntryName (isEntryName_key subject)
  cases looked : lookupFor directory tree subject with
  | none => exact Or.inl rfl
  | some found =>
      have read := readText_of_lookupFor looked
      by_cases short : (Utf8.encode subject.key).length ≤ longestName
      · rw [holds.readText_child text ordinary short] at read
        exact Or.inr (congrArg some (Except.ok.inj read).symm)
      · rw [readText, readBytes, holds.entry_child ordinary, if_pos (Nat.lt_of_not_le short)] at read
        cases read

theorem lookupFor_overwritten (holds : tree.Holds directory place view)
    (again : after.Holds directory place other)
    (overwritten : Overwritten subject content view other) (asked : Subject) :
    lookupFor directory after asked = lookupFor directory tree asked ∨
      asked.key = subject.key ∧ (lookupFor directory after asked = none ∨
        lookupFor directory after asked = some content.unifyNewlines) := by
  have congruent (text : other asked.key = view asked.key)
      (recorded : other (recordName asked.key) = view (recordName asked.key)) :
      lookupFor directory after asked = lookupFor directory tree asked := by
    rw [lookupFor, lookupFor, lookupKey_congr holds again (isEntryName_key asked)
      (isEntryName_recordName asked) text recorded]
  by_cases same : asked.key = subject.key
  · rcases overwritten.text with rfl | ⟨changed, shown⟩
    · exact Or.inl (congruent rfl rfl)
    · rw [← same] at shown
      exact Or.inr ⟨same, lookupFor_text again shown⟩
  · refine Or.inl (congruent ?_ ?_)
    · exact overwritten.apart _ same (Ne.symm (recordName_ne_key _ asked))
    · exact overwritten.apart _ (recordName_ne_key _ subject)
        fun equal => same (recordName_injective equal)

/-! ## Lawful trees -/

private theorem isSegment_asideName (taken : List Text) {target : Text}
    (entry : isEntryName target = true) :
    isSegment (asideName taken (Path.suffixOf target)) = true := by
  obtain ⟨n, shape⟩ := asideName_shape taken (Path.suffixOf target)
  have inTarget : ∀ c ∈ Path.suffixOf target, c ∈ target := by
    intro c member
    rw [Path.suffixOf] at member
    split at member
    · exact List.mem_of_mem_drop member
    · cases member
  have noSlash := (isSegment_iff.mp (isSegment_of_isEntryName entry)).2.1
  rw [shape]
  refine isSegment_iff.mpr ⟨by simp [asideMark], ?_, by simp [asideMark]⟩
  rw [List.mem_append, List.mem_append]
  rintro ((inMark | inNumber) | inEnding)
  · exact absurd inMark (by decide)
  · exact absurd (Text.isDigit_of_mem_ofNat inNumber) (by decide)
  · exact noSlash (inTarget _ inEnding)

theorem lawful_publish (lawful : tree.Lawful) (plain : Plain directory)
    (legible : directory.Legible) {target : Text} (entry : isEntryName target = true)
    (content : Text) : (publish directory tree target content).2.Lawful := by
  have segment := isSegment_asideName (namesIn tree directory) entry
  have ordinary := asideName_ordinary (namesIn tree directory) (Path.suffixOf target)
  rw [publish]
  dsimp only [Step.run]
  split
  · exact lawful
  · next drafted written =>
      have draftedLawful := lawful.writeBytes_child plain legible segment ordinary written
      split
      · next published moved =>
          exact draftedLawful.moveFile_child plain legible segment ordinary
            (isSegment_of_isEntryName entry) (ordinary_of_isEntryName entry) moved
      · cases removed : drafted.remove (directory.child
            (asideName (namesIn tree directory) (Path.suffixOf target))) with
        | error why => exact draftedLawful
        | ok after =>
            exact draftedLawful.remove (plain.child ordinary) (legible.child segment) removed

theorem lawful_keep (lawful : tree.Lawful) (plain : Plain directory) (legible : directory.Legible)
    (subject : Subject) (content now : Text) :
    (keep directory tree subject content now).2.Lawful := by
  have first := lawful_publish lawful plain legible (isEntryName_key subject) content
  rw [keep]
  split
  · next why after published =>
      rw [published] at first
      exact first
  · next kept published =>
      rw [published] at first
      have second := lawful_publish first plain legible (isEntryName_recordName subject)
        (recordText subject.request subject.times now)
      split
      · next why after recorded =>
          rw [recorded] at second
          exact second
      · next last recorded =>
          rw [recorded] at second
          exact second

/-! ## A store -/

/-- What a store leaves: a lawful tree that has grown, in which lookups find what they found,
unless the bundle is looked for. -/
structure Lasts (directory : Path) (hidden : Text → Bool) (subject : Subject) (content : Text)
    (tree after : Tree) : Prop where
  grown : Grown (tree.Lacks directory.names) directory.names hidden tree after
  lawful : after.Lawful
  lookups : ∀ asked, lookupFor directory after asked = lookupFor directory tree asked ∨
    asked.key = subject.key ∧ (lookupFor directory after asked = none ∨
      lookupFor directory after asked = some content.unifyNewlines)

theorem lasts_keep (holds : tree.Holds directory directory.names view) (lawful : tree.Lawful)
    (plain : Plain directory) (legible : directory.Legible)
    (hides : Hides hidden directory.names tree) (subject : Subject) (content now : Text) :
    Lasts directory hidden subject content tree (keep directory tree subject content now).2 := by
  obtain ⟨other, revised, overwritten⟩ := keep_overwritten holds subject content now
  exact ⟨(twin_of_overwritten holds revised overwritten hides).mono False.elim,
    lawful_keep lawful plain legible subject content now,
    lookupFor_overwritten holds revised.holds overwritten⟩

/-- In a lawful tree the cache directory is there, or it is missing. -/
theorem holds_or_lacks (lawful : tree.Lawful) (rooted : directory.isAbsolute = true) :
    (∃ view, tree.Holds directory directory.names view) ∨ tree.Lacks directory.names := by
  by_cases there : ∃ children, tree.root.at? directory.names = some (.directory children)
  · obtain ⟨children, found⟩ := there
    exact Or.inl ⟨_, holds_of_at? rooted (Entry.isLawful_of_at? lawful found).1 found⟩
  · push Not at there
    exact Or.inr there

/-- A bundle is stored in any state of the cache directory, and what was found is found still. -/
theorem lasts_store (lawful : tree.Lawful) (top : tree.root.isDirectory = true)
    (plain : Plain directory) (legible : directory.Legible)
    (hides : Hides hidden directory.names tree) (request : Request) (files : List Text)
    (content now : Text) :
    Lasts directory hidden (.now tree request files) content tree
      (store directory tree request files content now).2 := by
  rcases holds_or_lacks lawful plain.rooted with ⟨view, holds⟩ | lacks
  · rw [store_eq_of_holds holds]
    exact lasts_keep holds lawful plain legible hides _ content now
  · have below : directory.names ≠ [] := by
      intro none
      cases root : tree.root with
      | file bytes changed => simp [root, Entry.isDirectory] at top
      | directory children => exact lacks children (by rw [none, root]; rfl)
    have prepared := prepareDirectory_lacking plain legible below lacks
    have readyLawful := lawful.prepareDirectory plain legible
    have nothing := lookupFor_lacking plain lacks
    rw [store_eq_keep]
    generalize tree.prepareDirectory directory = ending at prepared readyLawful
    obtain ⟨result, ready⟩ := ending
    have grown : Grown (tree.Lacks directory.names) directory.names hidden tree ready :=
      (prepared.grown lacks top).mono fun _ => lacks
    rcases prepared.ending with ⟨⟨why, rfl⟩, missing⟩ | ⟨rfl, holds⟩
    · exact ⟨grown, readyLawful,
        fun asked => Or.inl ((lookupFor_lacking plain missing asked).trans (nothing asked).symm)⟩
    · have kept := lasts_keep holds readyLawful plain legible (hides.of_grown grown)
        (.now tree request files) content now
      refine ⟨grown.trans (kept.grown.mono fun _ => lacks), kept.lawful, fun asked => ?_⟩
      rw [(nothing asked).trans (lookupFor_empty holds asked).symm]
      exact kept.lookups asked

end Cache
end Codemap
