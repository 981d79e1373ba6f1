import Codemap.Proofs.Cache.Lasting
import Codemap.Proofs.Files.Storing

namespace Codemap

namespace Tree

variable {tree ready : Tree} {path : Path} {place : List Text} {view : Text → Option Entry}

/-- Where a file could be written, there is a directory. -/
theorem holds_of_writeBytes_child {after : Tree} {name : Text} {content : Bytes}
    (rooted : tree.current.isAbsolute = true)
    (written : tree.writeBytes (path.child name) content = .ok after) :
    ∃ place view, tree.Holds path place view := by
  obtain ⟨place, located, ⟨children, found⟩, -⟩ := writeBytes_ok written
  rw [absolute_child, parent_child] at located
  have root := absolute_isAbsolute rooted path
  have fixed : tree.absolute (tree.absolute path) = tree.absolute path := by
    rw [absolute, Path.join, if_pos root]
  rw [locate_absolute, fixed, ← locate_absolute] at located
  exact ⟨place, _, root, located, children, found, rfl⟩

/-- A directory that has been made was there before, or it is empty. -/
theorem eq_or_empty_of_prepareDirectory (prepared : tree.prepareDirectory path = (.ok (), ready))
    (holds : ready.Holds path place view) : ready = tree ∨ view = fun _ => none := by
  have normal := holds.normalize
  have current := current_of_prepareDirectory tree path
  rw [prepared] at current
  have same : ready.absolute path = tree.absolute path := by rw [absolute, absolute, current]
  rw [same] at normal
  rw [prepareDirectory, normal] at prepared
  dsimp only at prepared
  split at prepared
  · cases prepared
  · obtain ⟨result, made⟩ := Prod.mk.inj prepared
    split at made
    · exact Or.inl made.symm
    · right
      split at result
      · next all =>
          rw [List.takeWhile_eq_self_iff.mpr (List.all_eq_true.mp all)] at made
          obtain ⟨children, found, rfl⟩ := holds.found
          have there := at?_place_below tree place (.directory []) []
          rw [List.append_nil, made, found] at there
          cases there
          rfl
      · cases result

/-- A file that is not there cannot be read. -/
theorem readText_of_not_isFile (none : tree.isFile path = false) :
    ∃ why, tree.readText path = .error (.storage why) := by
  rw [isFile] at none
  rw [readText, readBytes]
  cases found : tree.entry path with
  | error why => exact ⟨why, rfl⟩
  | ok entry =>
      cases entry with
      | directory children => exact ⟨.isDirectory, rfl⟩
      | file content changed => simp [found, Entry.isFile] at none

end Tree

namespace Cache

/-!
# What comes back from the cache

A text that has been stored comes back as long as nobody touches the cache and the files it
was made from have the times that they had.  It is written as it is, but reading turns every
line ending into a line feed, so it is the same text only without carriage returns.  It does
not come back at all if the name of the record is too long for a file; then the store has
failed.

If one of the times is another, nothing comes back.  A file that does not exist counts as
one with a time that others may have as well, so if a file had that time, it does not show
that it is gone.
-/

open Codemap.Tree

variable {directory : Path} {tree ready after later : Tree} {place : List Text}
  {view other : Text → Option Entry} {subject : Subject} {request : Request} {files : List Text}
  {content now : Text}

/-! ## The time between a store and a lookup -/

/-- What can be read under the names of entries is the same in two trees. -/
def SameEntries (directory : Path) (before after : Tree) : Prop :=
  ∀ name, isEntryName name = true →
    after.readText (directory.child name) = before.readText (directory.child name)

theorem SameEntries.refl (directory : Path) (tree : Tree) : SameEntries directory tree tree :=
  fun _ _ => rfl

theorem SameEntries.lookupFor_eq (same : SameEntries directory tree after) (subject : Subject) :
    lookupFor directory after subject = lookupFor directory tree subject := by
  rw [lookupFor, lookupFor, lookupKey, lookupKey, same _ (isEntryName_key subject),
    same _ (isEntryName_recordName subject)]

/-- Several changes of files, one after the other. -/
def changeAll (tree : Tree) (changes : List (Text × FileChange)) : Tree :=
  changes.foldl (fun tree change => change.2.run tree (Path.ofText change.1)) tree

/-- Changes of files outside a directory leave it as it is. -/
theorem holds_changeAll (holds : tree.Holds directory place view)
    (rooted : tree.current.isAbsolute = true) {changes : List (Text × FileChange)}
    (outside : ∀ change ∈ changes, tree.Outside place (Path.ofText change.1)) :
    (changeAll tree changes).Holds directory place view := by
  induction changes generalizing tree with
  | nil => exact holds
  | cons change rest inductionHypothesis =>
      obtain ⟨first, others⟩ := List.forall_mem_cons.mp outside
      obtain ⟨stays, current⟩ := holds.fileChange rooted first change.2
      refine inductionHypothesis stays (current ▸ rooted) fun other member => ?_
      rw [Outside, absolute, current]
      exact others other member

/-- So they leave the entries of the cache as they are. -/
theorem sameEntries_changeAll (holds : tree.Holds directory place view)
    (rooted : tree.current.isAbsolute = true) {changes : List (Text × FileChange)}
    (outside : ∀ change ∈ changes, tree.Outside place (Path.ofText change.1)) :
    SameEntries directory tree (changeAll tree changes) := fun _ entry =>
  readText_child_congr holds (holds_changeAll holds rooted outside)
    (ordinary_of_isEntryName entry) rfl

/-! ## What a store has written -/

/-- A text is published in a directory that is there, under a name that fits. -/
theorem published_ok (holds : tree.Holds directory place view) {target : Text}
    (entry : isEntryName target = true)
    (published : publish directory tree target content = (.ok (), after)) :
    (Utf8.encode target).length ≤ longestName ∧ tree.Revised after directory place
      (Function.update view target (some (.file (Utf8.encode content) tree.clock))) := by
  by_cases fits : (Utf8.encode (asideName (namesIn tree directory)
        (Path.suffixOf target))).length ≤ longestName ∧
      (Utf8.encode target).length ≤ longestName ∧ ∀ below, view target ≠ some (.directory below)
  · obtain ⟨short, shortTarget, free⟩ := fits
    obtain ⟨again, publishedAgain, revised⟩ := publish_writable holds entry short
      ⟨ordinary_of_isEntryName entry, shortTarget, free⟩ content
    cases published.symm.trans publishedAgain
    exact ⟨shortTarget, revised⟩
  · obtain ⟨why, again, refused, -⟩ := publish_refused holds fits entry content
    cases published.symm.trans refused

/-- A bundle that is kept has names that fit, and its two files are shown. -/
theorem kept_ok {path : Path} (holds : tree.Holds directory place view)
    (kept : keep directory tree subject content now = (.ok path, after)) :
    Fits subject ∧ ∃ changed later,
      tree.Revised after directory place (keptView view subject content now changed later) := by
  rw [keep] at kept
  split at kept
  · cases kept
  · next middle first =>
      obtain ⟨-, revised⟩ := published_ok holds (isEntryName_key subject) first
      split at kept
      · cases kept
      · next last second =>
          cases kept
          obtain ⟨fits, revisedAgain⟩ :=
            published_ok revised.holds (isEntryName_recordName subject) second
          exact ⟨fits, tree.clock, middle.clock, revised.trans revisedAgain⟩

/-- A directory in which a bundle is kept is there. -/
theorem holds_of_keep {path : Path} (rooted : tree.current.isAbsolute = true)
    (kept : keep directory tree subject content now = (.ok path, after)) :
    ∃ place view, tree.Holds directory place view := by
  rw [keep] at kept
  split at kept
  · cases kept
  · next middle published =>
      rw [publish] at published
      dsimp only [Step.run] at published
      split at published
      · cases published
      · next drafted written => exact holds_of_writeBytes_child rooted written

/-- What a store that has succeeded leaves: the directory was there or has been made, and
shows the two files of the bundle beside what it showed. -/
theorem stored_ok {path : Path} (rooted : tree.current.isAbsolute = true)
    (stored : store directory tree request files content now = (.ok path, after)) :
    Fits (.now tree request files) ∧ ∃ ready place view changed later,
      (ready = tree ∨ view = fun _ => none) ∧ ready.Holds directory place view ∧
      ready.Revised after directory place
        (keptView view (.now tree request files) content now changed later) := by
  rw [store_eq_keep] at stored
  split at stored
  · cases stored
  · next ready prepared =>
      have current := current_of_prepareDirectory tree directory
      rw [prepared] at current
      obtain ⟨place, view, holds⟩ := holds_of_keep (current ▸ rooted) stored
      obtain ⟨fits, changed, later, revised⟩ := kept_ok holds stored
      exact ⟨fits, ready, place, view, changed, later,
        eq_or_empty_of_prepareDirectory prepared holds, holds, revised⟩

/-! ## Looking for it again -/

theorem lookupFor_keptView {changed later : Int}
    (holds : after.Holds directory place (keptView view subject content now changed later))
    (fits : Fits subject) (lawful : subject.Lawful) (readable : subject.Readable) :
    lookupFor directory after subject = some content.unifyNewlines := by
  have alike : subject.Alike subject :=
    ⟨⟨rfl, .refl _, .refl _, rfl⟩, fun _ member => member, fun _ member => member, fun _ _ => rfl⟩
  have text : keptView view subject content now changed later subject.key =
      some (.file (Utf8.encode content) changed) := by
    rw [keptView, Function.update_of_ne (Ne.symm (recordName_ne_key _ subject)),
      Function.update_self]
  rw [lookupFor, lookupKey_kept holds fits text (Function.update_self ..) lawful readable alike]

/-- A bundle with a record whose name is too long is not found. -/
theorem lookupFor_tooLong (holds : tree.Holds directory place view) (tooLong : ¬ Fits subject) :
    lookupFor directory tree subject = none := by
  have ordinary := ordinary_of_isEntryName (isEntryName_recordName subject)
  have refused : tree.readText (directory.child (recordName subject.key)) =
      .error (.storage .nameTooLong) := by
    rw [readText, readBytes, holds.entry_child ordinary, if_pos (Nat.lt_of_not_le tooLong)]
  exact lookupFor_unread refused

/-- The cache directory can be written for a subject: it is there or can be made, has fewer
entries than there are names aside with fifty digits, and no directory stands under the names
of the bundle. -/
structure CanKeep (directory : Path) (tree ready : Tree) (place : List Text)
    (view : Text → Option Entry) (subject : Subject) : Prop where
  prepared : tree.prepareDirectory directory = (.ok (), ready)
  holds : ready.Holds directory place view
  few : (namesIn ready directory).length < 10 ^ 50
  text : ∀ below, view subject.key ≠ some (.directory below)
  record : ∀ below, view (recordName subject.key) ≠ some (.directory below)

theorem CanKeep.vacant (canKeep : CanKeep directory tree ready place view subject) :
    Vacant view subject :=
  ⟨roomy_of_few canKeep.holds canKeep.few, canKeep.text, canKeep.record⟩

/-- Where a bundle can be kept, storing one succeeds exactly if its names fit. -/
theorem CanKeep.store (canKeep : CanKeep directory tree ready place view (.now tree request files))
    (content now : Text) (readable : (Subject.now tree request files).Readable) :
    ((∃ path, (store directory tree request files content now).1 = .ok path) ↔
      Fits (.now tree request files)) ∧
    lookupFor directory (store directory tree request files content now).2
        (.now tree request files) =
      if Fits (.now tree request files) then some content.unifyNewlines else none := by
  rw [store_eq_keep, canKeep.prepared]
  by_cases fits : Fits (.now tree request files)
  · obtain ⟨after, changed, later, kept, revised⟩ :=
      keep_vacant canKeep.holds canKeep.vacant fits content now
    simp only [kept, fits, if_true, iff_true]
    exact ⟨⟨_, rfl⟩,
      lookupFor_keptView revised.holds fits (Subject.now_lawful tree request files) readable⟩
  · obtain ⟨other, revised, -⟩ :=
      keep_overwritten canKeep.holds (.now tree request files) content now
    simp only [fits, if_false, iff_false]
    refine ⟨?_, lookupFor_tooLong revised.holds fits⟩
    rintro ⟨path, succeeded⟩
    exact fits (kept_ok canKeep.holds (Prod.ext succeeded rfl)).1

theorem now_eq_of_timeOf (unchanged : ∀ file ∈ files, timeOf later file = timeOf tree file) :
    Subject.now later request files = Subject.now tree request files :=
  congrArg (Subject.mk request files) (timesOf_eq unchanged)

/-! ## A project with one file -/

/-- A request for the directory of that file. -/
def sampleRequest : Request where
  directory := "/src".toList

/-- The project whose file has some time of change. -/
def datedTree (time : Int) : Tree where
  root := .directory [("cache".toList, .directory []),
    ("src".toList, .directory [("a.py".toList, .file [] time)])]

theorem datedTree_holds (time : Int) :
    (datedTree time).Holds sampleCache ["cache".toList] fun _ => none := by
  have named : ∀ name ∈ sampleCache.names, isName name = true := by decide
  have there : (datedTree time).root.at? sampleCache.names = some (.directory []) := rfl
  exact holds_of_at? rfl named there

theorem datedTree_lists (time : Int) :
    (datedTree time).Lists sampleFile ["src".toList, "a.py".toList] [] time where
  text := by decide
  nonempty := List.cons_ne_nil _ _
  named := by decide
  there := rfl

theorem now_of_timeOf {time : Int} (had : timeOf tree sampleFile = time) :
    Subject.now tree sampleRequest [sampleFile] = sampleSubject time := by
  rw [Subject.now, timesOf, show [sampleFile].eraseDups = [sampleFile] from rfl, List.map_singleton,
    had]
  rfl

theorem datedTree_now (time : Int) :
    Subject.now (datedTree time) sampleRequest [sampleFile] = sampleSubject time :=
  now_of_timeOf (timeOf_of_lists (datedTree_lists time))

theorem datedTree_canKeep (time : Int) :
    CanKeep sampleCache (datedTree time) (datedTree time) ["cache".toList] (fun _ => none)
      (.now (datedTree time) sampleRequest [sampleFile]) where
  prepared := (datedTree_holds time).prepareDirectory
  holds := datedTree_holds time
  few := by
    have empty : namesIn (datedTree time) sampleCache = [] :=
      List.eq_nil_iff_forall_not_mem.mpr fun name =>
        (view_eq_none_iff (datedTree_holds time)).mp rfl
    rw [empty]
    exact Nat.pow_pos (Nat.succ_pos 9)
  text := fun _ => nofun
  record := fun _ => nofun

/-- A store in that project succeeds and leaves the file as it is. -/
theorem datedTree_stored (time : Int) (content : Text) :
    ∃ path after view, store sampleCache (datedTree time) sampleRequest [sampleFile] content [] =
        (.ok path, after) ∧
      after.Holds sampleCache ["cache".toList] view ∧ after.current = (datedTree time).current ∧
      after.Lists sampleFile ["src".toList, "a.py".toList] [] time := by
  obtain ⟨after, changed, later, stored, revised⟩ := store_ok (datedTree_holds time) (fun _ => rfl)
    (fun _ _ _ => nofun) sampleRequest [sampleFile] content []
    (datedTree_now time ▸ fits_sampleSubject time)
  exact ⟨_, after, _, stored, revised.holds, revised.same.current,
    (datedTree_lists time).of_at?_eq (revised.same.beside _ (by decide) (by decide))⟩

theorem timeOf_datedTree_stored (time : Int) (content : Text) : ∀ file ∈ [sampleFile],
    timeOf (store sampleCache (datedTree time) sampleRequest [sampleFile] content []).2 file =
      timeOf (datedTree time) file := by
  obtain ⟨path, after, view, stored, -, -, lists⟩ := datedTree_stored time content
  rw [stored, List.forall_mem_singleton, timeOf_of_lists lists,
    timeOf_of_lists (datedTree_lists time)]

/-! ## What comes back -/

theorem CanKeep.lookup_store
    (canKeep : CanKeep directory tree ready place view (.now tree request files))
    (readable : (Subject.now tree request files).Readable) (content now : Text)
    (same : SameEntries directory (Cache.store directory tree request files content now).2 later)
    (unchanged : ∀ file ∈ files, timeOf later file = timeOf tree file) :
    lookup directory later request files =
      if Fits (.now tree request files) then some content.unifyNewlines else none := by
  rw [lookup_eq_lookupFor, now_eq_of_timeOf unchanged, same.lookupFor_eq,
    (canKeep.store content now readable).2]

/-- What has been stored comes back with every line ending a line feed, as long as the entries
of the cache are left alone and the times of the files are what they were.  So the stored text
itself comes back exactly if the name of its record fits and it has no carriage return. -/
theorem lookup_after_store
    (canKeep : CanKeep directory tree ready place view (.now tree request files))
    (readable : (Subject.now tree request files).Readable) (content now : Text)
    (same : SameEntries directory (store directory tree request files content now).2 later)
    (unchanged : ∀ file ∈ files, timeOf later file = timeOf tree file) :
    ((∃ path, (store directory tree request files content now).1 = .ok path) ↔
      Fits (.now tree request files)) ∧
    lookup directory later request files =
      (if Fits (.now tree request files) then some content.unifyNewlines else none) ∧
    (lookup directory later request files = some content ↔
      Fits (.now tree request files) ∧ '\r' ∉ content) := by
  have looked := canKeep.lookup_store readable content now same unchanged
  refine ⟨(canKeep.store content now readable).1, looked, ?_⟩
  rw [looked]
  constructor
  · intro back
    obtain ⟨fits, unified⟩ := Option.ite_none_right_eq_some.mp back
    exact ⟨fits, Option.some.inj unified ▸ Text.noReturn_unifyNewlines content⟩
  · rintro ⟨fits, plain⟩
    rw [if_pos fits, Text.unifyNewlines_eq_self plain]

/-- What has just been stored is found. -/
theorem lookup_after_store_first :
    lookup sampleCache
        (store sampleCache (datedTree 5) sampleRequest [sampleFile] "first".toList []).2
        sampleRequest [sampleFile] = some "first".toList := by
  refine (lookup_after_store (datedTree_canKeep 5) ?_ "first".toList [] (.refl _ _)
    (timeOf_datedTree_stored 5 _)).2.2.mpr ⟨?_, by decide⟩
  · rw [datedTree_now]
    decide
  · rw [datedTree_now]
    exact fits_sampleSubject 5

/-- A carriage return comes back as a line feed. -/
theorem lookup_after_store_return :
    lookup sampleCache
        (store sampleCache (datedTree 5) sampleRequest [sampleFile] "a\rb".toList []).2
        sampleRequest [sampleFile] = some "a\nb".toList := by
  rw [(datedTree_canKeep 5).lookup_store (by rw [datedTree_now]; decide) "a\rb".toList []
    (.refl _ _) (timeOf_datedTree_stored 5 _), datedTree_now, if_pos (fits_sampleSubject 5)]
  decide

/-! ## After a change of a file -/

/-- The time of the last change of a file, if there is one. -/
def timeOf? (tree : Tree) (file : Text) : Option Int :=
  if file.isEmpty || (needsDirectory file && tree.isFile (Path.ofText file)) then none
  else (tree.changed (Path.ofText file)).toOption

/-- A file that does not exist counts as one with a time of its own. -/
theorem timeOf_eq_getD (tree : Tree) (file : Text) :
    timeOf tree file = (timeOf? tree file).getD missingTime := by
  rw [timeOf, timeOf?]
  split
  · rfl
  · cases tree.changed (Path.ofText file) <;> rfl

/-- A change of a file that exists shows, unless the file had the time of a missing one and is
gone. -/
theorem timeOf_ne_iff {file : Text} {time : Int} (had : timeOf? tree file = some time) :
    timeOf later file ≠ timeOf tree file ↔ timeOf? later file ≠ some time ∧
      ¬ (time = missingTime ∧ timeOf? later file = none) := by
  rw [timeOf_eq_getD, timeOf_eq_getD, had, Option.getD_some]
  cases timeOf? later file with
  | none => simp [eq_comm]
  | some other => simp

theorem timeOf?_of_lists {text : Text} {names : List Text} {bytes : Bytes} {changed : Int}
    (lists : tree.Lists text names bytes changed) : timeOf? tree text = some changed := by
  obtain ⟨nonempty, free⟩ := not_needsDirectory lists
  have notEmpty : text.isEmpty = false := by simpa using nonempty
  rw [timeOf?, notEmpty, free, Tree.changed, lists.entry]
  rfl

/-- A file that is deleted has no time. -/
theorem timeOf?_delete {text : Text} {names : List Text} {bytes : Bytes} {changed : Int}
    (lists : tree.Lists text names bytes changed) :
    timeOf? (FileChange.delete.run tree (Path.ofText text)) text = none := by
  obtain ⟨above, name, split⟩ := (List.eq_nil_or_concat names).resolve_left lists.nonempty
  rw [List.concat_eq_append] at split
  subst split
  have child : Path.ofText text = Path.child { names := above } name := lists.ofText_eq
  have named := lists.named name (by simp)
  have ordinary : name ≠ upward := (isName_iff.mp named).2.1
  obtain ⟨children, found⟩ := Entry.directory_above lists.there (List.cons_ne_nil name [])
  have holds : tree.Holds { names := above } above (Entry.look? children) :=
    holds_of_at? rfl (fun other member => lists.named other (List.mem_append_left _ member)) found
  have present : Entry.look? children name = some (.file bytes changed) := by
    rw [← lists.there, Entry.at?_concat, found]
    rfl
  have isFile : tree.isFile (Path.ofText text) = true := isFile_iff.mpr ⟨_, _, lists.entry⟩
  have short := (isName_iff.mp named).2.2
  obtain ⟨after, removed, revised⟩ := holds.remove_child present ordinary short
  rw [FileChange.run, if_pos isFile, child, removed, timeOf?]
  split
  · rfl
  · rw [child, Tree.changed]
    dsimp only [Except.toOption, Option.getD_some]
    rw [revised.holds.entry_child ordinary, if_neg (Nat.not_lt.mpr short), Function.update_self]

/-- No entry of a cache is there. -/
def Unused (directory : Path) (tree : Tree) : Prop :=
  ∀ name, isEntryName name = true → tree.isFile (directory.child name) = false

theorem unused_of_holds (holds : tree.Holds directory place view)
    (empty : ∀ name, isEntryName name = true → view name = none) : Unused directory tree := by
  intro name entry
  rw [isFile, holds.entry_child (ordinary_of_isEntryName entry), empty name entry]
  by_cases tooLong : longestName < (Utf8.encode name).length <;> simp [tooLong]

/-- After the first store, nothing is found under another key. -/
theorem lookupFor_other_key {changed later : Int} (unused : Unused directory tree)
    (prepared : ready = tree ∨ view = fun _ => none) (holds : ready.Holds directory place view)
    (kept : after.Holds directory place (keptView view subject content now changed later))
    {asked : Subject} (apart : asked.key ≠ subject.key) :
    lookupFor directory after asked = none := by
  have entry := isEntryName_recordName asked
  have ordinary := ordinary_of_isEntryName entry
  have shown : keptView view subject content now changed later (recordName asked.key) =
      view (recordName asked.key) := by
    rw [keptView, Function.update_of_ne fun same => apart (recordName_injective same),
      Function.update_of_ne (recordName_ne_key _ subject)]
  obtain ⟨why, unread⟩ : ∃ why, ready.readText (directory.child (recordName asked.key)) =
      .error (.storage why) := by
    rcases prepared with rfl | rfl
    · exact readText_of_not_isFile (unused _ entry)
    · exact holds.readText_child_missing rfl ordinary
  rw [← readText_child_congr holds kept ordinary shown] at unread
  exact lookupFor_unread unread

/-- After a store in an unused cache, nothing is found exactly if one of the files has been
changed: it has another time, or it is gone and did not have the time that missing files count
as having. -/
theorem lookup_after_change {path : Path} (rooted : tree.current.isAbsolute = true)
    (unused : Unused directory tree)
    (existing : ∀ file ∈ files, (timeOf? tree file).isSome = true)
    (readable : (Subject.now tree request files).Readable)
    (stored : store directory tree request files content now = (.ok path, after))
    (same : SameEntries directory after later)
    (collisionless : fingerprintOf (Subject.now tree request files).canonicalText =
        fingerprintOf (Subject.now later request files).canonicalText →
      (Subject.now tree request files).canonicalText =
        (Subject.now later request files).canonicalText) :
    lookup directory later request files = none ↔
      ∃ file ∈ files, timeOf? later file ≠ timeOf? tree file ∧
        ¬ (timeOf? tree file = some missingTime ∧ timeOf? later file = none) := by
  obtain ⟨fits, ready, place, view, changed, time, prepared, holds, revised⟩ :=
    stored_ok rooted stored
  have shows {file : Text} (member : file ∈ files) :
      timeOf later file ≠ timeOf tree file ↔ timeOf? later file ≠ timeOf? tree file ∧
        ¬ (timeOf? tree file = some missingTime ∧ timeOf? later file = none) := by
    obtain ⟨time, had⟩ := Option.isSome_iff_exists.mp (existing file member)
    rw [timeOf_ne_iff had, had, Option.some.injEq]
  rw [lookup_eq_lookupFor, same.lookupFor_eq]
  constructor
  · intro none
    by_contra unchanged
    push Not at unchanged
    have times : ∀ file ∈ files, timeOf later file = timeOf tree file := by
      intro file member
      by_contra differs
      obtain ⟨other, gone⟩ := (shows member).mp differs
      exact gone (unchanged file member other)
    rw [now_eq_of_timeOf times, lookupFor_keptView revised.holds fits
      (Subject.now_lawful tree request files) readable] at none
    cases none
  · rintro ⟨file, member, differs⟩
    refine lookupFor_other_key unused prepared holds revised.holds fun sameKey => ?_
    have alike := Subject.alike_of_canonicalText (Subject.now_lawful tree request files)
      (Subject.now_lawful later request files)
      (collisionless (Subject.fingerprint_of_key sameKey.symm))
    have sameTime := alike.2.2.2 file member
    rw [Subject.now, Subject.now] at sameTime
    dsimp only at sameTime
    rw [recordedTime_timesOf member, recordedTime_timesOf member] at sameTime
    exact (shows member).mpr differs sameTime.symm

/-- A deletion leaves the entries of the cache of that project as they are. -/
theorem sameEntries_delete (holds : tree.Holds sampleCache ["cache".toList] view)
    (current : tree.current = (datedTree 0).current) :
    SameEntries sampleCache tree (FileChange.delete.run tree (Path.ofText sampleFile)) := by
  have outside : tree.Outside ["cache".toList] (Path.ofText sampleFile) := by
    rw [Outside, absolute, current]
    decide +kernel
  exact sameEntries_changeAll holds (current ▸ rfl)
    (List.forall_mem_singleton.mpr outside : ∀ change ∈ [(sampleFile, FileChange.delete)], _)

/-- A file that is deleted shows that it is gone. -/
theorem lookup_after_deletion :
    lookup sampleCache (FileChange.delete.run
        (store sampleCache (datedTree 5) sampleRequest [sampleFile] "first".toList []).2
        (Path.ofText sampleFile)) sampleRequest [sampleFile] = none := by
  obtain ⟨path, after, view, stored, holds, current, lists⟩ := datedTree_stored 5 "first".toList
  have had := timeOf?_of_lists (datedTree_lists 5)
  have gone := timeOf?_delete lists
  have collisionless : fingerprintOf (sampleSubject 5).canonicalText ≠
      fingerprintOf (sampleSubject 0).canonicalText := by
    have zero : (sampleSubject 0).canonicalText = sampleText "0" := by
      simp only [Subject.canonicalText, canonicalText, sortKeys_payload]
      decide +kernel
    rw [canonicalText_sampleSubject.1, zero]
    decide +kernel
  have later : Subject.now (FileChange.delete.run after (Path.ofText sampleFile)) sampleRequest
      [sampleFile] = sampleSubject 0 := now_of_timeOf (by rw [timeOf_eq_getD, gone]; rfl)
  rw [stored]
  refine (lookup_after_change rfl (unused_of_holds (datedTree_holds 5) fun _ _ => rfl) ?_ ?_ stored
    (sameEntries_delete holds current) ?_).mpr ⟨sampleFile, List.mem_singleton_self _, ?_⟩
  · rw [List.forall_mem_singleton, had]
    rfl
  · rw [datedTree_now]
    decide
  · rw [datedTree_now, later]
    exact fun same => absurd same collisionless
  · rw [had, gone]
    decide

/-- A file with the time zero is deleted, and what was made from it is still found. -/
theorem lookup_after_unseen_deletion :
    let after := (store sampleCache (datedTree 0) sampleRequest [sampleFile] "first".toList []).2
    let later := FileChange.delete.run after (Path.ofText sampleFile)
    timeOf? (datedTree 0) sampleFile = some 0 ∧ timeOf? later sampleFile = none ∧
      lookup sampleCache later sampleRequest [sampleFile] = some "first".toList := by
  obtain ⟨path, after, view, stored, holds, current, lists⟩ := datedTree_stored 0 "first".toList
  have had := timeOf?_of_lists (datedTree_lists 0)
  have gone := timeOf?_delete lists
  have left : (store sampleCache (datedTree 0) sampleRequest [sampleFile] "first".toList []).2 =
      after := congrArg Prod.snd stored
  rw [left]
  refine ⟨had, gone, ?_⟩
  have same : SameEntries sampleCache
      (store sampleCache (datedTree 0) sampleRequest [sampleFile] "first".toList []).2
      (FileChange.delete.run after (Path.ofText sampleFile)) := by
    rw [left]
    exact sameEntries_delete holds current
  have unchanged : ∀ file ∈ [sampleFile],
      timeOf (FileChange.delete.run after (Path.ofText sampleFile)) file =
        timeOf (datedTree 0) file := by
    rw [List.forall_mem_singleton, timeOf_eq_getD, timeOf_eq_getD, had, gone]
    rfl
  rw [(datedTree_canKeep 0).lookup_store (by rw [datedTree_now]; decide) "first".toList [] same
    unchanged, datedTree_now, if_pos (fits_sampleSubject 0)]
  decide

end Cache
end Codemap
