import Codemap.Proofs.Cache.Directory
import Codemap.Proofs.Files.FileChange

namespace Codemap
namespace Cache

/-!
# The cache as a map

Over any history of stores, lookups and changes of files outside the cache directory, a
lookup finds the content of the latest store for an alike subject, and nothing if there
is none.  The subject of a store or a lookup holds the times that the files have at
that moment, so a change that is undone brings back what was kept before it.

What carries the proof is that the directory shows, for the latest of the alike
subjects in the log, its text and its record, and no record for a subject without an
alike one.  Keys of subjects that are not alike differ, so a store touches neither.
-/

/-! ## Histories -/

/-- What may happen while a cache is in use. -/
inductive Event where
  | store (request : Request) (files : List Text) (content now : Text)
  | lookup (request : Request) (files : List Text)
  | change (file : Text) (what : FileChange)
deriving DecidableEq, Repr, Inhabited

/-- A content that was stored, and what for. -/
structure Kept where
  subject : Subject
  content : Text
deriving DecidableEq, Repr, Inhabited

/-- The files, and the stores that have succeeded, latest first. -/
structure State where
  tree : Tree
  log : List Kept := []
deriving Inhabited

namespace Event

/-- The subject of a store or a lookup. -/
def subject? (tree : Tree) : Event → Option Subject
  | .store request files _ _ | .lookup request files => some (.now tree request files)
  | .change _ _ => none

/-- What an event does.  A store that fails is not logged. -/
def run (directory : Path) (state : State) : Event → State
  | .store request files content now =>
      match Cache.store directory state.tree request files content now with
      | (.ok _, after) =>
          { tree := after, log := ⟨.now state.tree request files, content⟩ :: state.log }
      | (.error _, after) => { state with tree := after }
  | .lookup _ _ => state
  | .change file what => { state with tree := what.run state.tree (Path.ofText file) }

end Event

/-- The state after a history. -/
def State.after (directory : Path) (state : State) (events : List Event) : State :=
  events.foldl (Event.run directory) state

/-- The subjects of the stores and lookups of a history. -/
def State.subjects (directory : Path) (state : State) : List Event → List Subject
  | [] => []
  | event :: rest =>
      (event.subject? state.tree).toList ++ subjects directory (event.run directory state) rest

/-- The content of the latest store for an alike subject. -/
def latest (log : List Kept) (subject : Subject) : Option Text :=
  (log.find? fun kept => decide (kept.subject.Alike subject)).map Kept.content

/-- What a lookup for a subject finds. -/
def lookupFor (directory : Path) (tree : Tree) (subject : Subject) : Option Text :=
  match lookupKey directory tree subject.key subject.times with
  | .found content => some content
  | _ => none

theorem lookup_eq_lookupFor (directory : Path) (tree : Tree) (request : Request)
    (files : List Text) :
    lookup directory tree request files = lookupFor directory tree (.now tree request files) := rfl

/-! ## Alike subjects -/

namespace Subject

variable {first second third : Subject}

theorem Alike.symm (alike : first.Alike second) : second.Alike first := by
  obtain ⟨⟨directory, globs, patterns, depth⟩, into, back, times⟩ := alike
  exact ⟨⟨directory.symm, globs.symm, patterns.symm, depth.symm⟩, back, into,
    fun file member => (times file (back file member)).symm⟩

theorem Alike.trans (early : first.Alike second) (late : second.Alike third) :
    first.Alike third := by
  obtain ⟨⟨directory, globs, patterns, depth⟩, into, back, times⟩ := early
  obtain ⟨⟨directory', globs', patterns', depth'⟩, into', back', times'⟩ := late
  exact ⟨⟨directory.trans directory', globs.trans globs', patterns.trans patterns',
      depth.trans depth'⟩,
    fun file member => into' file (into file member),
    fun file member => back file (back' file member),
    fun file member => (times file member).trans (times' file (into file member))⟩

end Subject

/-- A class of subjects whose keys tell them apart: they can be written and read back, and
the fingerprints of their canonical texts do not collide. -/
structure Distinguished (occurs : Subject → Prop) : Prop where
  lawful : ∀ subject, occurs subject → subject.Lawful
  readable : ∀ subject, occurs subject → subject.Readable
  collisionless : ∀ left right, occurs left → occurs right →
    fingerprintOf left.canonicalText = fingerprintOf right.canonicalText →
      left.canonicalText = right.canonicalText

namespace Distinguished

variable {occurs : Subject → Prop} {left right : Subject}

theorem alike_of_key (distinguished : Distinguished occurs) (leftOccurs : occurs left)
    (rightOccurs : occurs right) (same : left.key = right.key) : left.Alike right :=
  Subject.alike_of_canonicalText (distinguished.lawful left leftOccurs)
    (distinguished.lawful right rightOccurs) (distinguished.collisionless left right leftOccurs rightOccurs
      (Subject.fingerprint_of_key same))

end Distinguished

/-! ## What the directory shows -/

/-- A view shows the text and the record of something that was kept. -/
structure Shows (view : Text → Option Entry) (kept : Kept) : Prop where
  fits : Fits kept.subject
  text : ∃ changed, view kept.subject.key = some (.file (Utf8.encode kept.content) changed)
  recorded : ∃ now changed, view (recordName kept.subject.key) =
    some (.file (Utf8.encode (recordText kept.subject.request kept.subject.times now)) changed)

/-- A view shows what the log says of each subject that occurs. -/
structure Agrees (occurs : Subject → Prop) (view : Text → Option Entry) (log : List Kept) :
    Prop where
  clean : Clean view
  onlyFiles : OnlyFiles view
  occurring : ∀ kept ∈ log, occurs kept.subject
  present : ∀ subject, occurs subject → ∀ kept,
    (log.find? fun kept => decide (kept.subject.Alike subject)) = some kept → Shows view kept
  absent : ∀ subject, occurs subject →
    (log.find? fun kept => decide (kept.subject.Alike subject)) = none →
      view (recordName subject.key) = none

variable {directory : Path} {tree : Tree} {place : List Text} {view : Text → Option Entry}
  {occurs : Subject → Prop} {log : List Kept} {subject : Subject}

theorem agrees_empty (occurs : Subject → Prop) : Agrees occurs (fun _ => none) [] where
  clean := fun _ => rfl
  onlyFiles := fun _ _ _ => by simp
  occurring := fun _ member => absurd member List.not_mem_nil
  present := fun _ _ _ found => by cases found
  absent := fun _ _ _ => rfl

/-- A view that shows the same under the key and the record of something kept. -/
theorem Shows.of_eq {other : Text → Option Entry} {kept : Kept} (shows : Shows view kept)
    (text : other kept.subject.key = view kept.subject.key)
    (recorded : other (recordName kept.subject.key) = view (recordName kept.subject.key)) :
    Shows other kept :=
  ⟨shows.fits, text ▸ shows.text, recorded ▸ shows.recorded⟩

/-- Keeping a bundle is logged. -/
theorem Agrees.store (agrees : Agrees occurs view log) (distinguished : Distinguished occurs)
    (happens : occurs subject) (fits : Fits subject) (content now : Text) (changed later : Int) :
    Agrees occurs (keptView view subject content now changed later) (⟨subject, content⟩ :: log) := by
  have keyApart {name : Text} (other : name ≠ subject.key) (record : name ≠ recordName subject.key) :
      keptView view subject content now changed later name = view name := by
    rw [keptView, Function.update_of_ne record, Function.update_of_ne other]
  refine ⟨?_, ?_, ?_, ?_, ?_⟩
  · exact (agrees.clean.update (isEntryName_key subject) _).update (isEntryName_recordName subject) _
  · exact (agrees.onlyFiles.update _ _ _).update _ _ _
  · intro kept member
    rcases List.mem_cons.mp member with rfl | older
    · exact happens
    · exact agrees.occurring kept older
  · intro other otherOccurs kept found
    by_cases alike : subject.Alike other
    · rw [List.find?_cons_of_pos (by simpa using alike)] at found
      cases found
      have notRecord := Ne.symm (recordName_ne_key subject.key subject)
      refine ⟨fits, ⟨changed, ?_⟩, ⟨now, later, ?_⟩⟩
      · rw [keptView, Function.update_of_ne notRecord, Function.update_self]
      · rw [keptView, Function.update_self]
    · rw [List.find?_cons_of_neg (by simpa using alike)] at found
      have keptAlike : kept.subject.Alike other := by simpa using List.find?_some found
      have keptOccurs := agrees.occurring kept (List.mem_of_find?_eq_some found)
      have keys : kept.subject.key ≠ subject.key := fun same =>
        alike ((distinguished.alike_of_key keptOccurs happens same).symm.trans keptAlike)
      apply (agrees.present other otherOccurs kept found).of_eq
      · exact keyApart keys (Ne.symm (recordName_ne_key _ _))
      · exact keyApart (recordName_ne_key _ _) fun same => keys (recordName_injective same)
  · intro other otherOccurs none
    by_cases alike : subject.Alike other
    · rw [List.find?_cons_of_pos (by simpa using alike)] at none
      cases none
    · rw [List.find?_cons_of_neg (by simpa using alike)] at none
      have keys : other.key ≠ subject.key := fun same =>
        alike (distinguished.alike_of_key otherOccurs happens same).symm
      rw [keyApart (recordName_ne_key _ _) fun same => keys (recordName_injective same)]
      exact agrees.absent other otherOccurs none

/-- A text that is left under a key that does not fit changes nothing that is logged. -/
theorem Agrees.leftover (agrees : Agrees occurs view log) (tooLong : ¬ Fits subject)
    {value : Option Entry}
    (left : value = view subject.key ∨ ∃ content changed, value = some (.file content changed)) :
    Agrees occurs (Function.update view subject.key value) log := by
  refine ⟨agrees.clean.update (isEntryName_key subject) value, ?_, agrees.occurring, ?_, ?_⟩
  · rcases left with rfl | ⟨content, changed, rfl⟩
    · rw [Function.update_eq_self]
      exact agrees.onlyFiles
    · exact agrees.onlyFiles.update _ _ _
  · intro other otherOccurs kept found
    have shows := agrees.present other otherOccurs kept found
    have keys : kept.subject.key ≠ subject.key := by
      intro same
      apply tooLong
      rw [Fits, ← same]
      exact shows.fits
    exact shows.of_eq (Function.update_of_ne keys _ _)
      (Function.update_of_ne (recordName_ne_key _ _) _ _)
  · intro other otherOccurs none
    rw [Function.update_of_ne (recordName_ne_key _ _)]
    exact agrees.absent other otherOccurs none

/-- What a lookup finds is what the log says, with line endings as reading gives them. -/
theorem Agrees.lookupFor (agrees : Agrees occurs view log) (distinguished : Distinguished occurs)
    (holds : tree.Holds directory place view) (happens : occurs subject) :
    lookupFor directory tree subject = (latest log subject).map Text.unifyNewlines := by
  cases found : log.find? fun kept => decide (kept.subject.Alike subject) with
  | none =>
      have missing := lookupKey_absent holds subject.times
        (isEntryName_recordName subject) (agrees.absent subject happens found)
      rw [latest, found, Cache.lookupFor]
      split
      · next content hit => exact absurd hit (missing content)
      · rfl
  | some kept =>
      have alike : kept.subject.Alike subject := by simpa using List.find?_some found
      have keptOccurs := agrees.occurring kept (List.mem_of_find?_eq_some found)
      have lawful := distinguished.lawful kept.subject keptOccurs
      obtain ⟨fits, ⟨changed, text⟩, ⟨now, later, recorded⟩⟩ :=
        agrees.present subject happens kept found
      have hit := lookupKey_kept holds fits text recorded lawful
        (distinguished.readable kept.subject keptOccurs) alike
      rw [alike.key lawful (distinguished.lawful subject happens)] at hit
      rw [latest, found, Cache.lookupFor, hit]
      rfl

/-! ## Histories keep the log -/

/-- The cache directory shows what the log says. -/
def State.Sound (directory : Path) (place : List Text) (occurs : Subject → Prop) (state : State) :
    Prop :=
  ∃ view, state.tree.Holds directory place view ∧ Agrees occurs view state.log

/-- An event that the cache is made for: what is stored has no carriage returns, and what
changes lies outside the cache directory. -/
def Event.Allowed (tree : Tree) (place : List Text) : Event → Prop
  | .store _ _ content _ => '\r' ∉ content
  | .lookup _ _ => True
  | .change file _ => tree.Outside place (Path.ofText file)

instance (tree : Tree) (place : List Text) : (event : Event) → Decidable (event.Allowed tree place)
  | .store _ _ content _ => inferInstanceAs (Decidable ('\r' ∉ content))
  | .lookup _ _ => inferInstanceAs (Decidable True)
  | .change file _ => inferInstanceAs (Decidable (tree.Outside place (Path.ofText file)))

theorem Event.Allowed.of_current {before after : Tree} {event : Event}
    (allowed : event.Allowed before place) (current : after.current = before.current) :
    event.Allowed after place := by
  cases event with
  | store request files content now => exact allowed
  | lookup request files => trivial
  | change file what =>
      rw [Event.Allowed, Tree.Outside, Tree.absolute, current]
      exact allowed

/-- How a store ends, and what it leaves. -/
theorem State.Sound.store {state : State} (sound : state.Sound directory place occurs)
    (distinguished : Distinguished occurs) (request : Request) (files : List Text)
    (content now : Text) (happens : occurs (.now state.tree request files)) :
    ((∃ path, (Cache.store directory state.tree request files content now).1 = .ok path) ↔
      Fits (.now state.tree request files)) ∧
    (Event.run directory state (.store request files content now)).Sound directory place occurs ∧
    (Event.run directory state (.store request files content now)).tree.current =
      state.tree.current := by
  obtain ⟨view, holds, agrees⟩ := sound
  by_cases fits : Fits (.now state.tree request files)
  · obtain ⟨after, changed, later, stored, revised⟩ :=
      store_ok holds agrees.clean agrees.onlyFiles request files content now fits
    have logged := agrees.store distinguished happens fits content now changed later
    refine ⟨by simp [stored, fits], ?_⟩
    rw [Event.run, stored]
    exact ⟨⟨_, revised.holds, logged⟩, revised.same.current⟩
  · obtain ⟨after, value, refused, left, revised⟩ :=
      store_tooLong holds agrees.clean agrees.onlyFiles request files content now fits
    have leftover := agrees.leftover fits (left.imp_right fun written => ⟨_, _, written⟩)
    refine ⟨by simp [refused, fits], ?_⟩
    rw [Event.run, refused]
    exact ⟨⟨_, revised.holds, leftover⟩, revised.same.current⟩

/-- An allowed event keeps the directory and the log in step, and does not change where
relative paths start. -/
theorem State.Sound.run {state : State} (sound : state.Sound directory place occurs)
    (distinguished : Distinguished occurs) (rooted : state.tree.current.isAbsolute = true)
    {event : Event} (allowed : event.Allowed state.tree place)
    (happens : ∀ subject, event.subject? state.tree = some subject → occurs subject) :
    (event.run directory state).Sound directory place occurs ∧
      (event.run directory state).tree.current = state.tree.current := by
  cases event with
  | store request files content now =>
      exact (sound.store distinguished request files content now (happens _ rfl)).2
  | lookup request files => exact ⟨sound, rfl⟩
  | change file what =>
      obtain ⟨view, holds, agrees⟩ := sound
      obtain ⟨stays, current⟩ := holds.fileChange rooted allowed what
      exact ⟨⟨view, stays, agrees⟩, current⟩

/-- A history of allowed events keeps the directory and the log in step. -/
theorem State.Sound.after (distinguished : Distinguished occurs) {state : State} {events : List Event}
    (sound : state.Sound directory place occurs) (rooted : state.tree.current.isAbsolute = true)
    (allowed : ∀ event ∈ events, event.Allowed state.tree place)
    (happen : ∀ subject ∈ state.subjects directory events, occurs subject) :
    (state.after directory events).Sound directory place occurs := by
  induction events generalizing state with
  | nil => exact sound
  | cons event rest inductionHypothesis =>
      rw [State.subjects, List.forall_mem_append] at happen
      obtain ⟨next, current⟩ := sound.run distinguished rooted (allowed event List.mem_cons_self)
        fun subject named => happen.1 subject (by simp [named])
      refine inductionHypothesis next (current ▸ rooted) (fun later member => ?_) happen.2
      exact (allowed later (List.mem_cons_of_mem event member)).of_current current

/-! ## The cache as a map -/

/-- In step with the log, a lookup finds what the log says. -/
theorem State.Sound.lookupFor {state : State} (sound : state.Sound directory place occurs)
    (distinguished : Distinguished occurs) (happens : occurs subject) :
    Cache.lookupFor directory state.tree subject =
      (latest state.log subject).map Text.unifyNewlines := by
  obtain ⟨view, holds, agrees⟩ := sound
  exact agrees.lookupFor distinguished holds happens

/-- Nothing that is logged has carriage returns, if nothing that is stored has. -/
theorem State.noReturn_after (directory : Path) {start : Tree} {state : State}
    {events : List Event} (plain : ∀ kept ∈ state.log, '\r' ∉ kept.content)
    (allowed : ∀ event ∈ events, event.Allowed start place) :
    ∀ kept ∈ (state.after directory events).log, '\r' ∉ kept.content := by
  induction events generalizing state with
  | nil => exact plain
  | cons event rest inductionHypothesis =>
      refine inductionHypothesis ?_ fun later member => allowed later (List.mem_cons_of_mem event member)
      have here := allowed event List.mem_cons_self
      cases event with
      | store request files content now =>
          rw [Event.run]
          split
          · intro kept member
            rcases List.mem_cons.mp member with rfl | older
            · exact here
            · exact plain kept older
          · exact plain
      | lookup request files => exact plain
      | change file what => exact plain

/-- Without carriage returns reading changes nothing. -/
theorem latest_unified (plain : ∀ kept ∈ log, '\r' ∉ kept.content) (subject : Subject) :
    (latest log subject).map Text.unifyNewlines = latest log subject := by
  rw [latest]
  cases found : log.find? fun kept => decide (kept.subject.Alike subject) with
  | none => rfl
  | some kept =>
      have noReturn := plain kept (List.mem_of_find?_eq_some found)
      exact congrArg some (Text.unifyNewlines_eq_self noReturn)

theorem latest_of_alike {left right : Subject} (alike : left.Alike right) (log : List Kept) :
    latest log left = latest log right := by
  have same : (fun kept : Kept => decide (kept.subject.Alike left)) =
      fun kept => decide (kept.subject.Alike right) := by
    funext kept
    exact decide_eq_decide.mpr ⟨fun early => early.trans alike, fun early => early.trans alike.symm⟩
  rw [latest, latest, same]

theorem latest_cons_of_not_alike {kept : Kept} (apart : ¬ kept.subject.Alike subject) :
    latest (kept :: log) subject = latest log subject := by
  rw [latest, latest, List.find?_cons_of_neg (by simpa using apart)]

/-- What a store leaves, and what it logs for other subjects. -/
theorem run_store (directory : Path) (state : State) (request : Request) (files : List Text)
    (content now : Text) :
    (Event.run directory state (.store request files content now)).tree =
        (Cache.store directory state.tree request files content now).2 ∧
      ∀ other, ¬ (Subject.now state.tree request files).Alike other →
        latest (Event.run directory state (.store request files content now)).log other =
          latest state.log other := by
  rw [Event.run]
  split
  · next path after stored => exact ⟨by rw [stored], fun other apart => latest_cons_of_not_alike apart⟩
  · next why after refused => exact ⟨by rw [refused], fun other _ => rfl⟩

/-- A store changes for no other subject what is found. -/
theorem State.Sound.store_other {state : State} (sound : state.Sound directory place occurs)
    (distinguished : Distinguished occurs) {request : Request} {files : List Text}
    (content now : Text) (happens : occurs (.now state.tree request files)) {other : Subject}
    (otherOccurs : occurs other) (apart : ¬ (Subject.now state.tree request files).Alike other) :
    Cache.lookupFor directory (Cache.store directory state.tree request files content now).2 other =
      Cache.lookupFor directory state.tree other := by
  obtain ⟨left, unchanged⟩ := run_store directory state request files content now
  obtain ⟨_, next, _⟩ := sound.store distinguished request files content now happens
  rw [← left, next.lookupFor distinguished otherOccurs, unchanged other apart,
    sound.lookupFor distinguished otherOccurs]

/-- Over every history that starts with an empty cache directory, the cache is a map from
subjects to contents.  A lookup finds the content of the latest store for an alike
subject.  A store succeeds exactly if its names fit, and changes for no other subject
what is found.  Alike subjects find the same. -/
theorem lookup_eq_latest_store (directory : Path) (place : List Text) (start : Tree)
    {occurs : Subject → Prop} (distinguished : Distinguished occurs)
    (rooted : start.current.isAbsolute = true)
    (empty : start.Holds directory place fun _ => none) (events : List Event)
    (allowed : ∀ event ∈ events, event.Allowed start place)
    (happen : ∀ subject ∈ State.subjects directory { tree := start } events, occurs subject) :
    let state := State.after directory { tree := start } events
    (∀ request files, occurs (.now state.tree request files) →
      lookup directory state.tree request files =
        latest state.log (.now state.tree request files)) ∧
    (∀ request files content now, occurs (.now state.tree request files) →
      ((∃ path, (store directory state.tree request files content now).1 = .ok path) ↔
        Fits (.now state.tree request files)) ∧
      ∀ other, occurs other → ¬ (Subject.now state.tree request files).Alike other →
        lookupFor directory (store directory state.tree request files content now).2 other =
          lookupFor directory state.tree other) ∧
    ∀ left right, occurs left → occurs right → left.Alike right →
      lookupFor directory state.tree left = lookupFor directory state.tree right := by
  have sound : (State.after directory { tree := start } events).Sound directory place occurs :=
    State.Sound.after distinguished ⟨_, empty, agrees_empty occurs⟩ rooted allowed happen
  have plain : ∀ kept ∈ (State.after directory { tree := start } events).log,
      '\r' ∉ kept.content :=
    State.noReturn_after directory (fun _ member => absurd member List.not_mem_nil) allowed
  intro state
  refine ⟨?_, ?_, ?_⟩
  · intro request files happens
    rw [lookup_eq_lookupFor, sound.lookupFor distinguished happens, latest_unified plain]
  · intro request files content now happens
    exact ⟨(sound.store distinguished request files content now happens).1,
      fun other => sound.store_other distinguished content now happens⟩
  · intro left right leftOccurs rightOccurs alike
    rw [sound.lookupFor distinguished leftOccurs, sound.lookupFor distinguished rightOccurs,
      latest_of_alike alike]

/-! ## A short history -/

/-- A project with one file and an empty directory for the cache. -/
def sampleTree : Tree where
  root := .directory
    [("cache".toList, .directory []), ("src".toList, .directory [("a.py".toList, .file [] 5)])]

/-- The file of that project. -/
def sampleFile : Text := "/src/a.py".toList

/-- That file when it has some time of change. -/
def sampleSubject (time : Int) : Subject where
  request := { directory := "/src".toList }
  files := [sampleFile]
  times := [(sampleFile, time)]

/-- The canonical text with the digits of that time. -/
def sampleText (digits : String) : Text :=
  "\x7b\x22files\x22:[\x22/src/a.py\x22],\x22mtimes\x22:\x7b\x22/src/a.py\x22:".toList ++ digits.toList ++
    "\x7d,\x22request\x22:\x7b\x22globs\x22:[],\x22reference_depth\x22:-1,".toList ++
    "\x22regex\x22:[],\x22target_directory\x22:\x22/src\x22\x7d\x7d".toList

theorem canonicalText_sampleSubject :
    (sampleSubject 5).canonicalText = sampleText "5" ∧
      (sampleSubject 7).canonicalText = sampleText "7" := by
  simp only [Subject.canonicalText, canonicalText, sortKeys_payload]
  decide +kernel

/-- The file as it is at first and after a change is told apart. -/
theorem sampleSubjects_distinguished :
    Distinguished fun subject => subject = sampleSubject 5 ∨ subject = sampleSubject 7 where
  lawful := by
    rintro subject (rfl | rfl) <;> rfl
  readable := by
    rintro subject (rfl | rfl) <;> decide
  collisionless := by
    obtain ⟨early, late⟩ := canonicalText_sampleSubject
    have apart : fingerprintOf (sampleText "5") ≠ fingerprintOf (sampleText "7") := by
      decide +kernel
    rintro left right (rfl | rfl) (rfl | rfl) same
    · rfl
    · rw [early, late] at same
      exact absurd same apart
    · rw [early, late] at same
      exact absurd same.symm apart
    · rfl

/-- The file is changed, and a bundle is stored for it. -/
def sampleHistory : List Event :=
  [.change sampleFile (.touch 7), .store { directory := "/src".toList } [sampleFile] "first".toList []]

/-- The cache directory of that project. -/
def sampleCache : Path := { names := ["cache".toList] }

private theorem sampleHistory_allowed :
    ∀ event ∈ sampleHistory, event.Allowed sampleTree ["cache".toList] := by
  decide +kernel

theorem sampleTree_holds : sampleTree.Holds sampleCache ["cache".toList] fun _ => none where
  rooted := rfl
  located := by decide +kernel
  found := ⟨[], rfl, rfl⟩

theorem fits_sampleSubject (time : Int) : Fits (sampleSubject time) :=
  fits_iff.mpr (by decide : (label "/src".toList).length ≤ 225)

/-- The project after the change. -/
private def sampleChanged : Tree :=
  FileChange.run sampleTree (Path.ofText sampleFile) (.touch 7)

private theorem sampleChanged_holds :
    sampleChanged.Holds sampleCache ["cache".toList] fun _ => none := by
  have outside : sampleTree.Outside ["cache".toList] (Path.ofText sampleFile) := by decide +kernel
  exact (sampleTree_holds.fileChange rfl outside (.touch 7)).1

private theorem sampleChanged_lists :
    sampleChanged.Lists sampleFile ["src".toList, "a.py".toList] [] 7 where
  text := by decide
  nonempty := List.cons_ne_nil _ _
  named := by decide
  there := rfl

private theorem sampleChanged_now :
    Subject.now sampleChanged { directory := "/src".toList } [sampleFile] = sampleSubject 7 := by
  decide +kernel

/-- Keeping the bundle does not change the time of the file, and the bundle is logged. -/
private theorem sampleHistory_after :
    let state := State.after sampleCache { tree := sampleTree } sampleHistory
    Subject.now state.tree { directory := "/src".toList } [sampleFile] = sampleSubject 7 ∧
      state.log = [⟨sampleSubject 7, "first".toList⟩] := by
  have onlyFiles : OnlyFiles fun _ => none := fun _ _ _ => by simp
  have fits : Fits (.now sampleChanged { directory := "/src".toList } [sampleFile]) := by
    rw [sampleChanged_now]
    exact fits_sampleSubject 7
  obtain ⟨after, changed, later, stored, revised⟩ := store_ok sampleChanged_holds (fun _ => rfl)
    onlyFiles { directory := "/src".toList } [sampleFile] "first".toList [] fits
  have last : State.after sampleCache { tree := sampleTree } sampleHistory =
      { tree := after, log := [⟨sampleSubject 7, "first".toList⟩] } := by
    have run : State.after sampleCache { tree := sampleTree } sampleHistory =
        Event.run sampleCache { tree := sampleChanged }
          (.store { directory := "/src".toList } [sampleFile] "first".toList []) := rfl
    rw [run, Event.run, stored, sampleChanged_now]
  have lists := sampleChanged_lists.of_at?_eq (revised.same.beside _ (by decide) (by decide))
  rw [last]
  refine ⟨?_, rfl⟩
  rw [← sampleChanged_now, Subject.now, Subject.now, timesOf_eq]
  intro file member
  rw [List.mem_singleton.mp member, timeOf_of_lists lists, timeOf_of_lists sampleChanged_lists]

/-- What was stored for the file as it is after the change is found. -/
theorem sampleHistory_lookup_eq :
    lookup sampleCache (State.after sampleCache { tree := sampleTree } sampleHistory).tree
      { directory := "/src".toList } [sampleFile] = some "first".toList := by
  have happen : ∀ subject ∈ State.subjects sampleCache { tree := sampleTree } sampleHistory,
      subject = sampleSubject 5 ∨ subject = sampleSubject 7 := by
    have subjects : State.subjects sampleCache { tree := sampleTree } sampleHistory =
        [sampleSubject 7] := by decide +kernel
    rw [subjects]
    simp
  obtain ⟨now, log⟩ := sampleHistory_after
  have found := (lookup_eq_latest_store sampleCache ["cache".toList] sampleTree
    sampleSubjects_distinguished rfl sampleTree_holds sampleHistory sampleHistory_allowed happen).1
    { directory := "/src".toList } [sampleFile] (Or.inr now)
  rw [found, now, log]
  decide

end Cache
end Codemap
