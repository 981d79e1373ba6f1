import Codemap.Proofs.Cache.Traffic

namespace Codemap
namespace Cache

/-!
# No torn bundles

However the steps of many calls interleave, and wherever calls stop, a search finds
nothing or a whole content that one call was given for the same key.

What carries the proof is that the three kinds of names in the cache directory never
coincide: names aside, keys and names of records.  Under a key there is only ever a file
that was written aside in full and then moved, and nobody but its call touches a file
aside, for its name was new when it was written.
-/

variable {directory : Path} {place : List Text} {current : Path} {traffic : Traffic}
  {view : Text → Option Entry}

/-! ## What holds between two actions -/

/-- A call was given a content to keep under a key. -/
def Traffic.Gave (traffic : Traffic) (key content : Text) : Prop :=
  ∃ number call, traffic.storing number = some call ∧ call.subject.key = key ∧
    call.content = content

/-- A text stands under a name aside. -/
structure Drafted (view : Text → Option Entry) (name text : Text) : Prop where
  marked : ∃ rest, name = asideMark ++ rest
  short : (Utf8.encode name).length ≤ longestName
  shown : ∃ changed, view name = some (.file (Utf8.encode text) changed)

/-- A call is to write its content under its key, or a record. -/
def Storing.Owns (call : Storing) (file : Text × Text) : Prop :=
  file = (call.subject.key, call.content) ∨ file.1 = recordName call.subject.key

/-- What holds whenever no action is going on. -/
structure Traffic.Sound (directory : Path) (place : List Text) (current : Path)
    (view : Text → Option Entry) (traffic : Traffic) : Prop where
  holds : traffic.tree.Holds directory place view
  current : traffic.tree.current = current
  onlyFiles : OnlyFiles view
  /-- Under a key stands a content that a call was given for it. -/
  whole : ∀ (subject : Subject) entry, view subject.key = some entry → ∃ content changed,
    traffic.Gave subject.key content ∧ entry = .file (Utf8.encode content) changed
  owned : ∀ number call, traffic.storing number = some call → ∀ file ∈ call.pending, call.Owns file
  /-- What a call has written aside is the next of its files. -/
  drafted : ∀ number call name, traffic.storing number = some call → call.aside = some name →
    ∃ file rest, call.pending = file :: rest ∧ Drafted view name file.2
  /-- No two calls have written aside under one name. -/
  apart : ∀ first second call other name, traffic.storing first = some call →
    traffic.storing second = some other → call.aside = some name → other.aside = some name →
    first = second
  served : ∀ number search content, traffic.searching number = some search →
    search.stage = .over (some content) →
    ∃ given, traffic.Gave search.subject.key given ∧ content = given.unifyNewlines

namespace Drafted

theorem ne_entry {name text other : Text} (drafted : Drafted view name text)
    (entry : isEntryName other = true) : name ≠ other := by
  obtain ⟨rest, rfl⟩ := drafted.marked
  exact ne_of_isEntryName entry rest

theorem ordinary {name text : Text} (drafted : Drafted view name text) : name ≠ upward := by
  obtain ⟨rest, rfl⟩ := drafted.marked
  simp [asideMark, upward]

/-- A file aside stays when something happens under another name. -/
theorem update {name text other : Text} (drafted : Drafted view name text) (apart : name ≠ other)
    (value : Option Entry) : Drafted (Function.update view other value) name text := by
  refine ⟨drafted.marked, drafted.short, ?_⟩
  rw [Function.update_of_ne apart]
  exact drafted.shown

theorem ne_of_absent {name text other : Text} (drafted : Drafted view name text)
    (absent : view other = none) : name ≠ other := by
  rintro rfl
  obtain ⟨changed, shown⟩ := drafted.shown
  rw [absent] at shown
  cases shown

end Drafted

/-- A file can be written under a new name aside. -/
theorem writable_aside {name : Text} (marked : ∃ rest, name = asideMark ++ rest)
    (short : (Utf8.encode name).length ≤ longestName) (absent : view name = none) :
    Tree.Writable view name := by
  refine ⟨?_, short, fun below => by simp [absent]⟩
  obtain ⟨rest, rfl⟩ := marked
  simp [asideMark, upward]

namespace Storing.Owns

variable {call : Storing} {file : Text × Text}

theorem isEntryName (owns : call.Owns file) : isEntryName file.1 = true := by
  rcases owns with rfl | record
  · exact isEntryName_key call.subject
  · rw [record]
    exact isEntryName_recordName call.subject

/-- The only file that a call writes under any key is its content under its own. -/
theorem eq_of_key (owns : call.Owns file) {subject : Subject} (named : file.1 = subject.key) :
    subject.key = call.subject.key ∧ file.2 = call.content := by
  rcases owns with rfl | record
  · exact ⟨named.symm, rfl⟩
  · exact absurd (record.symm.trans named) (recordName_ne_key call.subject.key subject)

end Storing.Owns

namespace OnlyFiles

theorem erase (onlyFiles : OnlyFiles view) (name : Text) :
    OnlyFiles (Function.update view name none) := by
  intro other entry below
  by_cases same : other = name
  · subst same
    simp
  · rw [Function.update_of_ne same]
    exact onlyFiles other entry below

end OnlyFiles

/-! ## A step of one call -/

section Steps

variable {number : Nat} {call next : Storing} {after : Tree} {other : Text → Option Entry}

/-- A call stays the one that was given its content, however far it comes. -/
theorem Traffic.Gave.put {key content : Text} (gave : traffic.Gave key content)
    (there : ∀ old, traffic.storing number = some old →
      next.subject = old.subject ∧ next.content = old.content) (after : Tree) :
    (traffic.put number after next).Gave key content := by
  obtain ⟨giver, old, began, named, given⟩ := gave
  by_cases same : giver = number
  · subst same
    obtain ⟨subject, whole⟩ := there old began
    exact ⟨giver, next, by simp [Traffic.put], by rw [subject, named], by rw [whole, given]⟩
  · exact ⟨giver, old, by simp [Traffic.put, same, began], named, given⟩

/-- What the step of a call has to keep up, so that everything holds after it. -/
structure Storing.Steps (view other : Text → Option Entry) (traffic : Traffic) (number : Nat)
    (next : Storing) : Prop where
  same : ∀ old, traffic.storing number = some old →
    next.subject = old.subject ∧ next.content = old.content
  onlyFiles : OnlyFiles other
  owned : ∀ file ∈ next.pending, next.Owns file
  whole : ∀ (subject : Subject) entry, other subject.key = some entry →
    view subject.key = some entry ∨ subject.key = next.subject.key ∧
      ∃ changed, entry = .file (Utf8.encode next.content) changed
  /-- What others have written aside stays. -/
  stays : ∀ name text, (∀ old, traffic.storing number = some old → old.aside ≠ some name) →
    Drafted view name text → Drafted other name text
  drafted : ∀ name, next.aside = some name →
    ∃ file rest, next.pending = file :: rest ∧ Drafted other name file.2
  /-- What the call has written aside is its own. -/
  own : ∀ name, next.aside = some name → view name = none

/-- A step of one call keeps what holds of all. -/
theorem Traffic.Sound.put (sound : traffic.Sound directory place current view)
    (steps : Storing.Steps view other traffic number next)
    (revised : traffic.tree.Revised after directory place other) :
    (traffic.put number after next).Sound directory place current other where
  holds := revised.holds
  current := revised.same.current.trans sound.current
  onlyFiles := steps.onlyFiles
  whole := by
    intro subject entry shown
    rcases steps.whole subject entry shown with before | ⟨key, changed, written⟩
    · obtain ⟨content, changed, gave, file⟩ := sound.whole subject entry before
      exact ⟨content, changed, gave.put steps.same after, file⟩
    · exact ⟨next.content, changed, ⟨number, next, by simp [Traffic.put], key.symm, rfl⟩, written⟩
  owned := by
    intro index call began
    by_cases same : index = number
    · subst same
      obtain rfl : next = call := by simpa [Traffic.put] using began
      exact steps.owned
    · exact sound.owned index call (by simpa [Traffic.put, same] using began)
  drafted := by
    intro index call name began aside
    by_cases same : index = number
    · subst same
      obtain rfl : next = call := by simpa [Traffic.put] using began
      exact steps.drafted name aside
    · have before : traffic.storing index = some call := by simpa [Traffic.put, same] using began
      obtain ⟨file, rest, pending, drafted⟩ := sound.drafted index call name before aside
      refine ⟨file, rest, pending, steps.stays name file.2 ?_ drafted⟩
      exact fun old there its => same (sound.apart index number call old name before there aside its)
  apart := by
    have fresh : ∀ index call name, index ≠ number → traffic.storing index = some call →
        call.aside = some name → next.aside ≠ some name := by
      intro index call name _ began aside its
      obtain ⟨file, rest, _, drafted⟩ := sound.drafted index call name began aside
      obtain ⟨changed, shown⟩ := drafted.shown
      exact absurd (shown.symm.trans (steps.own name its)) (by simp)
    intro first second call call' name firstBegan secondBegan firstAside secondAside
    by_cases here : first = number
    · by_cases there : second = number
      · exact here.trans there.symm
      · subst here
        obtain rfl : next = call := by simpa [Traffic.put] using firstBegan
        have before : traffic.storing second = some call' := by
          simpa [Traffic.put, there] using secondBegan
        exact absurd firstAside (fresh second call' name there before secondAside)
    · have before : traffic.storing first = some call := by
        simpa [Traffic.put, here] using firstBegan
      by_cases there : second = number
      · subst there
        obtain rfl : next = call' := by simpa [Traffic.put] using secondBegan
        exact absurd secondAside (fresh first call name here before firstAside)
      · exact sound.apart first second call call' name before
          (by simpa [Traffic.put, there] using secondBegan) firstAside secondAside
  served := by
    intro index search content began ended
    obtain ⟨given, gave, same⟩ := sound.served index search content began ended
    exact ⟨given, gave.put steps.same after, same⟩

/-- A call stops, and at most its file aside is not as it was. -/
theorem Traffic.Sound.stopped (sound : traffic.Sound directory place current view)
    {subject : Subject} {content : Text} {pending : List (Text × Text)} {aside : Option Text}
    (there : traffic.storing number = some ⟨subject, content, pending, aside⟩)
    (onlyFiles : OnlyFiles other) (keys : ∀ subject : Subject, other subject.key = view subject.key)
    (stays : ∀ name text, aside ≠ some name → Drafted view name text → Drafted other name text)
    (revised : traffic.tree.Revised after directory place other) :
    (traffic.put number after ⟨subject, content, [], none⟩).Sound directory place current other := by
  refine sound.put ?_ revised
  refine ⟨?_, onlyFiles, by simp, ?_, ?_, by simp, by simp⟩
  · intro old began
    obtain rfl := Option.some.inj (there.symm.trans began)
    exact ⟨rfl, rfl⟩
  · intro subject entry shown
    exact Or.inl (keys subject ▸ shown)
  · intro name text others drafted
    exact stays name text (others _ there) drafted

theorem Traffic.Sound.stoppedHere (sound : traffic.Sound directory place current view)
    {subject : Subject} {content : Text} {pending : List (Text × Text)} {aside : Option Text}
    (there : traffic.storing number = some ⟨subject, content, pending, aside⟩) :
    (traffic.put number traffic.tree ⟨subject, content, [], none⟩).Sound directory place current
      view :=
  sound.stopped there sound.onlyFiles (fun _ => rfl) (fun _ _ _ drafted => drafted)
    sound.holds.revised

/-- A name that is not among those in the directory shows nothing. -/
theorem view_eq_none (holds : traffic.tree.Holds directory place view) {name : Text}
    (free : name ∉ namesIn traffic.tree directory) : view name = none := by
  obtain ⟨children, found, rfl⟩ := holds.found
  apply Entry.look?_eq_none_iff.mpr
  simpa [namesIn, Tree.entry, holds.located, found, Entry.children] using free

/-- A new name aside shows nothing, and can be written under unless it is too long. -/
theorem writeBytes_aside (holds : traffic.tree.Holds directory place view) {name : Text}
    (marked : ∃ rest, name = asideMark ++ rest) (free : name ∉ namesIn traffic.tree directory)
    (content : Bytes) :
    view name = none ∧
      (((Utf8.encode name).length ≤ longestName ∧
          ∃ after, traffic.tree.writeBytes (directory.child name) content = .ok after ∧
            traffic.tree.Revised after directory place
              (Function.update view name (some (.file content traffic.tree.clock)))) ∨
        traffic.tree.writeBytes (directory.child name) content = .error .nameTooLong) := by
  have absent := view_eq_none holds free
  refine ⟨absent, ?_⟩
  by_cases short : (Utf8.encode name).length ≤ longestName
  · exact Or.inl ⟨short, holds.writeBytes_child (writable_aside marked short absent) content⟩
  · exact Or.inr (holds.writeBytes_child_tooLong (Nat.lt_of_not_le short) content)

/-- Removing what a call has written aside. -/
theorem Traffic.Sound.removed (sound : traffic.Sound directory place current view)
    {subject : Subject} {content name : Text} {pending : List (Text × Text)}
    (there : traffic.storing number = some ⟨subject, content, pending, some name⟩) :
    (traffic.put number (removeAside directory traffic.tree name) ⟨subject, content, [], none⟩).Sound
      directory place current (Function.update view name none) := by
  obtain ⟨file, rest, -, drafted⟩ := sound.drafted number _ name there rfl
  obtain ⟨changed, shown⟩ := drafted.shown
  obtain ⟨after, removed, revised⟩ :=
    sound.holds.remove_child shown drafted.ordinary drafted.short
  rw [removeAside, removed]
  refine sound.stopped there (sound.onlyFiles.erase name) ?_ ?_ revised
  · intro subject
    rw [Function.update_of_ne (Ne.symm (drafted.ne_entry (isEntryName_key subject)))]
  · intro other text others written
    exact written.update (fun same => others (same ▸ rfl)) none

end Steps

/-! ## The actions -/

theorem Traffic.Sound.beginStoring (sound : traffic.Sound directory place current view)
    (number : Nat) (subject : Subject) (content now : Text) :
    (traffic.beginStoring directory number subject content now).Sound directory place current
      view := by
  rw [Traffic.beginStoring]
  cases free : traffic.storing number with
  | some call => exact sound
  | none =>
      rw [sound.holds.prepareDirectory]
      refine sound.put ⟨?_, sound.onlyFiles, ?_, ?_, ?_, ?_, ?_⟩ sound.holds.revised
      · intro old began
        rw [free] at began
        cases began
      · intro file member
        simp only [Storing.start, List.mem_cons, List.not_mem_nil, or_false] at member
        rcases member with rfl | rfl
        · exact Or.inl rfl
        · exact Or.inr rfl
      · exact fun _ _ => Or.inl
      · exact fun _ _ _ drafted => drafted
      · exact fun _ aside => by cases aside
      · exact fun _ aside => by cases aside

theorem Traffic.Sound.draft (sound : traffic.Sound directory place current view) (number : Nat)
    (middle : Text) :
    ∃ other, (traffic.draft directory number middle).Sound directory place current other := by
  rw [Traffic.draft]
  split
  · next subject content target text rest there =>
      dsimp only
      generalize made : asideMark ++ middle ++ Path.suffixOf target = name
      have marked : ∃ rest, name = asideMark ++ rest :=
        ⟨middle ++ Path.suffixOf target, by rw [← made, List.append_assoc]⟩
      split
      · exact ⟨view, sound⟩
      · next free =>
          obtain ⟨absent, ⟨short, after, written, revised⟩ | refused⟩ :=
            writeBytes_aside sound.holds marked free (Utf8.encode text)
          · rw [Step.run, Tree.writeText, written]
            have drafted : Drafted (Function.update view name
                (some (.file (Utf8.encode text) traffic.tree.clock))) name text :=
              ⟨marked, short, _, Function.update_self ..⟩
            refine ⟨_, sound.put ⟨?_, sound.onlyFiles.update _ _ _, ?_, ?_, ?_, ?_, ?_⟩ revised⟩
            · intro old began
              obtain rfl := Option.some.inj (there.symm.trans began)
              exact ⟨rfl, rfl⟩
            · exact fun file member => sound.owned number _ there file member
            · intro subject entry shown
              rw [Function.update_of_ne (Ne.symm (drafted.ne_entry (isEntryName_key subject)))]
                at shown
              exact Or.inl shown
            · exact fun other text _ others => others.update (others.ne_of_absent absent) _
            · rintro _ ⟨⟩
              exact ⟨_, _, rfl, drafted⟩
            · rintro _ ⟨⟩
              exact absent
          · rw [Step.run, Tree.writeText, refused]
            exact ⟨view, sound.stoppedHere there⟩
  · exact ⟨view, sound⟩

theorem Traffic.Sound.tear (sound : traffic.Sound directory place current view) (number : Nat)
    (middle : Text) (written : Bytes) :
    ∃ other, (traffic.tear directory number middle written).Sound directory place current other := by
  rw [Traffic.tear]
  split
  · next subject content target text rest there =>
      dsimp only
      generalize made : asideMark ++ middle ++ Path.suffixOf target = name
      have marked : ∃ rest, name = asideMark ++ rest :=
        ⟨middle ++ Path.suffixOf target, by rw [← made, List.append_assoc]⟩
      split
      · exact ⟨view, sound⟩
      · next free =>
          obtain ⟨absent, ⟨-, after, left, revised⟩ | refused⟩ :=
            writeBytes_aside sound.holds marked free written
          · rw [left]
            refine ⟨_, sound.stopped there (sound.onlyFiles.update _ _ _) ?_ ?_ revised⟩
            · intro subject
              obtain ⟨rest, rfl⟩ := marked
              rw [Function.update_of_ne (Ne.symm (ne_of_isEntryName (isEntryName_key subject) rest))]
            · exact fun other text _ others => others.update (others.ne_of_absent absent) _
          · rw [refused]
            exact ⟨view, sound.stoppedHere there⟩
  · exact ⟨view, sound⟩

theorem Traffic.Sound.publish (sound : traffic.Sound directory place current view) (number : Nat) :
    ∃ other, (traffic.publish directory number).Sound directory place current other := by
  rw [Traffic.publish]
  split
  · next subject content target text rest aside there =>
      obtain ⟨_, _, ⟨⟩, drafted⟩ := sound.drafted number _ aside there rfl
      obtain ⟨changed, shown⟩ := drafted.shown
      have owns := sound.owned number _ there (target, text) List.mem_cons_self
      by_cases short : (Utf8.encode target).length ≤ longestName
      · have writable : Tree.Writable view target :=
          ⟨ordinary_of_isEntryName owns.isEntryName, short, sound.onlyFiles target owns.isEntryName⟩
        obtain ⟨after, moved, revised⟩ := sound.holds.moveFile_child shown drafted.ordinary
          drafted.short writable (drafted.ne_entry owns.isEntryName)
        rw [Step.run, moved]
        refine ⟨_, sound.put ⟨?_, (sound.onlyFiles.update _ _ _).erase aside, ?_, ?_, ?_, by simp,
          by simp⟩ revised⟩
        · intro old began
          obtain rfl := Option.some.inj (there.symm.trans began)
          exact ⟨rfl, rfl⟩
        · exact fun file member => sound.owned number _ there file (List.mem_cons_of_mem _ member)
        · intro other entry there
          rw [Function.update_of_ne (Ne.symm (drafted.ne_entry (isEntryName_key other)))] at there
          by_cases same : other.key = target
          · obtain ⟨key, whole⟩ := owns.eq_of_key same.symm
            rw [same, Function.update_self, Option.some.injEq] at there
            exact Or.inr ⟨key, changed, by rw [← there, whole]⟩
          · rw [Function.update_of_ne same] at there
            exact Or.inl there
        · intro other text others written
          refine (written.update (written.ne_entry owns.isEntryName) _).update ?_ none
          exact fun same => others _ there (same ▸ rfl)
      · have refused := sound.holds.moveFile_child_tooLong shown drafted.ordinary drafted.short
          (Nat.lt_of_not_le short)
        rw [Step.run, refused]
        exact ⟨_, sound.removed there⟩
  · exact ⟨view, sound⟩

theorem Traffic.Sound.abandon (sound : traffic.Sound directory place current view) (number : Nat) :
    ∃ other, (traffic.abandon directory number).Sound directory place current other := by
  rw [Traffic.abandon]
  split
  · next there => exact ⟨_, sound.removed there⟩
  · exact ⟨view, sound⟩

theorem Traffic.Sound.stop (sound : traffic.Sound directory place current view) (number : Nat) :
    (traffic.stop number).Sound directory place current view := by
  rw [Traffic.stop]
  split
  · next call there => exact sound.stoppedHere there
  · exact sound

/-- What is read under a key was given for it. -/
theorem Traffic.Sound.readText (sound : traffic.Sound directory place current view)
    {subject : Subject} {content : Text}
    (found : traffic.tree.readText (directory.child subject.key) = .ok content) :
    ∃ given, traffic.Gave subject.key given ∧ content = given.unifyNewlines := by
  have ordinary := ordinary_of_isEntryName (isEntryName_key subject)
  cases shown : view subject.key with
  | none =>
      obtain ⟨why, refused⟩ := sound.holds.readText_child_missing shown ordinary
      rw [refused] at found
      cases found
  | some entry =>
      obtain ⟨given, changed, gave, rfl⟩ := sound.whole subject entry shown
      by_cases short : (Utf8.encode subject.key).length ≤ longestName
      · rw [sound.holds.readText_child shown ordinary short] at found
        exact ⟨given, gave, (Except.ok.inj found).symm⟩
      · rw [Tree.readText, Tree.readBytes, sound.holds.entry_child ordinary,
          if_pos (Nat.lt_of_not_le short)] at found
        cases found

/-- A step of a search keeps what holds, if what it ends with was given. -/
theorem Traffic.Sound.putStage (sound : traffic.Sound directory place current view) (number : Nat)
    (subject : Subject) (stage : Stage)
    (served : ∀ content, stage = .over (some content) →
      ∃ given, traffic.Gave subject.key given ∧ content = given.unifyNewlines) :
    (traffic.putStage number subject stage).Sound directory place current view where
  holds := sound.holds
  current := sound.current
  onlyFiles := sound.onlyFiles
  whole := sound.whole
  owned := sound.owned
  drafted := sound.drafted
  apart := sound.apart
  served := by
    intro index search content began ended
    by_cases same : index = number
    · subst same
      obtain rfl : ⟨subject, stage⟩ = search := by simpa [Traffic.putStage] using began
      exact served content ended
    · exact sound.served index search content (by simpa [Traffic.putStage, same] using began) ended

theorem Traffic.Sound.read (sound : traffic.Sound directory place current view) (number : Nat) :
    (traffic.read directory number).Sound directory place current view := by
  rw [Traffic.read]
  split
  · next subject _ =>
      refine sound.putStage number subject _ fun content ended => ?_
      split at ended <;> cases ended
  · next subject _ =>
      refine sound.putStage number subject _ fun content ended => ?_
      cases found : traffic.tree.readText (directory.child subject.key) with
      | error why => rw [found] at ended; cases ended
      | ok text =>
          rw [found] at ended
          cases ended
          exact sound.readText found
  · exact sound

/-- What changes beside the calls lies outside the cache directory. -/
def Action.Allowed (current : Path) (place : List Text) : Action → Prop
  | .change file _ => ¬ place <+: (current.join (Path.ofText file)).parent.normalize.names
  | _ => True

instance (current : Path) (place : List Text) : DecidablePred (Action.Allowed current place)
  | .change file _ =>
      inferInstanceAs (Decidable (¬ place <+: (current.join (Path.ofText file)).parent.normalize.names))
  | .beginStoring .. | .draft .. | .publish _ | .abandon _ | .tear .. | .stop _
  | .beginSearching .. | .read _ => inferInstanceAs (Decidable True)

/-- Every action keeps what holds. -/
theorem Traffic.Sound.act (sound : traffic.Sound directory place current view)
    (rooted : current.isAbsolute = true) {action : Action}
    (allowed : action.Allowed current place) :
    ∃ other, (traffic.act directory action).Sound directory place current other := by
  cases action with
  | beginStoring number subject content now =>
      exact ⟨view, sound.beginStoring number subject content now⟩
  | draft number middle => exact sound.draft number middle
  | publish number => exact sound.publish number
  | abandon number => exact sound.abandon number
  | tear number middle written => exact sound.tear number middle written
  | stop number => exact ⟨view, sound.stop number⟩
  | beginSearching number subject =>
      rw [Traffic.act, Traffic.beginSearching]
      split
      · exact ⟨view, sound⟩
      · exact ⟨view, sound.putStage number subject .record fun _ ended => by cases ended⟩
  | read number => exact ⟨view, sound.read number⟩
  | change file what =>
      have outside : traffic.tree.Outside place (Path.ofText file) := by
        rw [Tree.Outside, Tree.absolute, sound.current]
        exact allowed
      obtain ⟨holds, same⟩ := sound.holds.fileChange (sound.current ▸ rooted) outside what
      exact ⟨view, { sound with holds, current := same.trans sound.current }⟩

/-- Every run keeps what holds. -/
theorem Traffic.Sound.after (sound : traffic.Sound directory place current view)
    (rooted : current.isAbsolute = true) {actions : List Action}
    (allowed : ∀ action ∈ actions, action.Allowed current place) :
    ∃ other, (traffic.after directory actions).Sound directory place current other := by
  induction actions generalizing traffic view with
  | nil => exact ⟨view, sound⟩
  | cons action rest inductionHypothesis =>
      rw [List.forall_mem_cons] at allowed
      obtain ⟨_, next⟩ := sound.act rooted allowed.1
      exact inductionHypothesis next allowed.2

/-- However the steps of any number of calls interleave on a cache directory that was
empty at first, and wherever calls stop, a search that is over has found nothing or, with
its line endings unified, a whole content that some call was given for the same key. -/
theorem served_given (directory : Path) (place : List Text) (tree : Tree)
    (rooted : tree.current.isAbsolute = true) (empty : tree.Holds directory place fun _ => none)
    (actions : List Action) (allowed : ∀ action ∈ actions, action.Allowed tree.current place)
    (number : Nat) (subject : Subject) (found : Option Text)
    (returned : (Traffic.after directory { tree } actions).searching number =
      some ⟨subject, .over found⟩) :
    found = none ∨ ∃ giver call,
      (Traffic.after directory { tree } actions).storing giver = some call ∧
        call.subject.key = subject.key ∧ found = some call.content.unifyNewlines := by
  have start : Traffic.Sound directory place tree.current (fun _ => none) { tree } := by
    refine ⟨empty, rfl, fun _ _ _ => by simp, ?_, ?_, ?_, ?_, ?_⟩
    · exact fun _ _ shown => by cases shown
    · exact fun _ _ began => by cases began
    · exact fun _ _ _ began => by cases began
    · exact fun _ _ _ _ _ began => by cases began
    · exact fun _ _ _ began => by cases began
  obtain ⟨_, sound⟩ := start.after rooted allowed
  cases found with
  | none => exact Or.inl rfl
  | some content =>
      obtain ⟨_, ⟨giver, call, began, key, rfl⟩, rfl⟩ := sound.served number _ content returned rfl
      exact Or.inr ⟨giver, call, began, key, rfl⟩

/-! ## A bundle replaced between two reads -/

/-- Two calls keep bundles for one subject.  A search reads the record of the first while
the second, which stops before it has a record, replaces the bundle. -/
def crossedActions : List Action :=
  [.beginStoring 0 (sampleSubject 5) "first".toList [], .draft 0 ['0'], .publish 0,
    .draft 0 ['0'], .publish 0, .beginStoring 1 (sampleSubject 5) "second".toList [],
    .beginSearching 0 (sampleSubject 5), .read 0, .draft 1 ['0'], .publish 1, .stop 1, .read 0]

/-- In a clean directory a call that writes aside under the first name publishes. -/
theorem draft_publish_of_clean (holds : traffic.tree.Holds directory place view) (clean : Clean view)
    {number : Nat} {subject : Subject} {content target text : Text} {rest : List (Text × Text)}
    (there : traffic.storing number = some ⟨subject, content, (target, text) :: rest, none⟩)
    {after : Tree} (published : publish directory traffic.tree target text = (.ok (), after)) :
    (traffic.draft directory number ['0']).publish directory number =
      traffic.put number after ⟨subject, content, rest, none⟩ := by
  have named : asideName (namesIn traffic.tree directory) (Path.suffixOf target) =
      asideMark ++ ['0'] ++ Path.suffixOf target := by
    rw [asideName_of_clean holds clean, List.append_assoc]
    rfl
  rw [draft_publish directory there named, published]
  rfl

/-- The record that either call is to keep. -/
def crossedRecord : Text × Text :=
  (recordName (sampleSubject 5).key, recordText (sampleSubject 5).request (sampleSubject 5).times [])

/-- The first call with some files before it, and before the second call begins. -/
def crossedFirst (tree : Tree) (pending : List (Text × Text)) : Traffic :=
  Traffic.put { tree := sampleTree } 0 tree ⟨sampleSubject 5, "first".toList, pending, none⟩

/-- The search, once the second call has begun. -/
def crossedSearch (tree : Tree) (stage : Stage) : Traffic :=
  ((crossedFirst tree []).put 1 tree ⟨sampleSubject 5, "second".toList,
    [((sampleSubject 5).key, "second".toList), crossedRecord], none⟩).putStage 0 (sampleSubject 5) stage

/-- The search finds the bundle of the second call. -/
theorem crossedActions_over :
    (Traffic.after sampleCache { tree := sampleTree } crossedActions).searching 0 =
      some ⟨sampleSubject 5, .over (some "second".toList)⟩ := by
  have noneClean : Clean fun _ => none := fun _ => rfl
  have noneFiles : OnlyFiles fun _ => none := fun _ _ _ => by simp
  have keyName := isEntryName_key (sampleSubject 5)
  have recordEntry := isEntryName_recordName (sampleSubject 5)
  have fits := fits_sampleSubject 5
  -- The first call publishes its bundle and its record.
  obtain ⟨kept, written, keptRevised⟩ := publish_ok sampleTree_holds noneClean noneFiles
    (publishable_key (sampleSubject 5)) fits.key "first".toList
  have keptClean := noneClean.update keyName
    (some (.file (Utf8.encode "first".toList) sampleTree.clock))
  have keptFiles := noneFiles.update (sampleSubject 5).key (Utf8.encode "first".toList)
    sampleTree.clock
  obtain ⟨recorded, recordWritten, recordRevised⟩ := publish_ok keptRevised.holds keptClean keptFiles
    (publishable_recordName (sampleSubject 5)) fits
    (recordText (sampleSubject 5).request (sampleSubject 5).times [])
  have recordClean := keptClean.update recordEntry (some (.file (Utf8.encode
    (recordText (sampleSubject 5).request (sampleSubject 5).times [])) kept.clock))
  have recordFiles := keptFiles.update (recordName (sampleSubject 5).key) (Utf8.encode
    (recordText (sampleSubject 5).request (sampleSubject 5).times [])) kept.clock
  -- The record is fresh, and the second call replaces the bundle.
  have fresh : recordFresh sampleCache recorded (sampleSubject 5) = true := by
    have found := lookupKey_kept recordRevised.holds fits
      ((Function.update_of_ne (recordName_ne_key _ _).symm _ _).trans (Function.update_self ..))
      (Function.update_self ..) (sampleSubjects_distinguished.lawful _ (Or.inl rfl))
      (sampleSubjects_distinguished.readable _ (Or.inl rfl))
      (show (sampleSubject 5).Alike (sampleSubject 5) by decide)
    have served := lookupFor_eq sampleCache recorded (sampleSubject 5)
    rw [lookupFor, found] at served
    by_contra stale
    rw [if_neg stale] at served
    cases served
  obtain ⟨replaced, secondWritten, replacedRevised⟩ := publish_ok recordRevised.holds recordClean
    recordFiles (publishable_key (sampleSubject 5)) fits.key "second".toList
  have read : replaced.readText (sampleCache.child (sampleSubject 5).key) = .ok "second".toList :=
    replacedRevised.holds.readText_child (Function.update_self ..)
      (ordinary_of_isEntryName keyName) fits.key
  have one : Traffic.beginStoring sampleCache { tree := sampleTree } 0 (sampleSubject 5)
      "first".toList [] =
        crossedFirst sampleTree [((sampleSubject 5).key, "first".toList), crossedRecord] := by
    rw [beginStoring_eq sampleCache rfl, sampleTree_holds.prepareDirectory]
    rfl
  have two : ((crossedFirst sampleTree [((sampleSubject 5).key, "first".toList), crossedRecord]).draft
      sampleCache 0 ['0']).publish sampleCache 0 = crossedFirst kept [crossedRecord] :=
    (draft_publish_of_clean sampleTree_holds noneClean (put_storing ..) written).trans (put_put ..)
  have three : ((crossedFirst kept [crossedRecord]).draft sampleCache 0 ['0']).publish sampleCache 0 =
      crossedFirst recorded [] :=
    (draft_publish_of_clean keptRevised.holds keptClean (put_storing ..) recordWritten).trans
      (put_put ..)
  have four : ((crossedFirst recorded []).beginStoring sampleCache 1 (sampleSubject 5)
      "second".toList []).beginSearching 0 (sampleSubject 5) = crossedSearch recorded .record := by
    rw [beginStoring_eq sampleCache rfl, crossedFirst, put_tree,
      recordRevised.holds.prepareDirectory]
    rfl
  have five : (crossedSearch recorded .record).read sampleCache 0 = crossedSearch recorded .text := by
    simp [crossedSearch, Traffic.read, Traffic.putStage, fresh]
  have there : (crossedSearch recorded .text).storing 1 = some ⟨sampleSubject 5, "second".toList,
      [((sampleSubject 5).key, "second".toList), crossedRecord], none⟩ :=
    put_storing (crossedFirst recorded []) 1 recorded _
  have six : ((crossedSearch recorded .text).draft sampleCache 1 ['0']).publish sampleCache 1 =
      (crossedSearch recorded .text).put 1 replaced
        ⟨sampleSubject 5, "second".toList, [crossedRecord], none⟩ :=
    draft_publish_of_clean (show (crossedSearch recorded .text).tree.Holds _ _ _ from
      recordRevised.holds) recordClean there secondWritten
  simp only [Traffic.after, crossedActions, List.foldl_cons, List.foldl_nil, Traffic.act]
  rw [one, two, three, four, five, six]
  simp [Traffic.stop, Traffic.read, crossedSearch, Traffic.put, Traffic.putStage, read,
    Except.toOption]

/-- The content found is the one given to the second call. -/
theorem crossedActions_given :
    ∃ giver call,
      (Traffic.after sampleCache { tree := sampleTree } crossedActions).storing giver = some call ∧
        call.subject.key = (sampleSubject 5).key ∧
        some "second".toList = some call.content.unifyNewlines :=
  (served_given sampleCache ["cache".toList] sampleTree rfl sampleTree_holds crossedActions
    (by decide) 0 (sampleSubject 5) (some "second".toList) crossedActions_over).resolve_left (by simp)

end Cache
end Codemap
