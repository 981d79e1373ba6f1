import Codemap.Proofs.Cache.History

namespace Codemap
namespace Cache

/-!
# Calls in progress

Several programs may use one cache directory at a time, each keeping bundles or looking
for them.  A call that keeps a bundle writes a file aside and moves it into place, and
then does the same once more; a call that looks for one reads the record and then the
bundle.  Between any two of these steps other calls may take theirs, a call may stop for
good, and files outside the directory may change.

A state has the files and, by number, the calls that have begun.  An action lets one call
take its next step; an action that does not fit the call does nothing.  So every list of
actions is a run, and every interleaving is a list of actions.  The times that a call
goes by may be any, because they are read one by one while the files change.

The calls of the cache are runs too: their steps one after another, with nothing between
them.
-/

/-! ## Calls -/

/-- A call that keeps a bundle, and how far it has come. -/
structure Storing where
  subject : Subject
  content : Text
  /-- The names and texts of the files that are not in place yet, the next one first. -/
  pending : List (Text × Text)
  /-- The name aside under which the next file is written already. -/
  aside : Option Text := none
deriving DecidableEq, Repr, Inhabited

namespace Storing

/-- A call that has not written anything yet: the bundle comes before its record. -/
def start (subject : Subject) (content now : Text) : Storing where
  subject
  content
  pending :=
    [(subject.key, content),
      (recordName subject.key, recordText subject.request subject.times now)]

/-- A call that takes no further step. -/
def stopped (call : Storing) : Storing :=
  { call with pending := [], aside := none }

end Storing

/-- How far a call has come that looks for a bundle. -/
inductive Stage where
  | record
  | text
  | over (found : Option Text)
deriving DecidableEq, Repr, Inhabited

/-- A call that looks for a bundle. -/
structure Searching where
  subject : Subject
  stage : Stage := .record
deriving DecidableEq, Repr, Inhabited

/-- The files, and the calls that have begun. -/
structure Traffic where
  tree : Tree
  storing : Nat → Option Storing := fun _ => none
  searching : Nat → Option Searching := fun _ => none

/-- The files without one that was written aside. -/
def removeAside (directory : Path) (tree : Tree) (aside : Text) : Tree :=
  (tree.remove (directory.child aside)).toOption.getD tree

/-- The record that is found for a subject is fresh. -/
def recordFresh (directory : Path) (tree : Tree) (subject : Subject) : Bool :=
  match tree.readText (directory.child (recordName subject.key)) with
  | .ok text => (Json.parse? text).any fun record => isFresh record subject.times
  | .error _ => false

/-! ## Actions -/

/-- What may happen next. -/
inductive Action where
  | beginStoring (number : Nat) (subject : Subject) (content now : Text)
  /-- Write the next file aside, under a name with some middle part. -/
  | draft (number : Nat) (middle : Text)
  /-- Move the file that was written aside into place. -/
  | publish (number : Nat)
  /-- Fail after the file was written aside, which does not stay. -/
  | abandon (number : Nat)
  /-- Stop while the next file is being written aside. -/
  | tear (number : Nat) (middle : Text) (written : Bytes)
  /-- Stop. -/
  | stop (number : Nat)
  | beginSearching (number : Nat) (subject : Subject)
  /-- Read the record, or after that the bundle. -/
  | read (number : Nat)
  | change (file : Text) (what : FileChange)
deriving DecidableEq, Repr, Inhabited

namespace Traffic

/-- A call has taken a step. -/
def put (traffic : Traffic) (number : Nat) (tree : Tree) (call : Storing) : Traffic :=
  { traffic with tree, storing := Function.update traffic.storing number (some call) }

/-- A call that looks for a bundle has taken a step. -/
def putStage (traffic : Traffic) (number : Nat) (subject : Subject) (stage : Stage) : Traffic :=
  { traffic with searching := Function.update traffic.searching number (some ⟨subject, stage⟩) }

variable (directory : Path) (traffic : Traffic)

/-- Begin to keep a bundle: the directory is made. -/
def beginStoring (number : Nat) (subject : Subject) (content now : Text) : Traffic :=
  match traffic.storing number with
  | some _ => traffic
  | none =>
      match traffic.tree.prepareDirectory directory with
      | (.ok (), ready) => traffic.put number ready (.start subject content now)
      | (.error _, ready) => traffic.put number ready (Storing.start subject content now).stopped

/-- Write a file aside under a name that nothing has yet. -/
def draft (number : Nat) (middle : Text) : Traffic :=
  match traffic.storing number with
  | some ⟨subject, content, (target, text) :: rest, none⟩ =>
      let aside := asideMark ++ middle ++ Path.suffixOf target
      if aside ∈ namesIn traffic.tree directory then traffic
      else
        match (Step.draft aside text).run directory traffic.tree with
        | .ok after => traffic.put number after ⟨subject, content, (target, text) :: rest, some aside⟩
        | .error _ => traffic.put number traffic.tree ⟨subject, content, [], none⟩
  | _ => traffic

/-- Move what was written aside into place.  If it cannot be moved, it is removed. -/
def publish (number : Nat) : Traffic :=
  match traffic.storing number with
  | some ⟨subject, content, (target, _) :: rest, some aside⟩ =>
      match (Step.publish aside target).run directory traffic.tree with
      | .ok after => traffic.put number after ⟨subject, content, rest, none⟩
      | .error _ => traffic.put number (removeAside directory traffic.tree aside) ⟨subject, content, [], none⟩
  | _ => traffic

/-- Fail after a file was written aside. -/
def abandon (number : Nat) : Traffic :=
  match traffic.storing number with
  | some ⟨subject, content, _, some aside⟩ =>
      traffic.put number (removeAside directory traffic.tree aside) ⟨subject, content, [], none⟩
  | _ => traffic

/-- Stop while a file is being written aside: any bytes may be there. -/
def tear (number : Nat) (middle : Text) (written : Bytes) : Traffic :=
  match traffic.storing number with
  | some ⟨subject, content, (target, _) :: _, none⟩ =>
      let aside := asideMark ++ middle ++ Path.suffixOf target
      if aside ∈ namesIn traffic.tree directory then traffic
      else
        traffic.put number
          ((traffic.tree.writeBytes (directory.child aside) written).toOption.getD traffic.tree)
          ⟨subject, content, [], none⟩
  | _ => traffic

/-- Take no further step. -/
def stop (number : Nat) : Traffic :=
  match traffic.storing number with
  | some call => traffic.put number traffic.tree call.stopped
  | none => traffic

/-- Begin to look for a bundle. -/
def beginSearching (number : Nat) (subject : Subject) : Traffic :=
  match traffic.searching number with
  | some _ => traffic
  | none => traffic.putStage number subject .record

/-- Read the record, or after that the bundle. -/
def read (number : Nat) : Traffic :=
  match traffic.searching number with
  | some ⟨subject, .record⟩ =>
      traffic.putStage number subject
        (if recordFresh directory traffic.tree subject then .text else .over none)
  | some ⟨subject, .text⟩ =>
      traffic.putStage number subject
        (.over (traffic.tree.readText (directory.child subject.key)).toOption)
  | _ => traffic

/-- What an action does. -/
def act : Action → Traffic
  | .beginStoring number subject content now =>
      traffic.beginStoring directory number subject content now
  | .draft number middle => traffic.draft directory number middle
  | .publish number => traffic.publish directory number
  | .abandon number => traffic.abandon directory number
  | .tear number middle written => traffic.tear directory number middle written
  | .stop number => traffic.stop number
  | .beginSearching number subject => traffic.beginSearching number subject
  | .read number => traffic.read directory number
  | .change file what => { traffic with tree := what.run traffic.tree (Path.ofText file) }

/-- What a list of actions leads to. -/
def after (actions : List Action) : Traffic :=
  actions.foldl (act directory) traffic

end Traffic

/-! ## The calls of the cache as runs -/

section Calls

variable (directory : Path) (tree : Tree)

/-- What reading the record and then the bundle comes to. -/
theorem lookupFor_eq (subject : Subject) :
    lookupFor directory tree subject =
      if recordFresh directory tree subject then
        (tree.readText (directory.child subject.key)).toOption
      else none := by
  rw [lookupFor, lookupKey, recordFresh]
  cases tree.readText (directory.child (recordName subject.key)) with
  | error why => rcases why with ⟨⟨⟩⟩ | _ <;> rfl
  | ok text =>
      rcases Option.eq_none_or_eq_some (Json.parse? text) with parsed | ⟨record, parsed⟩
      · simp [parsed]
      · simp only [parsed, Option.any_some]
        cases isFresh record subject.times with
        | false => rfl
        | true =>
            cases tree.readText (directory.child subject.key) with
            | error why => rcases why with ⟨⟨⟩⟩ | _ <;> rfl
            | ok content => rfl

/-- Looking for a bundle is reading the record and then the bundle. -/
theorem lookup_eq_after (request : Request) (files : List Text) :
    (Traffic.after directory { tree }
        [.beginSearching 0 (.now tree request files), .read 0, .read 0]).searching 0 =
      some ⟨.now tree request files, .over (lookup directory tree request files)⟩ := by
  rw [lookup_eq_lookupFor, lookupFor_eq]
  cases fresh : recordFresh directory tree (.now tree request files) with
  | false =>
      simp [Traffic.after, Traffic.act, Traffic.beginSearching, Traffic.read, Traffic.putStage, fresh]
  | true =>
      simp [Traffic.after, Traffic.act, Traffic.beginSearching, Traffic.read, Traffic.putStage, fresh]

/-- The files that are to be kept after one was published or not. -/
def remaining (rest : List (Text × Text)) : Except StorageFault Unit → List (Text × Text)
  | .ok _ => rest
  | .error _ => []

theorem put_put (traffic : Traffic) (number : Nat) (tree after : Tree) (call next : Storing) :
    (traffic.put number tree call).put number after next = traffic.put number after next := by
  simp [Traffic.put]

@[simp] theorem put_storing (traffic : Traffic) (number : Nat) (tree : Tree) (call : Storing) :
    (traffic.put number tree call).storing number = some call := by
  simp [Traffic.put]

@[simp] theorem put_tree (traffic : Traffic) (number : Nat) (tree : Tree) (call : Storing) :
    (traffic.put number tree call).tree = tree := rfl

/-- Writing a file aside and moving it into place is publishing it. -/
theorem draft_publish {traffic : Traffic} {number : Nat} {subject : Subject}
    {content target text middle : Text} {rest : List (Text × Text)}
    (there : traffic.storing number = some ⟨subject, content, (target, text) :: rest, none⟩)
    (named : asideName (namesIn traffic.tree directory) (Path.suffixOf target) =
      asideMark ++ middle ++ Path.suffixOf target) :
    (traffic.draft directory number middle).publish directory number =
      traffic.put number (publish directory traffic.tree target text).2
        ⟨subject, content, remaining rest (publish directory traffic.tree target text).1, none⟩ := by
  have fresh := asideName_fresh (namesIn traffic.tree directory) (Path.suffixOf target)
  rw [Cache.publish, Traffic.draft, there]
  rw [named] at fresh ⊢
  simp only [fresh, if_false]
  cases drafted : (Step.draft (asideMark ++ middle ++ Path.suffixOf target) text).run directory
      traffic.tree with
  | error why => rw [Traffic.publish, put_storing]; rfl
  | ok after =>
      rw [Traffic.publish, put_storing]
      dsimp only [Traffic.put]
      cases (Step.publish (asideMark ++ middle ++ Path.suffixOf target) target).run
          directory after with
      | error why => simp [remaining, removeAside]
      | ok published => simp [remaining]

/-- A call that has nothing left to keep does nothing. -/
theorem draft_publish_of_done {traffic : Traffic} {number : Nat} {subject : Subject} {content : Text}
    (there : traffic.storing number = some ⟨subject, content, [], none⟩) (middle : Text) :
    (traffic.draft directory number middle).publish directory number = traffic := by
  have idle : traffic.draft directory number middle = traffic := by
    rw [Traffic.draft, there]
  rw [idle, Traffic.publish, there]

theorem beginStoring_eq {traffic : Traffic} {number : Nat} (free : traffic.storing number = none)
    (subject : Subject) (content now : Text) :
    traffic.beginStoring directory number subject content now =
      traffic.put number (traffic.tree.prepareDirectory directory).2
        ⟨subject, content,
          remaining (Storing.start subject content now).pending
            (traffic.tree.prepareDirectory directory).1,
          none⟩ := by
  rw [Traffic.beginStoring, free]
  dsimp only
  cases traffic.tree.prepareDirectory directory with
  | mk outcome ready => cases outcome <;> rfl

/-- Keeping a bundle is writing aside and moving into place, twice. -/
theorem store_eq_after (request : Request) (files : List Text) (content now : Text) :
    ∃ first second,
      (Traffic.after directory { tree }
        [.beginStoring 0 (.now tree request files) content now,
          .draft 0 first, .publish 0, .draft 0 second, .publish 0]).tree =
        (store directory tree request files content now).2 := by
  have actions (first second : Text) :
      Traffic.after directory { tree }
          [.beginStoring 0 (.now tree request files) content now,
            .draft 0 first, .publish 0, .draft 0 second, .publish 0] =
        ((((Traffic.beginStoring directory { tree } 0 (.now tree request files) content now).draft
          directory 0 first).publish directory 0).draft directory 0 second).publish directory 0 := rfl
  have key : key request files (timesOf tree files) = (Subject.now tree request files).key := rfl
  simp only [actions, beginStoring_eq directory (show ({ tree } : Traffic).storing 0 = none from rfl)]
  rw [store, key]
  cases tree.prepareDirectory directory with
  | mk outcome ready =>
      cases outcome with
      | error why =>
          refine ⟨[], [], ?_⟩
          dsimp only [remaining]
          rw [draft_publish_of_done directory (put_storing ..),
            draft_publish_of_done directory (put_storing ..)]
          rfl
      | ok =>
          obtain ⟨n, first⟩ := asideName_shape (namesIn ready directory)
            (Path.suffixOf (Subject.now tree request files).key)
          refine ⟨Text.ofNat n, ?_⟩
          dsimp only [remaining, Storing.start]
          rw [draft_publish directory (put_storing ..) first, put_put]
          dsimp only [put_tree]
          cases publish directory ready (Subject.now tree request files).key content with
          | mk outcome kept =>
              cases outcome with
              | error why =>
                  refine ⟨[], ?_⟩
                  dsimp only [remaining]
                  rw [draft_publish_of_done directory (put_storing ..)]
                  rfl
              | ok =>
                  obtain ⟨n, second⟩ := asideName_shape (namesIn kept directory)
                    (Path.suffixOf (recordName (Subject.now tree request files).key))
                  refine ⟨Text.ofNat n, ?_⟩
                  dsimp only [remaining]
                  rw [draft_publish directory (put_storing ..) second, put_put]
                  dsimp only [put_tree, Subject.now]
                  rcases publish directory kept (recordName (Subject.key ⟨request, files, timesOf tree files⟩))
                    (recordText request (timesOf tree files) now) with ⟨_ | _, last⟩ <;> rfl

end Calls

end Cache
end Codemap
