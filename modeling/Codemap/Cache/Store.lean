import Codemap.Cache.Request
import Codemap.Json.Reader
import Codemap.Notice

namespace Codemap

/-!
# Keeping bundles

A bundle is kept in two files: its text, and beside it a record of the times of the
files it was made from.  Both are written aside first and then moved into place, the
text before the record.  A bundle is found again if its record is readable, of the
present version, and agrees with the present times; anything else counts as not found.
Records are taken to be nested less deeply than the stack has room for.
-/

namespace Cache

/-- The version of records. -/
def version : Int := 1

/-- The name of the record beside a bundle. -/
def recordName (key : Text) : Text :=
  key ++ ".meta.json".toList

/-- The record of a bundle. -/
def record (request : Request) (times : Times) (now : Text) : Json :=
  .obj
    [("version".toList, .int version),
      ("request".toList, request.descriptor),
      ("generated_at".toList, .str now),
      ("file_modification_times".toList, timesObject times)]

/-- The text of a record. -/
def recordText (request : Request) (times : Times) (now : Text) : Text :=
  (record request times now).sortKeys.renderIndented 0

/-- A record agrees with the present times: every time it holds is the present one. -/
def isFresh (record : Json) (times : Times) : Bool :=
  match record with
  | .obj members =>
      ((Json.look? members "version".toList).any fun value => value.hasIntegerValue version) &&
        match Json.look? members "file_modification_times".toList with
        | some (.obj recorded) =>
            recorded.all fun (file, value) => value.hasIntegerValue (recordedTime times file)
        | _ => false
  | _ => false

/-! ## Writing -/

/-- A step of keeping a bundle.  Files are named as seen from the cache directory. -/
inductive Step where
  /-- Write a text aside. -/
  | draft (aside : Text) (content : Text)
  /-- Move a text that was written aside into place. -/
  | publish (aside target : Text)
deriving DecidableEq, Repr, Inhabited

namespace Step

/-- Carry out a step. -/
def run (directory : Path) (tree : Tree) : Step → Except StorageFault Tree
  | .draft aside content => tree.writeText (directory.child aside) content
  | .publish aside target => tree.moveFile (directory.child aside) (directory.child target)

end Step

/-- The names in a directory. -/
def namesIn (tree : Tree) (directory : Path) : List Text :=
  match tree.entry directory with
  | .ok entry => entry.children.map Prod.fst
  | .error _ => []

/-- A name for a file that is written aside; nothing has it yet. -/
def asideName (taken : List Text) (ending : Text) : Text :=
  let name (n : Nat) : Text := ".tmp-".toList ++ Nat.toDigits 10 n ++ ending
  match (List.range (taken.length + 1)).find? fun n => !taken.contains (name n) with
  | some n => name n
  | none => name taken.length

/-- Write a text aside and move it into place.  What was written aside does not stay if
it cannot be moved. -/
def publish (directory : Path) (tree : Tree) (target content : Text) :
    Except StorageFault Unit × Tree :=
  let aside := asideName (namesIn tree directory) (Path.suffixOf target)
  match (Step.draft aside content).run directory tree with
  | .error why => (.error why, tree)
  | .ok drafted =>
      match (Step.publish aside target).run directory drafted with
      | .ok published => (.ok (), published)
      | .error why => (.error why, (drafted.remove (directory.child aside)).toOption.getD drafted)

/-- Keep a bundle; the path of its text is returned. -/
def store (directory : Path) (tree : Tree) (request : Request) (files : List Text)
    (content now : Text) : Except StorageFault Path × Tree :=
  let times := timesOf tree files
  let name := key request files times
  match tree.prepareDirectory directory with
  | (.error why, ready) => (.error why, ready)
  | (.ok (), ready) =>
      match publish directory ready name content with
      | (.error why, after) => (.error why, after)
      | (.ok (), kept) =>
          match publish directory kept (recordName name) (recordText request times now) with
          | (.error why, after) => (.error why, after)
          | (.ok (), recorded) => (.ok (directory.child name), recorded)

/-! ## Reading -/

/-- How a search for a bundle ended. -/
inductive Outcome where
  | found (content : Text)
  | absent
  | stale
  | unreadable
deriving DecidableEq, Repr, Inhabited

/-- The outcome when a file cannot be read. -/
def Outcome.ofFault : ReadFault → Outcome
  | .storage .missing => .absent
  | _ => .unreadable

/-- Look for a bundle under a name, given the present times. -/
def lookupKey (directory : Path) (tree : Tree) (name : Text) (times : Times) : Outcome :=
  match tree.readText (directory.child (recordName name)) with
  | .error why => .ofFault why
  | .ok text =>
      match Json.parse? text with
      | none => .unreadable
      | some record =>
          if isFresh record times then
            match tree.readText (directory.child name) with
            | .ok content => .found content
            | .error why => .ofFault why
          else .stale

/-- Look for a bundle. -/
def search (directory : Path) (tree : Tree) (request : Request) (files : List Text) : Outcome :=
  let times := timesOf tree files
  lookupKey directory tree (key request files times) times

/-- The bundle that is kept for a request, if there is one. -/
def lookup (directory : Path) (tree : Tree) (request : Request) (files : List Text) :
    Option Text :=
  match search directory tree request files with
  | .found content => some content
  | _ => none

/-- What looking for a bundle has to tell. -/
def lookupNotices (directory : Path) (tree : Tree) (request : Request) (files : List Text) :
    List Notice :=
  let name := key request files (timesOf tree files)
  match search directory tree request files with
  | .found _ => [.debug ("Cache hit for ".toList ++ name)]
  | .stale => [.debug ("Cache entry ".toList ++ name ++ " is stale".toList)]
  | .unreadable =>
      [.debug ("Treating cache entry ".toList ++ name ++ " as a miss: unreadable".toList)]
  | .absent => []

end Cache
end Codemap
