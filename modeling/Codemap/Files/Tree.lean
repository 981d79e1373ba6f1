import Codemap.Files.Path
import Codemap.Text.Utf8

namespace Codemap

/-!
# The file tree

The files a run can see are a finite tree: a directory holds named entries, a
file holds bytes and the time of its last change.  There are no symbolic links,
so an entry has one place, and the place of a path is found by walking its
segments from the root.  Reading and writing are functions on the tree; a writer
returns the changed tree.

Names are texts, so a name whose bytes are not UTF-8 cannot occur in a tree.  What a file holds
is bytes, and these need not be a text.

A path may fail to name an entry in three ways that matter to its user: nothing is
there, something on the way is no directory, or a name is longer than a file
system allows.  A path as a whole may have any length.
-/

/-- An entry of a directory. -/
inductive Entry where
  | file (content : Bytes) (changed : Int)
  | directory (children : List (Text × Entry))
deriving Inhabited

/-- Why the file system refuses an operation. -/
inductive StorageFault where
  | missing
  | notDirectory
  | isDirectory
  | nameTooLong
  | occupied
  | notEmpty
deriving DecidableEq, Repr, Inhabited

/-- The usual wording of a refusal, with its number. -/
def StorageFault.message : StorageFault → String
  | .missing => "[Errno 2] No such file or directory"
  | .notDirectory => "[Errno 20] Not a directory"
  | .isDirectory => "[Errno 21] Is a directory"
  | .nameTooLong => "[Errno 36] File name too long"
  | .occupied => "[Errno 17] File exists"
  | .notEmpty => "[Errno 39] Directory not empty"

/-- Why a file cannot be read as a text. -/
inductive ReadFault where
  | storage (fault : StorageFault)
  | undecodable (failure : Utf8.Failure)
deriving DecidableEq, Repr, Inhabited

/-- The longest name of an entry, in bytes. -/
def longestName : Nat := 255

namespace Entry

/-! ## Entries below an entry -/

/-- The entry with a name among the children of a directory. -/
def look? (children : List (Text × Entry)) (name : Text) : Option Entry :=
  match children with
  | [] => none
  | (other, entry) :: rest => if other = name then some entry else look? rest name

/-- Give a name an entry: in place if the name is there, at the end otherwise. -/
def put (children : List (Text × Entry)) (name : Text) (entry : Entry) : List (Text × Entry) :=
  match children with
  | [] => [(name, entry)]
  | (other, old) :: rest =>
      if other = name then (other, entry) :: rest else (other, old) :: put rest name entry

/-- The children without the one of a name. -/
def drop (children : List (Text × Entry)) (name : Text) : List (Text × Entry) :=
  children.filter fun child => child.1 != name

/-- The children of a directory; a file has none. -/
def children : Entry → List (Text × Entry)
  | .file _ _ => []
  | .directory children => children

/-- The entry is a file. -/
def isFile : Entry → Bool
  | .file _ _ => true
  | .directory _ => false

/-- The entry is a directory. -/
def isDirectory : Entry → Bool
  | .file _ _ => false
  | .directory _ => true

/-- The entry at the end of a list of names. -/
def at? (entry : Entry) : List Text → Option Entry
  | [] => some entry
  | name :: rest =>
      match look? entry.children name with
      | some child => at? child rest
      | none => none

/-- Change the entry at the end of a list of names.  `change` sees what is there and
says what shall be there; directories on the way are made where they are missing. -/
def alter (change : Option Entry → Option Entry) : List Text → Option Entry → Option Entry
  | [], old => change old
  | name :: rest, old =>
      let children := (old.map Entry.children).getD []
      match alter change rest (look? children name) with
      | some entry => some (.directory (put children name entry))
      | none => some (.directory (drop children name))

end Entry

/-- The files a run can see, the directory relative paths start from, and the time
that the next file to be written gets. -/
structure Tree where
  root : Entry := .directory []
  current : Path := { names := [] }
  clock : Int := 0
deriving Inhabited

namespace Tree

/-! ## Finding entries -/

/-- Walk segments from a directory, given by its names with the last one first.
Two dots lead to the directory above, and every segment needs a directory to
start from. -/
def walkNames (tree : Tree) (place : List Text) : List Text → Except StorageFault (List Text)
  | [] => .ok place
  | segment :: rest =>
      match tree.root.at? place.reverse with
      | none => .error .missing
      | some (.file _ _) => .error .notDirectory
      | some (.directory children) =>
          if segment = upward then walkNames tree place.tail rest
          else if longestName < (Utf8.encode segment).length then .error .nameTooLong
          else
            match Entry.look? children segment with
            | some _ => walkNames tree (segment :: place) rest
            | none => .error .missing

/-- The path as seen from the directory relative paths start from. -/
def absolute (tree : Tree) (path : Path) : Path :=
  tree.current.join path

/-- The names of the entry that a path leads to. -/
def locate (tree : Tree) (path : Path) : Except StorageFault (List Text) :=
  (tree.walkNames [] (tree.absolute path).names).map List.reverse

/-- The entry that a path leads to. -/
def entry (tree : Tree) (path : Path) : Except StorageFault Entry :=
  match tree.locate path with
  | .ok names =>
      match tree.root.at? names with
      | some entry => .ok entry
      | none => .error .missing
  | .error fault => .error fault

/-- What a path leads to, if it leads anywhere.  A name that is too long is a fault of
the path and not the absence of an entry. -/
def status (tree : Tree) (path : Path) : Except StorageFault (Option Entry) :=
  match tree.entry path with
  | .ok entry => .ok (some entry)
  | .error .nameTooLong => .error .nameTooLong
  | .error _ => .ok none

/-- A path leads to a file. -/
def isFile (tree : Tree) (path : Path) : Bool :=
  match tree.entry path with
  | .ok entry => entry.isFile
  | .error _ => false

/-- A path leads to a directory. -/
def isDirectory (tree : Tree) (path : Path) : Bool :=
  match tree.entry path with
  | .ok entry => entry.isDirectory
  | .error _ => false

/-- A path leads to an entry. -/
def exists? (tree : Tree) (path : Path) : Bool :=
  match tree.entry path with
  | .ok _ => true
  | .error _ => false

/-! ## Reading -/

/-- The bytes of a file. -/
def readBytes (tree : Tree) (path : Path) : Except StorageFault Bytes :=
  match tree.entry path with
  | .ok (.file content _) => .ok content
  | .ok (.directory _) => .error .isDirectory
  | .error fault => .error fault

/-- The text of a file, every line ending being a line feed. -/
def readText (tree : Tree) (path : Path) : Except ReadFault Text :=
  match tree.readBytes path with
  | .error fault => .error (.storage fault)
  | .ok bytes =>
      match Utf8.decode bytes with
      | .ok text => .ok text.unifyNewlines
      | .error failure => .error (.undecodable failure)

/-- The time of the last change of a file.  A directory's time is not kept. -/
def changed (tree : Tree) (path : Path) : Except StorageFault Int :=
  match tree.entry path with
  | .ok (.file _ changed) => .ok changed
  | .ok (.directory _) => .ok tree.clock
  | .error fault => .error fault

/-! ## Writing -/

/-- Change the entry at a place; the root itself never vanishes. -/
def alterAt (tree : Tree) (change : Option Entry → Option Entry) (names : List Text) : Tree :=
  { tree with root := (Entry.alter change names (some tree.root)).getD tree.root }

/-- Put an entry at a place, making the directories on the way. -/
def place (tree : Tree) (names : List Text) (entry : Entry) : Tree :=
  tree.alterAt (fun _ => some entry) names

/-- Make a directory and those above it as far as possible.  If a name is too long, the
directories before it are made all the same.  The stack is taken to have room for a call for
every directory that is missing. -/
def prepareDirectory (tree : Tree) (path : Path) : Except StorageFault Unit × Tree :=
  let fits (name : Text) : Bool := decide ((Utf8.encode name).length ≤ longestName)
  let rec enter (place : List Text) : List Text → Except StorageFault Unit
    | [] => .ok ()
    | segment :: rest =>
        if longestName < (Utf8.encode segment).length then .error .nameTooLong
        else
          match tree.root.at? (segment :: place).reverse with
          | some (.file _ _) => .error (if rest.isEmpty then .occupied else .notDirectory)
          | some (.directory _) => enter (segment :: place) rest
          | none => .ok ()
  let names := (tree.absolute path).normalize.names
  match enter [] names with
  | .error fault => (.error fault, tree)
  | .ok () =>
      let possible := names.takeWhile fits
      let made :=
        if (tree.root.at? possible).isSome then tree else tree.place possible (.directory [])
      (if names.all fits then .ok () else .error .nameTooLong, made)

/-- Make a directory and those above it. -/
def makeDirectories (tree : Tree) (path : Path) : Except StorageFault Tree :=
  match tree.prepareDirectory path with
  | (.ok (), made) => .ok made
  | (.error fault, _) => .error fault

/-- Write a file into a directory that exists; the file gets the time of the
clock, which then moves on. -/
def writeBytes (tree : Tree) (path : Path) (content : Bytes) : Except StorageFault Tree :=
  let target := tree.absolute path
  match tree.locate target.parent with
  | .error fault => .error fault
  | .ok names =>
      match tree.root.at? names with
      | some (.directory children) =>
          if longestName < (Utf8.encode target.name).length then .error .nameTooLong
          else
            match Entry.look? children target.name with
            | some (.directory _) => .error .isDirectory
            | _ =>
                .ok { tree.place (names ++ [target.name]) (.file content tree.clock) with
                  clock := tree.clock + 1 }
      | some (.file _ _) => .error .notDirectory
      | none => .error .missing

/-- Write a text as a file. -/
def writeText (tree : Tree) (path : Path) (text : Text) : Except StorageFault Tree :=
  tree.writeBytes path (Utf8.encode text)

/-- Move a file to another place, where it replaces a file but no directory. -/
def moveFile (tree : Tree) (source target : Path) : Except StorageFault Tree :=
  let goal := tree.absolute target
  match tree.locate source, tree.locate goal.parent with
  | .ok names, .ok above =>
      match tree.root.at? names, tree.root.at? above with
      | some (.file content changed), some (.directory children) =>
          if longestName < (Utf8.encode goal.name).length then .error .nameTooLong
          else
            match Entry.look? children goal.name with
            | some (.directory _) => .error .isDirectory
            | _ =>
                let placed := tree.place (above ++ [goal.name]) (.file content changed)
                .ok (placed.alterAt (fun _ => none) names)
      | some (.file _ _), some (.file _ _) => .error .notDirectory
      | some (.directory _), _ => .error .isDirectory
      | _, _ => .error .missing
  | .error why, _ => .error why
  | _, .error why => .error why

/-- Remove the entry a path leads to, with everything below it. -/
def remove (tree : Tree) (path : Path) : Except StorageFault Tree :=
  match tree.locate path with
  | .error fault => .error fault
  | .ok names => .ok (tree.alterAt (fun _ => none) names)

/-- The entry with another time of change; a directory keeps none. -/
def dated (changed : Int) : Option Entry → Option Entry
  | some (.file content _) => some (.file content changed)
  | other => other

/-- Give a file a time of change. -/
def touch (tree : Tree) (path : Path) (changed : Int) : Except StorageFault Tree :=
  match tree.locate path with
  | .error fault => .error fault
  | .ok names => .ok (tree.alterAt (dated changed) names)

end Tree
end Codemap
