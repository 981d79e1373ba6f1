import Codemap.CommandLine.Outcome
import Std.Time

namespace Codemap
namespace CommandLine

/-!
# The program

The pure program works on a tree of files.  Here such a tree is read from the disk,
the words of the command line are carried out on it, and what has changed in the tree
is written back.  The tree holds what stands below the current directory, below the
place of the settings file, and below the places that the settings name.
-/

/-- The bytes of a file on the disk; an unreadable file is taken for an empty one. -/
def bytesAt (file : String) : IO Bytes := do
  try return (← IO.FS.readBinFile file).toList
  catch _ => return []

/-- The current time as a text. -/
def currentTime : IO Text := do
  let now := Std.Time.DateTime.ofTimestampWithZone (← Std.Time.Timestamp.now) Std.Time.TimeZone.UTC
  let moment : Yaml.Moment := {
    year := now.year.toInt.toNat
    month := now.month.val.toNat
    day := now.day.val.toNat
    clock := some {
      hour := now.hour.val.toNat
      minute := now.minute.val.toNat
      second := now.second.val.toNat
      microsecond := now.nanosecond.val.toNat / 1000
      offset := none } }
  return moment.text 'T' ++ ['Z']

/-- Read the entry at a place of the disk. -/
partial def entryAt (place : String) : IO Entry := do
  let found ← IO.FS.realPath place
  if ← found.isDir then
    let children ← (← found.readDir).toList.mapM fun child => do
      return (child.fileName.toList, ← entryAt child.path.toString)
    return .directory children
  else
    let time := (← found.metadata).modified
    return .file (← bytesAt place) (time.sec * 1000000000 + time.nsec.toNat)

/-- Add what stands at a place of the disk to a tree, unless it is there. -/
def attach (tree : Tree) (place : Path) : IO Tree := do
  let target := Path.resolve tree.current place
  if tree.exists? target then return tree
  try return tree.place target.names (← entryAt (String.ofList target.text))
  catch _ => return tree

/-- The places that settings name. -/
def placesOf (settings : Settings) : List Path :=
  settings.cacheDirectory :: settings.searchable ++ (settings.logFile.map Path.parent).toList

/-- The tree that a command line works on. -/
def treeFor (environment : Environment) (current : Path) (words : List Text) : IO Tree := do
  let asked := (Invocation.ofWords words).toOption.bind Invocation.settings
  let named := (asked.orElse fun _ => environment.settingsFile).toList.map Path.ofText
  let begun ← (current :: named).foldlM attach { current }
  match Settings.load environment begun (asked.map Path.ofText) with
  | .ok settings => (placesOf settings).foldlM attach begun
  | .error _ => return begun

/-- Write what is new in an entry to its place on the disk. -/
partial def writeBack (place : Path) (old : Option Entry) (new : Entry) : IO Unit := do
  let target := String.ofList place.text
  match old, new with
  | some (.file before _), .file content _ =>
      if before != content then IO.FS.writeBinFile target ⟨content.toArray⟩
  | _, .file content _ => IO.FS.writeBinFile target ⟨content.toArray⟩
  | _, .directory children =>
      if old.isNone then IO.FS.createDirAll target
      for (name, child) in children do
        writeBack (place.child name) (old.bind fun entry => Entry.look? entry.children name) child

/-- The surroundings of the program. -/
def surroundings : IO Environment := do
  let home := (← IO.getEnv "HOME").getD "/root"
  return {
    home := Path.ofText home.toList
    settingsFile := (← IO.getEnv "LOCALCTX_CONFIG").map String.toList
    now := ← currentTime }

/-- Carry out a command line on the disk; the status is returned. -/
def runOnDisk (words : List Text) : IO UInt32 := do
  let environment ← surroundings
  let current := Path.ofText (← IO.currentDir).toString.toList
  let tree ← treeFor environment current words
  let completion := runWords environment tree words
  writeBack { root := .slash, names := [] } (some tree.root) completion.tree.root
  match completion.outcome with
  | .ok outcome =>
      IO.eprint (String.ofList outcome.errors)
      IO.print (String.ofList outcome.output)
      return UInt32.ofNat outcome.status
  | .error _ =>
      IO.eprintln "The settings cannot be read."
      return 1

end CommandLine
end Codemap

/-- The entry point of the program. -/
def main (arguments : List String) : IO UInt32 :=
  Codemap.CommandLine.runOnDisk (arguments.map String.toList)
