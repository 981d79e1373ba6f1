import Codemap.Bundle.Assembly
import Codemap.Bundle.Reference
import Codemap.CommandLine.Invocation
import Codemap.Settings.Editor

namespace Codemap
namespace CommandLine

/-!
# Outcomes

An invocation is carried out under the settings of its settings file.  It ends with a
status: zero if it was carried out, one if the settings or the invocation itself do not
admit it, two if the words make no invocation.  Its result is printed, and what it has
to tell goes to the errors, debugging notices only on demand.

Faults that are neither the settings' own nor the pipeline's end the program without an
outcome.

If the settings name a log file, it is opened before the command begins, and every notice of
the command is recorded in it.  The records are added here when the command has ended; that a
command reads the file to which it writes its records is left out, and so are the names of
loggers and threads.
-/

/-- How a run ends. -/
structure Outcome where
  status : Nat := 0
  output : Text := []
  errors : Text := []
deriving DecidableEq, Repr, Inhabited

/-- A run: its outcome, the files after it, and the notices that a log records. -/
structure Completion where
  outcome : Except SettingsFault Outcome
  tree : Tree
  records : List Notice := []
deriving Inhabited

namespace Outcome

/-- Print a result. -/
def printed (result : Text) (errors : Text := []) : Outcome where
  output := result ++ ['\n']
  errors

/-- Give up with a message. -/
def failed (message : Text) : Outcome where
  status := 1
  errors := message

end Outcome

/-- The notices that are shown, each on a line. -/
def shownNotices (isVerbose : Bool) (notices : List Notice) : Text :=
  (notices.filter (Notice.isShown isVerbose)).flatMap fun notice =>
    "[localctx] ".toList ++ notice.line ++ ['\n']

/-! ## The log -/

/-- Open the log file that the settings name.  Missing directories are made, and a missing file
is made empty; a file that is there stays as it is. -/
def openLog (settings : Settings) (tree : Tree) : Except StorageFault Tree :=
  match settings.logFile with
  | none => .ok tree
  | some file => do
      let ready ← tree.makeDirectories file.parent
      match ready.readBytes file with
      | .ok _ => return ready
      | .error .missing => ready.writeBytes file []
      | .error why => throw why

/-- The lines of records. -/
def recordLines (now : Text) (records : List Notice) : Text :=
  records.flatMap fun notice => now ++ ' ' :: notice.line ++ ['\n']

/-- Add records to the log file that the settings name.  What cannot be written is lost. -/
def addRecords (settings : Settings) (now : Text) (records : List Notice) (tree : Tree) : Tree :=
  match settings.logFile with
  | none => tree
  | some file =>
      if records.isEmpty then tree
      else
        match tree.readBytes file with
        | .error _ => tree
        | .ok before =>
            match tree.writeBytes file (before ++ Utf8.encode (recordLines now records)) with
            | .error _ => tree
            | .ok written => written

/-! ## Commands -/

/-- Fetch a bundle. -/
def fetch (environment : Environment) (settings : Settings) (tree : Tree) (isVerbose : Bool)
    (request : Bundle.Request) : Completion :=
  if request.depth.any (· < -1) then
    { outcome := .ok (.failed "--depth must be -1 or a non-negative integer\n".toList), tree }
  else
    let run := Bundle.fetch environment settings request tree
    let told := shownNotices isVerbose run.notices
    let outcome := match run.result with
      | .ok text => Outcome.printed text told
      | .error why =>
          .failed (told ++ "localctx fetch failed: ".toList ++ why.message ++
            "\nRun with --verbose for more details.\n".toList)
    { outcome := .ok outcome, tree := run.tree, records := run.notices }

/-- What a command for an edit comes to.  That the file was written is told even if there is
no answer. -/
def completeEdit (isVerbose : Bool) (file : Path) (done : Editor.Completion) : Completion :=
  let records :=
    if done.hasWritten then [Notice.debug ("Wrote configuration to ".toList ++ file.text)] else []
  let told := shownNotices isVerbose records
  let outcome := match done.result with
    | .ok text => .ok (.printed text told)
    | .error (.refused why) =>
        .ok (.failed (told ++ "localctx config failed: ".toList ++ why.message ++ ['\n']))
    | .error why => .error why
  { outcome, tree := done.tree, records }

/-- Carry out an operation on the settings file.  The given value is the item of a list as
well where the operation needs one. -/
def config (settings : Settings) (tree : Tree) (isVerbose : Bool) (operation : EditOperation)
    (key value : Option Text) : Completion :=
  let editor : Editor := { file := settings.file }
  let given := match value with
    | some text => Yaml.Document.ofGiven text
    | none => .ok { root := .null }
  match given with
  | .error why => { outcome := .error (.document why), tree }
  | .ok document =>
      completeEdit isVerbose settings.file
        (editor.apply tree operation (key.getD []) document document)

/-- Carry out a command. -/
def perform (environment : Environment) (settings : Settings) (tree : Tree)
    (invocation : Invocation) : Completion :=
  match invocation.command with
  | .fetch request => fetch environment settings tree invocation.isVerbose request
  | .config operation key value =>
      config settings tree invocation.isVerbose operation key value
  | .tools => { outcome := .ok (.printed (Bundle.reference settings)), tree }
  | .serve _ _ =>
      { outcome := .ok (.failed "Serving over a network is not available.\n".toList), tree }

/-- Carry out an invocation. -/
def run (environment : Environment) (tree : Tree) (invocation : Invocation) : Completion :=
  match Settings.load environment tree (invocation.settings.map Path.ofText) with
  | .error (.refused why) =>
      { outcome := .ok (.failed ("Invalid configuration: ".toList ++ why.message ++ ['\n']))
        tree }
  | .error why => { outcome := .error why, tree }
  | .ok settings =>
      match openLog settings tree with
      | .error why => { outcome := .error (.storage why), tree }
      | .ok ready =>
          let done := perform environment settings ready invocation
          { done with tree := addRecords settings environment.now done.records done.tree }

/-- How the program is called. -/
def usage : Text :=
  "usage: localctx [-h] [-v] [--config CONFIG] \x7bfetch,config,tools,serve\x7d ...\n".toList

/-- Carry out a command line. -/
def runWords (environment : Environment) (tree : Tree) (words : List Text) : Completion :=
  match Invocation.ofWords words with
  | .ok invocation => run environment tree invocation
  | .error .helpWanted => { outcome := .ok { output := usage }, tree }
  | .error .misused => { outcome := .ok { status := 2, errors := usage }, tree }

end CommandLine
end Codemap
