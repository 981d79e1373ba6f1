import Codemap.Bundle.Request
import Codemap.CommandLine.Grammar
import Codemap.Number.Integer

namespace Codemap
namespace CommandLine

/-!
# Invocations

A command line names a command and what the command is to do.  The words before the
name of the command are read by one grammar, the words after it by the grammar of the
command.  Some switches are common to both, and of two values of a switch the later
holds; globs and patterns are collected instead.
-/

/-- What the words of a command line can be about. -/
inductive Topic where
  | help
  | verbose
  | settings
  | command
  | terms
  | globs
  | patterns
  | depth
  | operation
  | key
  | value
  | host
  | port
deriving DecidableEq, Repr, Inhabited

/-- The commands. -/
inductive Verb where
  | fetch
  | config
  | tools
  | serve
deriving DecidableEq, Repr, Inhabited

/-- A switch with one name that takes a value. -/
def valued (topic : Topic) (name : String) : Switch Topic where
  key := topic
  names := [name.toList]
  takesValue := true

/-- The switches that every command has. -/
def commonSwitches : List (Switch Topic) := [
  { key := .help, names := ["-h", "--help"].map String.toList },
  { key := .verbose, names := ["-v", "--verbose"].map String.toList },
  valued .settings "--config"]

/-- The grammar of a whole command line. -/
def grammar : Grammar Topic where
  switches := commonSwitches
  arguments := [(.command, .everything)]

namespace Verb

/-- The commands with their names. -/
def named : List (String × Verb) :=
  [("fetch", .fetch), ("config", .config), ("tools", .tools), ("serve", .serve)]

/-- The command with a name. -/
def ofText? (text : Text) : Option Verb :=
  (named.find? fun entry => entry.1.toList == text).map (·.2)

/-- The grammar of the words after a command. -/
def grammar : Verb → Grammar Topic
  | .fetch => {
      switches := commonSwitches ++
        [valued .globs "--glob", valued .patterns "--regex", valued .depth "--depth"]
      arguments := [(.terms, .several)] }
  | .config => {
      switches := commonSwitches
      arguments := [(.operation, .one), (.key, .optional), (.value, .optional)] }
  | .tools => { switches := commonSwitches }
  | .serve => {
      switches := commonSwitches ++ [valued .host "--host", valued .port "--port"] }

end Verb

/-- Why words do not lead to an invocation. -/
inductive Rejection where
  | helpWanted
  | misused
deriving DecidableEq, Repr, Inhabited

/-- What has been read of a command line. -/
structure Draft where
  isVerbose : Bool := false
  settings : Option Text := none
  /-- The name of the command and the words after it. -/
  command : List Text := []
  terms : List Text := []
  globs : List Text := []
  patterns : List Text := []
  depth : Option Int := none
  operation : Option EditOperation := none
  key : Option Text := none
  value : Option Text := none
  host : Text := "127.0.0.1".toList
  port : Int := 8000
  /-- Some words belong to nothing. -/
  hasStrays : Bool := false
deriving DecidableEq, Repr, Inhabited

namespace Draft

/-- An integer, or a rejection. -/
def integer (words : List Text) : Except Rejection Int :=
  match words with
  | [word] =>
      match Text.readInteger? word with
      | some n => .ok n
      | none => .error .misused
  | _ => .error .misused

/-- Note what is given. -/
def note (draft : Draft) (words : List Text) : Topic → Except Rejection Draft
  | .help => .error .helpWanted
  | .verbose => .ok { draft with isVerbose := true }
  | .settings => .ok { draft with settings := words.head? }
  | .command => .ok { draft with command := words }
  | .terms => .ok { draft with terms := words }
  | .globs => .ok { draft with globs := draft.globs ++ words }
  | .patterns => .ok { draft with patterns := draft.patterns ++ words }
  | .depth => (integer words).map fun n => { draft with depth := some n }
  | .operation =>
      match words.head?.bind EditOperation.ofText? with
      | some operation => .ok { draft with operation }
      | none => .error .misused
  | .key => .ok { draft with key := words.head? }
  | .value => .ok { draft with value := words.head? }
  | .host => .ok { draft with host := words.headD [] }
  | .port => (integer words).map fun port => { draft with port }

/-- Note everything that is found, in order. -/
def noteAll (draft : Draft) : List (Finding Topic) → Except Rejection Draft
  | [] => .ok draft
  | .given topic words :: rest => do noteAll (← draft.note words topic) rest
  | .stray :: rest => noteAll { draft with hasStrays := true } rest
  | .broken :: _ => .error .misused

end Draft

/-- What is to be done. -/
inductive Command where
  | fetch (request : Bundle.Request)
  | config (operation : EditOperation) (key value : Option Text)
  | tools
  | serve (host : Text) (port : Int)
deriving DecidableEq, Repr, Inhabited

/-- A command with what holds for all commands. -/
structure Invocation where
  command : Command
  isVerbose : Bool := false
  /-- The settings file that is asked for. -/
  settings : Option Text := none
deriving DecidableEq, Repr, Inhabited

namespace Invocation

/-- The command that a draft is about. -/
def commandOf (draft : Draft) : Verb → Except Rejection Command
  | .fetch =>
      if draft.terms.isEmpty then .error .misused
      else .ok (.fetch {
        terms := draft.terms
        globs := draft.globs
        patterns := draft.patterns
        depth := draft.depth })
  | .config =>
      match draft.operation with
      | some operation => .ok (.config operation draft.key draft.value)
      | none => .error .misused
  | .tools => .ok .tools
  | .serve => .ok (.serve draft.host draft.port)

/-- The invocation that a command line makes. -/
def ofWords (words : List Text) : Except Rejection Invocation := do
  let first ← ({} : Draft).noteAll (grammar.read words)
  match first.command with
  | [] => throw .misused
  | name :: rest =>
      match Verb.ofText? name with
      | none => throw .misused
      | some verb =>
          let draft ← first.noteAll (verb.grammar.read rest)
          if draft.hasStrays then throw .misused
          return {
            command := ← commandOf draft verb
            isVerbose := draft.isVerbose
            settings := draft.settings }

end Invocation
end CommandLine
end Codemap
