import Codemap.CommandLine.Outcome
import Codemap.Proofs.Settings.Change
import Codemap.Service.Answer

namespace Codemap

/-!
# Attempts to edit the settings

The settings are edited from the command line and over the service.  Both load the settings
first, and then let an editor carry out an operation on the file that these come from; a
command also opens the log file in between and adds records to it in the end.  So whatever
succeeds has been an edit under settings that were loaded.
-/

open Yaml

/-- An operation on a settings file, with all that goes with it. -/
structure Wish where
  operation : EditOperation
  key : Text
  value : Document
  item : Document

namespace Wish

/-- The change that an operation makes; asking for a value makes none. -/
def change? (wish : Wish) : Option Edit.Change :=
  let item := if wish.item.root = .null then wish.value else wish.item
  match wish.operation with
  | .get => none
  | .set => some (.set wish.key wish.value)
  | .delete => some (.delete wish.key)
  | .add => some (.add wish.key item)
  | .remove => some (.remove wish.key item)

/-- What an edit comes to that gives a document. -/
theorem tree_of_completeWith {tree : Tree} {done : Except SettingsFault (Document × Tree)}
    {text : Text} (succeeded : (Editor.completeWith tree done).result = .ok text) :
    done.map Prod.snd = .ok (Editor.completeWith tree done).tree := by
  cases done with
  | error why => cases succeeded
  | ok made => rfl

/-- What an edit comes to that may find nothing. -/
theorem tree_of_completeIfFound {editor : Editor} {tree : Tree} {missing text : Text}
    {done : Except SettingsFault (Bool × Tree)}
    (succeeded : (editor.completeIfFound tree missing done).result = .ok text) :
    done.map Prod.snd = .ok (editor.completeIfFound tree missing done).tree := by
  rcases done with why | ⟨found, after⟩
  · cases succeeded
  · cases found <;> rfl

/-- An operation that succeeds has carried out its change. -/
theorem tree_of_apply {editor : Editor} {tree : Tree} {wish : Wish} {text : Text}
    (applied : (editor.apply tree wish.operation wish.key wish.value wish.item).result = .ok text) :
    let after := (editor.apply tree wish.operation wish.key wish.value wish.item).tree
    match wish.change? with
    | none => after = tree
    | some change => editor.carryOut tree change = .ok after := by
  obtain ⟨operation, key, value, item⟩ := wish
  cases operation with
  | get => rfl
  | set | add => exact tree_of_completeWith applied
  | delete | remove => exact tree_of_completeIfFound applied

end Wish

/-! ## From the command line -/

namespace CommandLine

variable {environment : Environment} {settings : Settings} {tree : Tree} {isVerbose : Bool}
  {operation : EditOperation} {key value : Option Text} {invocation : Invocation}

/-- The document of a value on the command line; the null value if it is missing. -/
def givenDocument : Option Text → Except Yaml.Fault Document
  | some text => Document.ofGiven text
  | none => .ok { root := .null }

/-- A command that ends with zero has loaded the settings and opened the log, and its records
have been added in the end. -/
theorem run_succeeded (succeeded : (run environment tree invocation).outcome.map (·.status) = .ok 0) :
    ∃ settings ready,
      Settings.load environment tree (invocation.settings.map Path.ofText) = .ok settings ∧
      openLog settings tree = .ok ready ∧
      (perform environment settings ready invocation).outcome.map (·.status) = .ok 0 ∧
      (run environment tree invocation).tree =
        addRecords settings environment.now (perform environment settings ready invocation).records
          (perform environment settings ready invocation).tree := by
  rw [run] at succeeded ⊢
  cases loaded : Settings.load environment tree (invocation.settings.map Path.ofText) with
  | error why =>
      rw [loaded] at succeeded
      cases why <;> cases succeeded
  | ok settings =>
      rw [loaded] at succeeded
      dsimp only at succeeded ⊢
      cases opened : openLog settings tree with
      | error why =>
          rw [opened] at succeeded
          cases succeeded
      | ok ready =>
          rw [opened] at succeeded
          exact ⟨settings, ready, rfl, opened, succeeded, rfl⟩

/-- An edit depends on the value as a document, and on what the editor makes of it. -/
theorem config_eq (settings : Settings) (tree : Tree) (isVerbose : Bool) (operation : EditOperation)
    (key value : Option Text) : config settings tree isVerbose operation key value =
      match givenDocument value with
      | .error why => { outcome := .error (.document why), tree }
      | .ok document => completeEdit isVerbose settings.file
          (Editor.apply { file := settings.file } tree operation (key.getD []) document document) := by
  cases value <;> rfl

/-- A command for an edit that ends with zero has an answer. -/
theorem completeEdit_succeeded {file : Path} {done : Editor.Completion}
    (succeeded : (completeEdit isVerbose file done).outcome.map (·.status) = .ok 0) :
    ∃ text, done.result = .ok text := by
  rw [completeEdit] at succeeded
  cases ended : done.result with
  | ok text => exact ⟨text, rfl⟩
  | error why =>
      rw [ended] at succeeded
      cases why <;> cases succeeded

/-- A command for an edit that ends with zero has carried it out. -/
theorem config_succeeded (succeeded :
      (config settings tree isVerbose operation key value).outcome.map (·.status) = .ok 0) :
    ∃ document text, givenDocument value = .ok document ∧
      (Editor.apply { file := settings.file } tree operation (key.getD []) document
        document).result = .ok text ∧
      (config settings tree isVerbose operation key value).tree =
        (Editor.apply { file := settings.file } tree operation (key.getD []) document
          document).tree := by
  rw [config_eq] at succeeded ⊢
  cases given : givenDocument value with
  | error why =>
      rw [given] at succeeded
      cases succeeded
  | ok document =>
      rw [given] at succeeded
      obtain ⟨text, applied⟩ := completeEdit_succeeded succeeded
      exact ⟨document, text, rfl, applied, rfl⟩

end CommandLine

/-! ## Over the service -/

namespace Service

variable {environment : Environment} {settings : Settings} {settingsFile : Path} {tree : Tree}
  {request : Request} {wanted : EditRequest}

/-- A request for an edit that ends with two hundred has loaded the settings and carried the
edit out. -/
theorem answer_succeeded (path : Endpoint.ofPath? request.path = some .updateConfig)
    (body : (bodyValue? .updateConfig request.body).bind editRequest? = some wanted)
    (succeeded : (answer environment settingsFile tree request).answer.map (·.status) = .ok 200) :
    ∃ settings text, Settings.load environment tree (some settingsFile) = .ok settings ∧
      (Editor.apply { file := settings.file } tree wanted.operation (wanted.key.getD [])
        wanted.value wanted.item).result = .ok text ∧
      (answer environment settingsFile tree request).tree =
        (Editor.apply { file := settings.file } tree wanted.operation (wanted.key.getD [])
          wanted.value wanted.item).tree := by
  obtain ⟨value, parsed, made⟩ := Option.bind_eq_some_iff.mp body
  rw [answer, path] at succeeded ⊢
  dsimp only at succeeded ⊢
  split at succeeded
  · cases succeeded
  · next method =>
      rw [if_neg method, if_neg (by decide), parsed]
      rw [if_neg (by decide), parsed] at succeeded
      dsimp only at succeeded ⊢
      cases loaded : Settings.load environment tree (some settingsFile) with
      | error why =>
          rw [loaded] at succeeded
          cases why <;> cases succeeded
      | ok settings =>
          rw [loaded] at succeeded
          simp only [answerUnder, made, answerEdit] at succeeded ⊢
          cases applied : (Editor.apply { file := settings.file } tree wanted.operation
              (wanted.key.getD []) wanted.value wanted.item).result with
          | error why =>
              rw [applied] at succeeded
              cases why <;> cases succeeded
          | ok text => exact ⟨settings, text, rfl, applied, rfl⟩

end Service

/-! ## Attempts -/

/-- An attempt to edit the settings: the words of a command that is given at some time, or a
request to a service that has a settings file. -/
inductive Attempt where
  | byCommand (now : Text) (words : List Text)
  | byRequest (settingsFile : Path) (request : Service.Request)

namespace Attempt

/-- The settings file that an attempt asks for. -/
def asked : Attempt → Option Path
  | .byCommand _ words =>
      (CommandLine.Invocation.ofWords words).toOption.bind fun invocation =>
        invocation.settings.map Path.ofText
  | .byRequest settingsFile _ => some settingsFile

/-- What an attempt is to do to the settings; nothing if it is no edit of them. -/
def wish? : Attempt → Option Wish
  | .byCommand _ words =>
      match CommandLine.Invocation.ofWords words with
      | .ok { command := .config operation key value, .. } =>
          (CommandLine.givenDocument value).toOption.map fun document =>
            { operation, key := key.getD [], value := document, item := document }
      | _ => none
  | .byRequest _ request =>
      if Service.Endpoint.ofPath? request.path = some .updateConfig then
        ((Service.bodyValue? .updateConfig request.body).bind Service.editRequest?).map fun wanted =>
          { operation := wanted.operation, key := wanted.key.getD []
            value := wanted.value, item := wanted.item }
      else none

/-- The files after an attempt. -/
def after (environment : Environment) (tree : Tree) : Attempt → Tree
  | .byCommand now words => (CommandLine.runWords { environment with now } tree words).tree
  | .byRequest settingsFile request => (Service.answer environment settingsFile tree request).tree

/-- An attempt is successful: the command ends with zero, the request with two hundred. -/
def Succeeds (environment : Environment) (tree : Tree) : Attempt → Prop
  | .byCommand now words =>
      (CommandLine.runWords { environment with now } tree words).outcome.map (·.status) = .ok 0
  | .byRequest settingsFile request =>
      (Service.answer environment settingsFile tree request).answer.map (·.status) = .ok 200

instance (environment : Environment) (tree : Tree) (attempt : Attempt) :
    Decidable (attempt.Succeeds environment tree) :=
  match attempt with
  | .byCommand _ _ => inferInstanceAs (Decidable (_ = _))
  | .byRequest _ _ => inferInstanceAs (Decidable (_ = _))

variable {environment : Environment} {tree : Tree} {attempt : Attempt} {wish : Wish}

/-- The files between the loading of the settings and the edit. -/
inductive Opened (settings : Settings) (tree : Tree) : Tree → Prop
  | still : Opened settings tree tree
  | logged {ready : Tree} (opened : CommandLine.openLog settings tree = .ok ready) :
      Opened settings tree ready

/-- The files when an edit has ended, and those when the attempt has. -/
inductive Closed (settings : Settings) (tree : Tree) : Tree → Prop
  | still : Closed settings tree tree
  | logged (now : Text) (records : List Notice) :
      Closed settings tree (CommandLine.addRecords settings now records tree)

/-- An attempt that succeeds has loaded the settings and carried out an operation on the file
that they come from; before and after it there is only the log. -/
theorem applied_of_succeeds (wished : attempt.wish? = some wish)
    (succeeds : attempt.Succeeds environment tree) : ∃ settings ready text,
      Settings.load environment tree attempt.asked = .ok settings ∧ Opened settings tree ready ∧
      (Editor.apply { file := settings.file } ready wish.operation wish.key wish.value
        wish.item).result = .ok text ∧
      Closed settings (Editor.apply { file := settings.file } ready wish.operation wish.key
        wish.value wish.item).tree (attempt.after environment tree) := by
  cases attempt with
  | byCommand now words =>
      simp only [Succeeds, after, asked, wish?, CommandLine.runWords] at wished succeeds ⊢
      cases read : CommandLine.Invocation.ofWords words with
      | error why =>
          rw [read] at wished
          cases wished
      | ok invocation =>
          rw [read] at wished succeeds
          obtain ⟨command, isVerbose, asksFor⟩ := invocation
          cases command with
          | config operation key value =>
              obtain ⟨settings, ready, loaded, opened, performed, closed⟩ :=
                CommandLine.run_succeeded succeeds
              obtain ⟨document, text, given, applied, ended⟩ :=
                CommandLine.config_succeeded performed
              dsimp only at wished ⊢
              rw [given] at wished
              cases wished
              refine ⟨settings, ready, text, loaded, .logged opened, applied, ?_⟩
              rw [closed, ← ended]
              exact .logged now _
          | _ => cases wished
  | byRequest settingsFile request =>
      rw [wish?] at wished
      split at wished
      · next path =>
          obtain ⟨wanted, body, rfl⟩ := Option.map_eq_some_iff.mp wished
          obtain ⟨settings, text, loaded, applied, ended⟩ :=
            Service.answer_succeeded path body succeeds
          refine ⟨settings, tree, text, loaded, .still, applied, ?_⟩
          rw [after, ended]
          exact .still
      · cases wished

end Attempt
end Codemap
