import Codemap.Bundle.Assembly
import Codemap.Bundle.Reference
import Codemap.Service.Body
import Codemap.Settings.Editor

namespace Codemap
namespace Service

/-!
# Answers of the service

The service answers requests one by one.  Except for the question whether it is well,
every answer begins with loading the settings, so that a change of them holds from the
next request on.  Settings that are refused are answered by their refusal, whatever the
body of the request; a refused edit is answered likewise.
-/

/-- A request to the service. -/
structure Request where
  method : Text
  path : Text
  body : Text := []
deriving DecidableEq, Repr, Inhabited

/-- An answer of the service. -/
structure Answer where
  status : Nat := 200
  content : Json
deriving Repr, Inhabited

/-- Why a request ends without an answer. -/
inductive Fault where
  | settings (why : SettingsFault)
  | bundle (why : Bundle.Fault)
deriving DecidableEq, Repr, Inhabited

/-- What can be asked. -/
inductive Endpoint where
  | health
  | fetchContext
  | updateConfig
  | tools
deriving DecidableEq, Repr, Inhabited

namespace Endpoint

/-- The path of an endpoint. -/
def path : Endpoint → String
  | .health => "/health"
  | .fetchContext => "/fetch-context"
  | .updateConfig => "/update-config"
  | .tools => "/tools"

/-- The method by which an endpoint is asked. -/
def method : Endpoint → String
  | .health | .tools => "GET"
  | .fetchContext | .updateConfig => "POST"

/-- All endpoints. -/
def all : List Endpoint :=
  [.health, .fetchContext, .updateConfig, .tools]

/-- The endpoint with a path.  What stands after a question mark does not count, and
neither do slashes at the end. -/
def ofPath? (path : Text) : Option Endpoint :=
  let plain := Text.dropTrailing (· == '/') (path.takeWhile (· != '?'))
  all.find? fun endpoint => endpoint.path.toList == plain

end Endpoint

namespace Answer

/-- A result under a name. -/
def result (name : String) (text : Text) : Answer where
  content := .obj [(name.toList, .str text)]

/-- A failure with its reason. -/
def failure (status : Nat) (detail : Text) : Answer where
  status
  content := .obj [("detail".toList, .str detail)]

/-- The answer to a refusal by the settings. -/
def refused (why : Refusal) : Answer :=
  failure 400 why.message

/-- The answer to a body that is not understood. -/
def unprocessable : Answer :=
  failure 422 "Unprocessable Content".toList

end Answer

/-- A request that was dealt with: its answer, and the files after it. -/
structure Completion where
  answer : Except Fault Answer
  tree : Tree
deriving Inhabited

namespace Completion

/-- An answer that leaves the files alone. -/
def unchanged (tree : Tree) (answer : Answer) : Completion where
  answer := .ok answer
  tree

/-- A fault of the settings, with the files after it, is answered if it is a refusal. -/
def ofSettingsFault (tree : Tree) : SettingsFault → Completion
  | .refused why => unchanged tree (.refused why)
  | why => { answer := .error (.settings why), tree }

end Completion

/-- Answer a request for a bundle. -/
def answerFetch (environment : Environment) (settings : Settings) (tree : Tree)
    (request : Bundle.Request) : Completion :=
  let run := Bundle.fetch environment settings request tree
  let answer := match run.result with
    | .ok text => .ok (.result "markdown" text)
    | .error why => .error (.bundle why)
  { answer, tree := run.tree }

/-- Answer a request for an edit of the settings. -/
def answerEdit (settings : Settings) (tree : Tree) (request : EditRequest) : Completion :=
  let editor : Editor := { file := settings.file }
  let done :=
    editor.apply tree request.operation (request.key.getD []) request.value request.item
  match done.result with
  | .ok text => { answer := .ok (.result "result" text), tree := done.tree }
  | .error why => .ofSettingsFault done.tree why

/-- Answer under some settings. -/
def answerUnder (environment : Environment) (settings : Settings) (tree : Tree) (body : Json) :
    Endpoint → Completion
  | .health => .unchanged tree (.result "status" "ok".toList)
  | .tools => .unchanged tree (.result "markdown" (Bundle.reference settings))
  | .fetchContext =>
      match bundleRequest? body with
      | some request => answerFetch environment settings tree request
      | none => .unchanged tree .unprocessable
  | .updateConfig =>
      match editRequest? body with
      | some request => answerEdit settings tree request
      | none => .unchanged tree .unprocessable

/-- The value of a body; an empty body is the null value. -/
def bodyValue? (endpoint : Endpoint) (body : Text) : Option Json :=
  if endpoint.method = "GET" || body.isEmpty then some .null else Json.parse? body

/-- Answer a request. -/
def answer (environment : Environment) (settingsFile : Path) (tree : Tree) (request : Request) :
    Completion :=
  match Endpoint.ofPath? request.path with
  | none => .unchanged tree (.failure 404 "Not Found".toList)
  | some endpoint =>
      if request.method ≠ endpoint.method.toList then
        .unchanged tree (.failure 405 "Method Not Allowed".toList)
      else if endpoint = .health then .unchanged tree (.result "status" "ok".toList)
      else
        match bodyValue? endpoint request.body with
        | none => .unchanged tree .unprocessable
        | some body =>
            match Settings.load environment tree (some settingsFile) with
            | .ok settings => answerUnder environment settings tree body endpoint
            | .error why => .ofSettingsFault tree why

end Service
end Codemap
