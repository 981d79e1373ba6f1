import Codemap.Files.Tree
import Codemap.Yaml.Construction

namespace Codemap

/-!
# What can be wrong with settings

The user is told what is wrong with a settings file or an edit of it: these causes
are refusals, each with its own wording.  Other faults are not the settings' own: a
text that is no text, a scalar without a value, a number that is too long, a home
directory that nobody has, a path that no file system takes.
-/

/-- An edit of the settings. -/
inductive EditOperation where
  | get
  | set
  | delete
  | add
  | remove
deriving DecidableEq, Repr, Inhabited

namespace EditOperation

/-- The operations with their names. -/
def named : List (String × EditOperation) :=
  [("get", .get), ("set", .set), ("delete", .delete), ("add", .add), ("remove", .remove)]

/-- The operation with a name. -/
def ofText? (text : Text) : Option EditOperation :=
  (named.find? fun entry => entry.1.toList == text).map (·.2)

/-- The name of an operation. -/
def name : EditOperation → String
  | .get => "get"
  | .set => "set"
  | .delete => "delete"
  | .add => "add"
  | .remove => "remove"

end EditOperation

/-- Why a settings file or an edit of it is refused. -/
inductive Refusal where
  | unreadable (file : Text) (why : StorageFault)
  | malformed (file : Text)
  | noMapping (file : Text)
  | depthTooSmall
  | tooFewWorkers
  | keyRequired (operation : EditOperation)
  | invalidKey (key : Text)
  | noAccess (key : Text)
  | noList (key : Text)
  | keyMissing (key : Text)
  | indexOutOfRange (part : Text)
  | unknownOperation (name : Text)
deriving DecidableEq, Repr, Inhabited

/-- A text between double quotes. -/
def inQuotes (text : Text) : Text :=
  '\x22' :: text ++ ['\x22']

/-- The wording of a refusal. -/
def Refusal.message : Refusal → Text
  | .unreadable file why =>
      "Could not read ".toList ++ file ++ ": ".toList ++ why.message.toList
  | .malformed file =>
      "Failed to parse ".toList ++ file ++ ": the document is malformed".toList
  | .noMapping file => file ++ " must contain a mapping at the root".toList
  | .depthTooSmall => "reference_depth must be -1 (unlimited) or a non-negative integer".toList
  | .tooFewWorkers => "max_workers must be at least 1".toList
  | .keyRequired operation =>
      "Key is required for ".toList ++ operation.name.toList ++ " operation".toList
  | .invalidKey key => "Invalid key ".toList ++ inQuotes key
  | .noAccess key => "Cannot access key ".toList ++ inQuotes key
  | .noList key => "Key ".toList ++ inQuotes key ++ " is not a list".toList
  | .keyMissing key => "Key ".toList ++ inQuotes key ++ " not found".toList
  | .indexOutOfRange part =>
      "List index ".toList ++ inQuotes part ++ " is out of range".toList
  | .unknownOperation name => "Unknown operation: ".toList ++ name

/-- Why settings cannot be read or changed. -/
inductive SettingsFault where
  | refused (why : Refusal)
  | undecodable (failure : Utf8.Failure)
  /-- The document has a scalar without a value, or is nested too deeply. -/
  | document (why : Yaml.Fault)
  | unknownHome
  | nulInPath
  /-- A surrogate in a path is not one of those that stand for a byte of a name. -/
  | lostSurrogate
  /-- An integer has too many digits for a text. -/
  | numberTooLong
  | storage (why : StorageFault)
deriving DecidableEq, Repr, Inhabited

end Codemap
