import Codemap.Number.Shortest
import Codemap.Settings.Fault

namespace Codemap

/-!
# Settings

The settings say where to look for code, where bundles are kept, and how far imports
are followed.  They are read from a file; a file that does not exist yields the
settings that hold by default.

Relative paths in the file start from the directory of the file, those of searchable
directories from the base path.  A value of the wrong kind counts as absent.

The checks are made in a fixed order, and the first that fails decides.
-/

/-- The settings of a run. -/
structure Settings where
  /-- The directory of the settings file. -/
  root : Path
  file : Path
  /-- Where relative searchable directories start. -/
  base : Path
  searchable : List Path := []
  cacheDirectory : Path
  /-- How many levels of importing files are followed; minus one for all. -/
  depth : Int := -1
  workers : Int := 10
  excluded : List Text := []
  logFile : Option Path := none
deriving DecidableEq, Repr, Inhabited

/-- What a run knows about its surroundings beside the files. -/
structure Environment where
  home : Path
  /-- The home directories of named users. -/
  homes : List (Text × Path) := []
  /-- The settings file that the environment names. -/
  settingsFile : Option Text := none
  /-- The current time as a text. -/
  now : Text := []
deriving DecidableEq, Repr, Inhabited

namespace Environment

/-- Replace a tilde at the beginning of a path by a home directory. -/
def expandHome (environment : Environment) (path : Path) : Except SettingsFault Path :=
  match path.root, path.names with
  | .relative, ('~' :: user) :: rest =>
      let found := if user.isEmpty then some environment.home
        else (environment.homes.find? fun entry => entry.1 == user).map (·.2)
      match found with
      | some home => .ok { home with names := home.names ++ rest }
      | none => .error .unknownHome
  | _, _ => .ok path

end Environment

namespace Settings

open Yaml (Content)

/-- The name of a settings file. -/
def fileName : Text := "localctx.yml".toList

/-- The directory for bundles below the root that holds without a setting. -/
def defaultCache : List Text := [".localctx".toList, "cache".toList]

/-- The true place of a path; no file system takes a null character. -/
def truePath (tree : Tree) (path : Path) : Except SettingsFault Path :=
  if path.names.any fun name => name.contains '\x00' then .error .nulInPath
  else .ok (Path.resolve tree.current path)

/-- What a path leads to. -/
def status (tree : Tree) (path : Path) : Except SettingsFault (Option Entry) :=
  match tree.status path with
  | .ok found => .ok found
  | .error why => .error (.storage why)

/-- The settings file: the one asked for, the one the environment names, or the one in
the current directory.  A directory stands for the file in it. -/
def locate (environment : Environment) (tree : Tree) (asked : Option Path) :
    Except SettingsFault Path := do
  let named := environment.settingsFile.bind fun text =>
    if text.isEmpty then none else some (Path.ofText text)
  let path ← environment.expandHome ((asked.orElse fun _ => named).getD tree.current)
  match ← status tree path with
  | some (.directory _) => truePath tree (path.child fileName)
  | _ => truePath tree path

/-- Read the document of a settings file.  A file that is missing or blank, or that
holds the null value, is an empty mapping. -/
def readDocument (tree : Tree) (file : Path) : Except SettingsFault Yaml.Document :=
  match tree.readText file with
  | .error (.storage .missing) => .ok Yaml.Document.emptyMapping
  | .error (.storage why) => .error (.refused (.unreadable file.name why))
  | .error (.undecodable failure) => .error (.undecodable failure)
  | .ok text =>
      if text.isBlankText then .ok Yaml.Document.emptyMapping
      else
        match Yaml.Document.ofText text with
        | .error .malformed => .error (.refused (.malformed file.name))
        | .error why => .error (.document why)
        | .ok document =>
            match document.root with
            | .null => .ok Yaml.Document.emptyMapping
            | .ref id =>
                match document.object id with
                | .mapping _ => .ok document
                | _ => .error (.refused (.noMapping file.name))
            | _ => .error (.refused (.noMapping file.name))

/-! ## Values of settings -/

/-- The text of a text or a number. -/
def textOf? : Yaml.Value → Option Content
  | .str text => some (.whole text)
  | .torn points => some (.torn points)
  | .int n => some (.whole (Text.ofInt n))
  | .float x => some (.whole x.text)
  | _ => none

/-- The text of an item of a list: a text, a number or a truth value. -/
def itemText? : Yaml.Value → Option Content
  | .bool b => some (.whole (if b then "True".toList else "False".toList))
  | value => textOf? value

/-- The items of a list; a single text is a list of one, and bytes are a list of
numbers. -/
def itemsOf (document : Yaml.Document) : Yaml.Value → List Yaml.Value
  | .str text => [.str text]
  | .torn points => [.torn points]
  | .bytes content => content.map fun b => .int b.toNat
  | .ref id =>
      match document.object id with
      | .list items => items
      | .pair first second => [first, second]
      | _ => []
  | _ => []

/-- The texts of the items of a list. -/
def textsOf (document : Yaml.Document) (value : Yaml.Value) : List Content :=
  (itemsOf document value).filterMap itemText?

/-- The value is an integer with too many digits for a text. -/
def isTooLong : Yaml.Value → Bool
  | .int n => Text.isTooLong n
  | _ => false

/-- No value is too long for a text. -/
def checkLengths (values : List Yaml.Value) : Except SettingsFault Unit :=
  if values.any isTooLong then .error .numberTooLong else .ok ()

/-- The integer of an integer or of a text that writes one. -/
def integerOf? : Yaml.Value → Option Int
  | .int n => some n
  | .str text => Text.readInteger? text
  | _ => none

/-- The entries of a document that is a mapping. -/
def entriesOf (document : Yaml.Document) : List (Yaml.Value × Yaml.Value) :=
  match document.root with
  | .ref id =>
      match document.object id with
      | .mapping entries => entries
      | _ => []
  | _ => []

/-! ## Paths of settings -/

/-- A surrogate that stands for no byte of a name. -/
def isLost (point : Nat) : Bool :=
  Content.isSurrogate point && !(0xDC80 ≤ point && point ≤ 0xDCFF)

/-- What is wrong with a name, for every file system. -/
def nameFault? (name : List Nat) : Option SettingsFault :=
  if name.any isLost then some .lostSurrogate
  else if name.contains 0 then some .nulInPath
  else none

/-- The first name with a fault decides. -/
def checkNames (names : List (List Nat)) : Except SettingsFault Unit :=
  match names.findSome? nameFault? with
  | some why => .error why
  | none => .ok ()

/-- The name of a user whose home directory a path begins with. -/
def userNames (content : Content) : List (List Nat) :=
  let path := Path.ofText content.text
  match path.root, path.names with
  | .relative, ('~' :: _) :: _ => content.names.take 1
  | _, _ => []

/-- The place of a path in the settings, as seen from a directory.  The name of a user is
looked at before the others.  In the place of surrogates that stand for bytes the path has
the replacement character, since no name of a file is anything but a text here. -/
def placeOf (environment : Environment) (tree : Tree) (start : Path) (content : Content) :
    Except SettingsFault Path := do
  checkNames (userNames content)
  let path ← environment.expandHome (Path.ofText content.text)
  checkNames content.names
  truePath tree (start.join path)

/-- The place of a path that may be missing. -/
def placeOf? (environment : Environment) (tree : Tree) (start : Path) :
    Option Content → Except SettingsFault (Option Path)
  | some content => (placeOf environment tree start content).map some
  | none => .ok none

/-! ## Settings of a document -/

/-- The value that a document has for a setting. -/
def setting (document : Yaml.Document) (name : String) : Yaml.Value :=
  (Yaml.Value.look? (entriesOf document) (.str name.toList)).getD .null

/-- The path that a document has for a setting; an empty one counts as absent. -/
def pathSetting? (document : Yaml.Document) (name : String) : Option Content :=
  (textOf? (setting document name)).filter fun content => !content.text.isEmpty

/-- The items that a document has for a setting. -/
def itemsSetting (document : Yaml.Document) (name : String) : List Yaml.Value :=
  itemsOf document (setting document name)

/-- The settings that a document makes for a settings file. -/
def ofDocument (environment : Environment) (tree : Tree) (file : Path)
    (document : Yaml.Document) : Except SettingsFault Settings := do
  let root := file.parent
  let place? (name : String) : Except SettingsFault (Option Path) :=
    placeOf? environment tree root (pathSetting? document name)
  checkLengths [setting document "repo_base_path"]
  let base := (← place? "repo_base_path").getD root
  checkLengths (itemsSetting document "searchable_directories")
  let searchable ←
    (textsOf document (setting document "searchable_directories")).mapM
      (placeOf environment tree base)
  checkLengths [setting document "cache_dir", setting document "log_file"]
  let depth := (integerOf? (setting document "reference_depth")).getD (-1)
  if depth < -1 then throw (.refused .depthTooSmall)
  let workers := (integerOf? (setting document "max_workers")).getD 10
  if workers < 1 then throw (.refused .tooFewWorkers)
  let cache ← place? "cache_dir"
  checkLengths (itemsSetting document "exclude_dirs")
  let log ← place? "log_file"
  return {
    root, file, base, searchable, depth, workers
    cacheDirectory := cache.getD { root with names := root.names ++ defaultCache }
    excluded := (textsOf document (setting document "exclude_dirs")).filterMap Content.whole?
    logFile := log }

/-- Load the settings. -/
def load (environment : Environment) (tree : Tree) (asked : Option Path) :
    Except SettingsFault Settings := do
  let file ← locate environment tree asked
  let root := file.parent
  match ← status tree file with
  | none =>
      return {
        root, file
        base := root
        cacheDirectory := { root with names := root.names ++ defaultCache } }
  | some _ => ofDocument environment tree file (← readDocument tree file)

end Settings
end Codemap
