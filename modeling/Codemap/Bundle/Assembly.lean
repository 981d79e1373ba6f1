import Codemap.Bundle.Markdown
import Codemap.Bundle.Request
import Codemap.Cache.Store
import Codemap.Import.References
import Codemap.Search.Matching
import Codemap.Source.File

namespace Codemap

/-!
# Making bundles

For every chosen directory the matching files are found, then the files that import
them.  If a bundle is kept for these files as they are, it is used; otherwise the
outlines of the files are written into a new bundle, which is then kept.

What goes wrong with one directory becomes its section of the answer.  Only faults that
are not about files end the whole run.
-/

namespace Bundle

/-- Why a directory cannot be described. -/
inductive Fault where
  | search (why : Search.Fault)
  | imports (why : Import.ResolveFault)
  | selection (why : SelectionFault)
  /-- The number of levels has too many digits for a text, and bundles are kept under texts. -/
  | depthTooLong
deriving DecidableEq, Repr, Inhabited

/-- What storage refuses for a path. -/
def refusal (why : StorageFault) (path : Text) : Text :=
  (Search.Fault.storage why path).message

/-- The wording of a fault of a scalar. -/
def scalarMessage : Yaml.ScalarFault → Text
  | .notAnInteger base text =>
      "invalid literal for int() with base ".toList ++ Text.ofNat base ++ ": ".toList ++
        Search.quoted text
  | .tooManyDigits count =>
      (Pattern.PatternFault.tooManyDigits count).message
  | .notAFloat text => "could not convert string to float: ".toList ++ Search.quoted text
  | .emptyNumber => "string index out of range".toList
  | .unknownTruth text => Search.quoted text
  | .notATimestamp => "\x27NoneType\x27 object has no attribute \x27groupdict\x27".toList
  | .timestampOfMapping => "expected string or bytes-like object, got \x27list\x27".toList
  | .yearOutOfRange year => "year ".toList ++ Text.ofNat year ++ " is out of range".toList
  | .monthOutOfRange => "month must be in 1..12".toList
  | .dayOutOfRange => "day is out of range for month".toList
  | .hourOutOfRange => "hour must be in 0..23".toList
  | .minuteOutOfRange => "minute must be in 0..59".toList
  | .secondOutOfRange => "second must be in 0..59".toList
  | .offsetOutOfRange =>
      "offset must be a timedelta strictly between ".toList ++
        "-timedelta(hours=24) and timedelta(hours=24)".toList
  | .weightTooLarge => "int too large to convert to float".toList
  | .noSuchCodePoint => "chr() arg not in range(0x110000)".toList
  | .codePointTooLarge => "code point too large".toList

namespace Fault

/-- The wording of a fault. -/
def message : Fault → Text
  | .search why => why.message
  | .imports (.storage why path) => refusal why path
  | .imports (.emptyName path) =>
      Search.quoted path ++ " has an empty name".toList
  | .imports (.document (.scalar why)) => scalarMessage why
  | .imports (.document .malformed) => "malformed document".toList
  | .imports (.document .nestedTooDeeply) => "maximum recursion depth exceeded".toList
  | .selection why => refusal why.why why.path
  | .depthTooLong =>
      "Exceeds the limit (4300 digits) for integer string conversion; ".toList ++
        "use sys.set_int_max_str_digits() to increase the limit".toList

/-- The fault is about files, so it ends the work on one directory only. -/
def isAboutFiles : Fault → Bool
  | .search (.pattern _) => false
  | .search _ => true
  | .imports (.storage _ _) => true
  | .imports _ => false
  | .selection _ | .depthTooLong => false

end Fault

/-- What a run leaves: its result, the files after it, and what it had to tell. -/
structure Run (α : Type) where
  result : α
  tree : Tree
  notices : List Notice := []
deriving Inhabited

/-- The files a bundle is about. -/
structure Files where
  matched : List Text
  referencing : List Text := []
  notices : List Notice := []
deriving Inhabited

namespace Files

/-- All files, the matched ones first. -/
def all (files : Files) : List Text :=
  files.matched ++ files.referencing

end Files

/-- How far imports are followed. -/
def depthOf (settings : Settings) (request : Request) : Int :=
  request.depth.getD settings.depth

/-- The globs of a search. -/
def globsOf (request : Request) : List Text :=
  if request.globs.isEmpty then Search.everyFile else request.globs

/-- Find the files a bundle is about. -/
def findFiles (settings : Settings) (request : Request) (tree : Tree) (directory : Path) :
    Except Fault Files := do
  let globs := globsOf request
  let matched ←
    match Search.find tree directory globs request.patterns settings.excluded with
    | .ok found => pure found
    | .error why => throw (.search why)
  let notices := Search.notices tree directory globs request.patterns settings.excluded
  let depth := depthOf settings request
  if matched.isEmpty || depth = 0 then return { matched, notices }
  match Import.references tree (matched.map Path.ofText) directory depth settings.excluded with
  | .ok found =>
      return {
        matched
        referencing := Import.referencing found
        notices := notices ++ Import.levelNotices found }
  | .error why => throw (.imports why)

/-- The request under which a bundle is kept. -/
def cacheRequest (settings : Settings) (request : Request) (tree : Tree) (directory : Path) :
    Cache.Request where
  directory := (Path.resolve tree.current directory).text
  globs := request.globs
  patterns := request.patterns
  depth := some (depthOf settings request)

/-- The names of description files, in the order in which they are tried. -/
def readmeNames : List Text :=
  ["README.md", "readme.md", "README.MD"].map String.toList

/-- The path of the description file of a directory. -/
def readmePath? (tree : Tree) (directory : Path) : Option Path :=
  (readmeNames.map directory.child).find? tree.isFile

/-- The description file of a directory. -/
def readmeOf (tree : Tree) (directory : Path) : Readme :=
  match readmePath? tree directory with
  | none => .absent
  | some path =>
      match tree.readText path with
      | .ok text => .text text
      | .error _ => .unreadable

/-- What reading the description file of a directory has to tell. -/
def readmeNotices (tree : Tree) (directory : Path) : List Notice :=
  match readmePath? tree directory with
  | none => []
  | some path =>
      match tree.readText path with
      | .ok _ => []
      | .error why =>
          [.debug ("Could not read README ".toList ++ path.text ++ ": ".toList ++
            Outline.failure path why)]

/-- The content of a bundle. -/
def contentOf (environment : Environment) (tree : Tree) (directory : Path) (files : Files) :
    Content :=
  let item (file : Text) : Item := ⟨file, Outline.ofFile tree (Path.ofText file)⟩
  { name := directory.name
    generated := environment.now
    readme := readmeOf tree directory
    matched := files.matched.map item
    referencing := files.referencing.map item
    root := some (Path.resolve tree.current directory) }

/-- Texts with commas between them, or a word for none. -/
def listed (texts : List Text) : Text :=
  List.intercalate ", ".toList texts

/-- Texts with commas between them; `None` if nothing is to be seen. -/
def listedOrNone (texts : List Text) : Text :=
  let shown := listed texts
  if shown.isEmpty then "None".toList else shown

/-- The section of a directory without matching files. -/
def nothingFound (request : Request) (directory : Path) : Text :=
  heading 1 ("Directory Analysis: ".toList ++ directory.name) ++
    line "No files found matching the specified patterns.".toList ++ ['\n'] ++
    line ("**Glob patterns:** ".toList ++ listedOrNone request.globs) ++
    line ("**Regex patterns:** ".toList ++ listedOrNone request.patterns)

/-- The section of a directory with which something went wrong. -/
def failed (request : Request) (directory : Path) (why : Fault) : Text :=
  heading 1 ("Error analyzing ".toList ++ directory.name) ++
    line ("**Search terms:** ".toList ++ listed request.terms) ++ ['\n'] ++
    line ("**Error:** ".toList ++ why.message)

/-- Make a new bundle and keep it. -/
def makeNew (environment : Environment) (settings : Settings) (request : Request) (tree : Tree)
    (directory : Path) (files : Files) : Run Text :=
  let text := render (contentOf environment tree directory files)
  let analysing := Notice.pipeline .info ("Analysing ".toList ++ directory.name ++ ": ".toList ++
    Text.ofNat files.matched.length ++ " matched, ".toList ++
    Text.ofNat files.referencing.length ++ " referencing file(s)".toList)
  let reading := Outline.notices tree (files.all.map Path.ofText) ++ readmeNotices tree directory
  let (kept, after) := Cache.store settings.cacheDirectory tree
    (cacheRequest settings request tree directory) files.all text environment.now
  let storing := match kept with
    | .ok _ => []
    | .error why =>
        [.pipeline .warning ("Could not cache context for ".toList ++ directory.name ++
          ": ".toList ++ refusal why settings.cacheDirectory.text)]
  { result := text, tree := after, notices := analysing :: reading ++ storing }

/-- The section of a directory. -/
def sectionOf (environment : Environment) (settings : Settings) (request : Request) (tree : Tree)
    (directory : Path) : Run (Except Fault Text) :=
  match findFiles settings request tree directory with
  | .error why =>
      if why.isAboutFiles then
        { result := .ok (failed request directory why)
          tree
          notices := [.pipeline .error ("Failed to analyse ".toList ++ directory.text ++
            ": ".toList ++ why.message)] }
      else { result := .error why, tree }
  | .ok files =>
      if files.matched.isEmpty && !(request.globs.isEmpty && request.patterns.isEmpty) then
        { result := .ok (nothingFound request directory), tree, notices := files.notices }
      else if Text.isTooLong (depthOf settings request) then
        { result := .error .depthTooLong, tree, notices := files.notices }
      else
        let asked := cacheRequest settings request tree directory
        let looking := files.notices ++
          Cache.lookupNotices settings.cacheDirectory tree asked files.all
        match Cache.lookup settings.cacheDirectory tree asked files.all with
        | some text =>
            { result := .ok text
              tree
              notices := looking ++
                [.pipeline .info ("Using cached context for ".toList ++ directory.name)] }
        | none =>
            let made := makeNew environment settings request tree directory files
            { result := .ok made.result, tree := made.tree, notices := looking ++ made.notices }

/-- The sections of several directories, one after the other.  A fault that is not about
files ends the run. -/
def sectionsOf (environment : Environment) (settings : Settings) (request : Request) (tree : Tree) :
    List Path → Run (Except Fault (List Text))
  | [] => { result := .ok [], tree }
  | directory :: rest =>
      let first := sectionOf environment settings request tree directory
      match first.result with
      | .error why => { result := .error why, tree := first.tree, notices := first.notices }
      | .ok text =>
          let others := sectionsOf environment settings request first.tree rest
          { result := others.result.map (text :: ·)
            tree := others.tree
            notices := first.notices ++ others.notices }

/-- What stands between sections. -/
def separator : Text := "\n\n---\n\n".toList

/-- The answer when no directory is chosen. -/
def noDirectories (settings : Settings) (request : Request) : Text :=
  heading 1 "No directories found matching search terms".toList ++
    line ("**Search terms:** ".toList ++ listed request.terms) ++
    line ("**Configured directories:** ".toList ++
      listedOrNone (settings.searchable.map Path.name))

/-- Answer a request. -/
def fetch (environment : Environment) (settings : Settings) (request : Request) (tree : Tree) :
    Run (Except Fault Text) :=
  let choosing :=
    if (usableTerms request.terms).isEmpty then [] else selectNotices tree settings.searchable
  match select settings tree request.terms with
  | .error why => { result := .error (.selection why), tree, notices := choosing }
  | .ok [] =>
      { result := .ok (noDirectories settings request)
        tree
        notices := choosing ++
          [.pipeline .info ("No directories matched ".toList ++ listed request.terms)] }
  | .ok directories =>
      let run := sectionsOf environment settings request tree directories
      { result := run.result.map (List.intercalate separator)
        tree := run.tree
        notices := choosing ++ run.notices }

end Bundle
end Codemap
