import Codemap.Files.Walk
import Codemap.Glob.Selection
import Codemap.Notice
import Codemap.Pattern.Reader

namespace Codemap

/-!
# Finding files

Files are found by the globs that their paths below a directory match, and by patterns
that their texts contain.  With globs, only the files that match a glob are looked
into; without, every file is.  The result is the union of both, as sorted paths.

A pattern that is malformed finds nothing, and neither does a file that is no text.  A glob
that is nested too deeply is refused before anything is looked for.
-/

namespace Search

/-- Why a search cannot be made. -/
inductive Fault where
  | missingBase (base : Text)
  | noDirectory (base : Text)
  | pattern (why : Pattern.PatternFault)
  | storage (why : StorageFault) (path : Text)
deriving DecidableEq, Repr, Inhabited

namespace Fault

/-- The wording of a fault. -/
def message : Fault → Text
  | .missingBase base => "Base path \x22".toList ++ base ++ "\x22 does not exist".toList
  | .noDirectory base => "Base path \x22".toList ++ base ++ "\x22 is not a directory".toList
  | .pattern why => why.message
  | .storage why path => why.message.toList ++ ": \x27".toList ++ path ++ ['\x27']

end Fault

/-- The files below a directory whose paths from there are selected by globs. -/
def byGlob (tree : Tree) (base : Path) (globs : List Text) (excluded : List Text) : List Text :=
  let selection := Glob.Selection.ofTexts globs
  let root := Path.resolve tree.current base
  if selection.isUsable then
    let found := (Walk.relativeFiles tree root excluded false).filter fun names =>
      selection.selects (List.intercalate ['/'] names)
    Text.sortedSet (found.map fun names => ({ root with names := root.names ++ names } : Path).text)
  else []

/-- The options under which patterns are read: lines have beginnings and ends. -/
def options : Pattern.Options :=
  { isMultiline := true }

/-- The patterns that can be read. -/
def readPatterns : List Text → Except Fault (List Pattern.Node)
  | [] => .ok []
  | text :: rest =>
      match Pattern.Node.ofText options text with
      | .ok node => (readPatterns rest).map (node :: ·)
      | .error .malformed => readPatterns rest
      | .error why => .error (.pattern why)

/-- The text of a file contains a match for one of the patterns. -/
def contains (tree : Tree) (patterns : List Pattern.Node) (file : Text) : Bool :=
  match tree.readText (Path.ofText file) with
  | .ok text => patterns.any fun node => (node.search? text).isSome
  | .error _ => false

/-- The files whose texts contain a match for one of the patterns. -/
def byContent (tree : Tree) (files patterns : List Text) : Except Fault (List Text) :=
  if files.isEmpty then .ok []
  else (readPatterns patterns).map fun nodes => Text.sortedSet (files.filter (contains tree nodes))

/-- The directory in which a search starts. -/
def checkBase (tree : Tree) (base : Path) : Except Fault Path :=
  match tree.status base with
  | .ok (some (.directory _)) => .ok (Path.resolve tree.current base)
  | .ok (some (.file _ _)) => .error (.noDirectory base.text)
  | .ok none => .error (.missingBase base.text)
  | .error why => .error (.storage why base.text)

/-- Every file. -/
def everyFile : List Text := ["**/*".toList]

/-- The files that are looked into. -/
def candidates (tree : Tree) (root : Path) (globs excluded : List Text) : List Text :=
  byGlob tree root (if globs.isEmpty then everyFile else globs) excluded

/-- The files below a directory that match a glob or contain a match for a pattern.
Without globs and patterns there are none. -/
def matching (tree : Tree) (base : Path) (globs patterns excluded : List Text) :
    Except Fault (List Text) := do
  let root ← checkBase tree base
  let chosen := if globs.isEmpty then [] else byGlob tree root globs excluded
  let found ←
    if patterns.isEmpty then pure []
    else byContent tree (candidates tree root globs excluded) patterns
  return Text.sortedSet (chosen ++ found)

/-- Find files, if there is room for the globs.  That the search has a base is seen first. -/
def find (tree : Tree) (base : Path) (globs patterns excluded : List Text) :
    Except Fault (List Text) := do
  let _ ← checkBase tree base
  if Glob.Selection.isTooDeep globs then throw (.pattern .nestedTooDeeply)
  matching tree base globs patterns excluded

/-! ## Notices -/

/-- A text between single quotes. -/
def quoted (text : Text) : Text :=
  '\x27' :: text ++ ['\x27']

/-- Why a file is no text. -/
def readFailure (file : Text) : ReadFault → Text
  | .storage why => why.message.toList ++ ": ".toList ++ quoted file
  | .undecodable failure => failure.message

/-- What a search for patterns has to tell: the patterns that cannot be read and the
files that are no texts. -/
def contentNotices (tree : Tree) (files patterns : List Text) : List Notice :=
  if files.isEmpty || patterns.isEmpty then []
  else
    let malformed := patterns.filter fun text =>
      match Pattern.Node.ofText options text with
      | .error .malformed => true
      | _ => false
    let unread :=
      if malformed.length = patterns.length then []
      else files.filterMap fun file =>
        match tree.readText (Path.ofText file) with
        | .ok _ | .error (.storage .missing) => none
        | .error why =>
            some (.debug ("Could not read file ".toList ++ file ++ ": ".toList ++
              readFailure file why))
    malformed.map (fun text =>
      .warning ("Ignoring invalid regex pattern ".toList ++ quoted text ++ ": ".toList ++
        Pattern.PatternFault.malformed.message)) ++ unread

/-- What the globs of a search have to tell: those without a pattern. -/
def globNotices (globs : List Text) : List Notice :=
  (Glob.Selection.malformed globs).map fun glob =>
    .warning ("Ignoring invalid glob pattern ".toList ++ quoted glob ++ ": ".toList ++
      Pattern.PatternFault.malformed.message)

/-- What a search has to tell. -/
def notices (tree : Tree) (base : Path) (globs patterns excluded : List Text) : List Notice :=
  match checkBase tree base, find tree base globs patterns excluded with
  | .ok root, .ok found =>
      if globs.isEmpty && patterns.isEmpty then []
      else
        globNotices globs ++
          contentNotices tree (candidates tree root globs excluded) patterns ++
          [.debug ("Matched ".toList ++ Text.ofNat found.length ++ " file(s) under ".toList ++
            root.text)]
  | _, _ => []

end Search
end Codemap
