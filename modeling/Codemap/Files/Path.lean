import Codemap.Text.Case

namespace Codemap

/-!
# Paths

A path is a root and a list of names.  Empty segments and segments that are a
single dot carry no information and are dropped when a path is read; a segment
of two dots is kept, because only normalisation may remove it.  A path that
begins with exactly two slashes has a root of its own.

Two ways to change a path are kept apart: joining, where an absolute path
replaces what precedes it, and lexical normalisation, which removes two dots
together with the name before them.
-/

/-- Where a path begins. -/
inductive PathRoot where
  | relative
  | slash
  | doubleSlash
deriving DecidableEq, Repr, Inhabited

/-- A path. -/
structure Path where
  root : PathRoot := .slash
  names : List Text
deriving DecidableEq, Repr, Inhabited

/-- The segment that names the directory above. -/
def upward : Text := ['.', '.']

namespace PathRoot

/-- The text of a root. -/
def text : PathRoot → Text
  | .relative => []
  | .slash => ['/']
  | .doubleSlash => ['/', '/']

/-- The root with which a text begins. -/
def ofText : Text → PathRoot
  | '/' :: '/' :: '/' :: _ => .slash
  | '/' :: '/' :: _ => .doubleSlash
  | '/' :: _ => .slash
  | _ => .relative

end PathRoot

namespace Path

/-! ## Reading and writing -/

/-- The segments of a text that carry information. -/
def segments (text : Text) : List Text :=
  (text.fields '/').filter fun segment => !segment.isEmpty && segment != ['.']

/-- Read a path. -/
def ofText (text : Text) : Path where
  root := PathRoot.ofText text
  names := segments text

/-- Write a path; a path without root and names is a single dot. -/
def text (path : Path) : Text :=
  if path.root = .relative ∧ path.names.isEmpty then ['.']
  else path.root.text ++ List.intercalate ['/'] path.names

/-- The path has a root. -/
def isAbsolute (path : Path) : Bool :=
  path.root != .relative

/-- The root, if there is one, followed by the names. -/
def parts (path : Path) : List Text :=
  if path.root = .relative then path.names else path.root.text :: path.names

/-! ## Parts of a path -/

/-- The last name, or nothing but the empty text. -/
def name (path : Path) : Text :=
  path.names.getLastD []

/-- The path without its last name; a path without names is its own parent. -/
def parent (path : Path) : Path :=
  { path with names := path.names.dropLast }

/-- A path and all the paths above it, nearest first. -/
def selfAndAbove (path : Path) : List Path :=
  (List.range (path.names.length + 1)).map fun n =>
    { path with names := path.names.take (path.names.length - n) }

/-- The text from the last dot of a name on, if something stands on both sides of
the dot; otherwise the empty text. -/
def suffixOf (name : Text) : Text :=
  let tail := name.reverse.takeWhile (· != '.')
  let stem := name.length - tail.length - 1
  if tail.length < name.length ∧ 0 < stem ∧ !tail.isEmpty then name.drop stem else []

/-- The suffix of the last name. -/
def suffix (path : Path) : Text :=
  suffixOf path.name

/-- A name cut at its last dot, where dots at its beginning do not count. -/
def splitExtension (name : Text) : Text × Text :=
  let tail := name.reverse.takeWhile (· != '.')
  let stem := name.length - tail.length - 1
  if tail.length < name.length ∧ (name.take stem).any (· != '.') then
    (name.take stem, name.drop stem)
  else (name, [])

/-! ## Combining paths -/

/-- The second path as seen from the first; an absolute path stands for itself. -/
def join (base path : Path) : Path :=
  if path.isAbsolute then path else { base with names := base.names ++ path.names }

/-- A path one name longer. -/
def child (base : Path) (name : Text) : Path :=
  { base with names := base.names ++ [name] }

/-- The path with a text appended to its last name, or to the dot that stands for no name. -/
def extend (path : Path) (ending : Text) : Path :=
  match path.names.getLast? with
  | some last => { path with names := path.names.dropLast ++ [last ++ ending] }
  | none => { path with names := [if path.root = .relative then '.' :: ending else ending] }

/-- The names that lead from a base to a path below it. -/
def relativeTo? (path base : Path) : Option Path :=
  if path.root = base.root ∧ base.names.isPrefixOf path.names then
    some { root := .relative, names := path.names.drop base.names.length }
  else none

/-! ## Normal form -/

/-- Remove two dots together with the name before them.  `done` holds the names
kept so far, the last one first.  Above the root of an absolute path there is
nothing, so two dots vanish there; in a relative path they stay. -/
def normalizeNames (absolute : Bool) (done : List Text) : List Text → List Text
  | [] => done.reverse
  | segment :: rest =>
      if segment ≠ upward then normalizeNames absolute (segment :: done) rest
      else
        match done with
        | [] => normalizeNames absolute (if absolute then [] else [upward]) rest
        | last :: before =>
            if last = upward then normalizeNames absolute (upward :: done) rest
            else normalizeNames absolute before rest

/-- The lexical normal form of a path. -/
def normalize (path : Path) : Path :=
  { path with names := normalizeNames path.isAbsolute [] path.names }

/-- The absolute normal form of a path as seen from a directory.  There are no
symbolic links, so this is the path's true place; its root is the single one. -/
def resolve (directory path : Path) : Path :=
  { (directory.join path).normalize with root := .slash }

end Path
end Codemap
