import Codemap.Glob.Expression
import Codemap.Pattern.Reader

namespace Codemap
namespace Glob

/-!
# Selecting paths by globs

A list of globs selects the paths that match one of them, except those that match
a glob with an exclamation mark in front.  A glob without a slash may match the
last segment of a path alone.  Unusable globs are left out, so a list of globs may
end up selecting nothing.

For the nested alternatives of a glob there has to be room on the stack.  Selecting takes it
for granted; whoever selects asks beforehand.
-/

/-- A usable glob. -/
structure Matcher where
  /-- The glob as it was given, without an exclamation mark. -/
  source : Text
  pattern : Pattern.Node
  /-- The glob may match the last segment alone. -/
  matchesBase : Bool
deriving DecidableEq, Repr, Inhabited

/-- The last segment of a relative path. -/
def baseName (path : Text) : Text :=
  (path.reverse.takeWhile (· != '/')).reverse

namespace Matcher

/-- A glob matches a relative path. -/
def accepts (matcher : Matcher) (path : Text) : Bool :=
  matcher.pattern.matchesAll path ||
    (matcher.matchesBase && matcher.pattern.matchesAll (baseName path))

/-- The glob without surrounding blanks and without a leading reference to the
directory itself. -/
def cleaned (source : Text) : Text :=
  let trimmed := source.trim
  if ['.', '/'].isPrefixOf trimmed then trimmed.drop 2 else trimmed

/-- Make a glob usable, if it is not empty and has a pattern. -/
def ofText? (source : Text) : Option Matcher :=
  let glob := cleaned source
  if glob.isEmpty then none
  else (pattern? glob).map fun pattern =>
    { source, pattern, matchesBase := !glob.contains '/' }

/-- The expression of a glob is nested so deeply that there is no room for reading it. -/
def isTooDeep (source : Text) : Bool :=
  match Pattern.Node.ofText {} (expression (cleaned source)) with
  | .error .nestedTooDeeply => true
  | _ => false

end Matcher

/-- A glob or, after an exclamation mark, an exclusion. -/
inductive Clause where
  | include (source : Text)
  | exclude (source : Text)
deriving DecidableEq, Repr

/-- What a glob asks for. -/
def Clause.ofText : Text → Clause
  | '!' :: rest => .exclude rest
  | text => .include text

/-- The glob without an exclamation mark. -/
def Clause.source : Clause → Text
  | .include source | .exclude source => source

/-- The usable globs of a list. -/
structure Selection where
  includes : List Matcher := []
  excludes : List Matcher := []
deriving DecidableEq, Repr, Inhabited

namespace Selection

/-- Sort a list of globs into inclusions and exclusions. -/
def ofTexts (globs : List Text) : Selection where
  includes := globs.filterMap fun glob =>
    match Clause.ofText glob with
    | .include source => Matcher.ofText? source
    | .exclude _ => none
  excludes := globs.filterMap fun glob =>
    match Clause.ofText glob with
    | .include _ => none
    | .exclude source => Matcher.ofText? source

/-- The globs of a list that have no pattern, without exclamation marks. -/
def malformed (globs : List Text) : List Text :=
  let sources := globs.map fun glob => (Clause.ofText glob).source
  sources.filter fun source =>
    !(Matcher.cleaned source).isEmpty && (Matcher.ofText? source).isNone

/-- There is no room for reading one of the globs. -/
def isTooDeep (globs : List Text) : Bool :=
  globs.any fun glob => Matcher.isTooDeep (Clause.ofText glob).source

/-- At least one glob can select something. -/
def isUsable (selection : Selection) : Bool :=
  !selection.includes.isEmpty

/-- A relative path is selected. -/
def selects (selection : Selection) (path : Text) : Bool :=
  (selection.includes.any fun matcher => matcher.accepts path) &&
    !(selection.excludes.any fun matcher => matcher.accepts path)

end Selection
end Glob
end Codemap
