import Codemap.Text.Basic

namespace Codemap

/-!
# Documentation above a declaration

The documentation of a declaration is the run of comment lines directly above
it.  Annotations and decorators between the two are skipped.  Going upwards,
blank lines are tolerated once a comment line has been found, and the first
other line ends the run.  Comment marks are removed from each line, and empty
lines at both ends of the run are dropped.

The functions take the lines above the declaration with the nearest line first,
so the upward scan is recursion on that list.
-/

namespace Documentation

/-- Beginnings of lines that use a hash sign for something other than a comment. -/
def directives : List Text :=
  ["#include", "#define", "#if", "#endif", "#else", "#pragma", "#import", "#region",
    "#endregion", "#!", "#["].map String.toList

/-- A trimmed line that is a comment introduced by hash signs. -/
def isHashComment (line : Text) : Bool :=
  line.head? == some '#' && !line.startsWithAny directives

/-- A trimmed line that is a comment of any supported style. -/
def isCommentLine (line : Text) : Bool :=
  line.startsWithAny ["//".toList, "/*".toList, "*".toList] || isHashComment line

/-- The words a trimmed comment line contributes; nothing if the line is no
documentation. -/
def textOf? (line : Text) : Option Text :=
  if line.startsWithAny ["///".toList, "//!".toList] then
    some (Text.trim (line.drop 3))
  else if line.startsWithAny ["/**".toList, "/*!".toList] then
    some (Text.dropEnding "*/".toList (line.drop 3)).trim
  else if line.startsWithAny ["*/".toList] then some []
  else if line.startsWithAny ["*".toList] then
    some (Text.dropEnding "*/".toList (line.drop 1)).trim
  else if isHashComment line then
    some (Text.trim (line.dropWhile (· == '#')))
  else none

/-- A trimmed line that annotates the declaration below it. -/
def isAnnotation (line : Text) : Bool :=
  line.startsWithAny ["@".toList, "#[".toList]

/-- Collect the comment run, nearest line first; the result is in reading order. -/
def collect (found : List Text) : List Text → List Text
  | [] => found
  | line :: above =>
      match textOf? line.trim with
      | some text => collect (text :: found) above
      | none =>
          if Text.isBlankText line && !found.isEmpty then collect found above else found

/-- The list without the empty texts at its two ends. -/
def dropEmptyEnds (texts : List Text) : List Text :=
  ((texts.dropWhile List.isEmpty).reverse.dropWhile List.isEmpty).reverse

/-- The documentation of a declaration, given the lines above it, nearest first. -/
def ofLinesAbove (above : List Text) : Option Text :=
  let run := above.dropWhile fun line => isAnnotation line.trim
  match dropEmptyEnds (collect [] run) with
  | [] => none
  | texts => some (List.intercalate ['\n'] texts)

/-- The documentation of the declaration on line `index`. -/
def above (lines : List Text) (index : Nat) : Option Text :=
  ofLinesAbove (lines.take index).reverse

end Documentation
end Codemap
