import Codemap.Import.Resolver
import Codemap.Notice

namespace Codemap
namespace Import

/-!
# Files that import other files

From a set of target files the graph of imports is followed backwards, level by level:
a source file joins a level when one of its imports is a file of an earlier level.  The
targets are at depth zero.  The walk ends when a level is empty or the greatest depth
is reached; a negative greatest depth means that there is none.
-/

/-- A file of the reverse import graph: the files of earlier levels that it imports, and
its level. -/
structure Reference where
  file : Text
  imports : List Text := []
  depth : Nat := 0
deriving DecidableEq, Repr, Inhabited

/-- The specifiers in a file; a file that is no text has none. -/
def specifiersOf (tree : Tree) (file : Path) : List Text :=
  match tree.readText file with
  | .ok text => specifiers (if file.suffix = ".py".toList then .dotted else .quoted) text
  | .error _ => []

/-- A source file with the files that it imports. -/
structure Source where
  file : Text
  imports : List Text
deriving DecidableEq, Repr, Inhabited

/-- The imports of several source files, resolved one after the other. -/
def sourcesOf (tree : Tree) (resolver : Resolver) : List Path → Except ResolveFault (List Source)
  | [] => .ok []
  | path :: rest =>
      match resolver.resolveAll tree path (specifiersOf tree path) with
      | (.error why, _) => .error why
      | (.ok found, next) =>
          (sourcesOf tree next rest).map fun others =>
            ⟨path.text, found.map Path.text⟩ :: others

/-- The files that are already part of the graph. -/
def tracked (references : List Reference) : List Text :=
  references.map Reference.file

/-- The sources that import a file of an earlier level and are not part of the graph. -/
def nextLevel (sources : List Source) (references : List Reference) (depth : Nat) :
    List Reference :=
  sources.filterMap fun source =>
    if (tracked references).contains source.file then none
    else
      let hits := Text.sortedSet (source.imports.filter (tracked references).contains)
      if hits.isEmpty then none else some ⟨source.file, hits, depth⟩

/-- A depth is within the greatest one. -/
def within (depth : Nat) (greatest : Int) : Bool :=
  decide (greatest < 0) || decide ((depth : Int) ≤ greatest)

/-- Add level after level.  Every level but the last takes a source that is not part of
the graph, so the fuel is the number of sources. -/
def addLevels (sources : List Source) (greatest : Int) :
    Nat → Nat → List Reference → List Reference
  | 0, _, references => references
  | fuel + 1, depth, references =>
      if within depth greatest then
        match nextLevel sources references depth with
        | [] => references
        | level => addLevels sources greatest fuel (depth + 1) (references ++ level)
      else references

/-- The targets, each once. -/
def targets (tree : Tree) (files : List Path) : List Reference :=
  ((files.map fun file => (Path.resolve tree.current file).text).eraseDups).map fun file => { file }

/-- The target files and the source files of a project that import them, directly or
through others. -/
def references (tree : Tree) (files : List Path) (project : Path) (greatest : Int)
    (excluded : List Text) : Except ResolveFault (List Reference) := do
  let start := targets tree files
  if greatest = 0 || start.isEmpty then return start
  let resolver := Resolver.start tree project
  let walked := (Walk.sourceFiles tree resolver.root excluded).filter fun path =>
    !(tracked start).contains path.text
  let sources ← sourcesOf tree resolver walked
  return addLevels sources greatest sources.length 1 start

/-- The files of the graph beyond the targets, sorted. -/
def referencing (references : List Reference) : List Text :=
  Text.sort ((references.filter fun reference => 0 < reference.depth).map Reference.file)

/-- What following imports has to tell: the size of each level. -/
def levelNotices (references : List Reference) : List Notice :=
  let deepest := references.foldl (fun depth reference => max depth reference.depth) 0
  (List.range deepest).map fun n =>
    let size := (references.filter fun reference => reference.depth == n + 1).length
    .debug ("Depth ".toList ++ Text.ofNat (n + 1) ++ ": ".toList ++ Text.ofNat size ++
      " referencing file(s)".toList)

end Import
end Codemap
