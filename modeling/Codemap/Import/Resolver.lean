import Codemap.Files.Walk
import Codemap.Import.Statement
import Codemap.Yaml.Construction

namespace Codemap
namespace Import

/-!
# Resolving imports

A specifier is resolved to a file as seen from the file that imports it.  What is
tried depends on the importing file: a module name with dots leads through
directories, a path that begins with a dot starts from the importing file, and a
package path starts from the library of the package that the importing file belongs
to.  A package or project is recognised by a marker file; its directory is the nearest
one at or above the importing file, not above the root.

A resolver remembers the directories and package names it has found.
-/

/-- Why a specifier cannot be resolved. -/
inductive ResolveFault where
  | storage (why : StorageFault) (path : Text)
  | emptyName (path : Text)
  | document (why : Yaml.Fault)
deriving DecidableEq, Repr, Inhabited

/-- The kinds of directories that marker files make. -/
inductive Marker where
  | package
  | project
deriving DecidableEq, Repr, Inhabited

namespace Marker

/-- The file that describes a package. -/
def packageFile : Text := "pubspec.yaml".toList

/-- The files that mark a kind of directory. -/
def files : Marker → List Text
  | .package => [packageFile]
  | .project => ["pyproject.toml".toList, "setup.py".toList, "setup.cfg".toList]

end Marker

/-! ## Looking at the tree -/

/-- A path leads to a file. -/
def isFile? (tree : Tree) (path : Path) : Except ResolveFault Bool :=
  match tree.status path with
  | .ok found => .ok (found.any Entry.isFile)
  | .error why => .error (.storage why path.text)

/-- The first of several paths that leads to a file. -/
def firstFile? (tree : Tree) : List Path → Except ResolveFault (Option Path)
  | [] => .ok none
  | path :: rest => do
      if ← isFile? tree path then return some path
      firstFile? tree rest

/-- A directory that a marker file makes. -/
def hasMarker (tree : Tree) (marker : Marker) (directory : Path) : Except ResolveFault Bool :=
  (firstFile? tree (marker.files.map directory.child)).map Option.isSome

/-- The first marked directory of a list, which is not searched beyond the root. -/
def firstMarked (tree : Tree) (root : Path) (marker : Marker) :
    List Path → Except ResolveFault (Option Path)
  | [] => .ok none
  | directory :: above => do
      if ← hasMarker tree marker directory then return some directory
      if directory = root then return none
      firstMarked tree root marker above

/-- The nearest marked directory at or above a directory. -/
def nearest (tree : Tree) (root : Path) (marker : Marker) (start : Path) :
    Except ResolveFault (Option Path) :=
  firstMarked tree root marker start.selfAndAbove

/-- The name that a package's description gives it.  No specifier holds a torn one. -/
def describedName? (document : Yaml.Document) : Option Yaml.Content :=
  match document.root with
  | .ref id =>
      match document.object id with
      | .mapping entries =>
          match Yaml.Value.look? entries (.str "name".toList) with
          | some (.str name) => some (.whole name)
          | some (.torn points) => some (.torn points)
          | _ => none
      | _ => none
  | _ => none

/-- The name of a package: the described one, or that of its directory. -/
def packageName (tree : Tree) (directory : Path) : Except ResolveFault Yaml.Content :=
  match tree.readText (directory.child Marker.packageFile) with
  | .error _ => .ok (.whole directory.name)
  | .ok text =>
      match Yaml.Document.ofText text with
      | .ok document => .ok ((describedName? document).getD (.whole directory.name))
      | .error .malformed => .ok (.whole directory.name)
      | .error why => .error (.document why)

/-! ## Paths -/

/-- A path with each ending of source files. -/
def withEndings (path : Path) : List Path :=
  Walk.sourceSuffixes.map path.extend

/-- The path without the ending of a source file, if it has one. -/
def withoutEnding? (path : Path) : Option Path :=
  let (stem, ending) := Path.splitExtension path.name
  if Walk.sourceSuffixes.contains ending then
    some { path with names := path.names.dropLast ++ [stem] }
  else none

/-- The paths that an imported path may stand for, in the order in which they are
tried. -/
def alternatives (path : Path) : List Path :=
  path :: withEndings path ++ ((withoutEnding? path).map withEndings).getD [] ++
    Walk.sourceSuffixes.map fun ending => path.child ("index".toList ++ ending)

/-- The file that an imported path stands for; the path itself if there is none. -/
def fileOf (tree : Tree) (path : Path) : Path :=
  let normal := path.normalize
  ((alternatives normal).find? tree.isFile).getD normal

/-- The file of a module below a directory. -/
def moduleFile? (tree : Tree) (base : Path) (parts : List Text) :
    Except ResolveFault (Option Path) := do
  let initial := "__init__.py".toList
  if parts.isEmpty then
    return (← firstFile? tree [base.child initial]).map Path.normalize
  let module := parts.foldl (fun path part => path.join (Path.ofText part)) base
  if module.name.isEmpty then throw (.emptyName module.text)
  return (← firstFile? tree [module.extend ".py".toList, module.child initial]).map Path.normalize

/-! ## The resolver -/

/-- A resolver with what it remembers. -/
structure Resolver where
  root : Path
  marked : List ((Path × Marker) × Option Path) := []
  packages : List (Path × Yaml.Content) := []
deriving DecidableEq, Repr, Inhabited

namespace Resolver

/-- A resolver for a project that remembers nothing. -/
def start (tree : Tree) (root : Path) : Resolver where
  root := Path.resolve tree.current root

/-- The nearest marked directory, which is remembered. -/
def directory (resolver : Resolver) (tree : Tree) (marker : Marker) (start : Path) :
    Except ResolveFault (Option Path) × Resolver :=
  match resolver.marked.find? fun entry => entry.1 == (start, marker) with
  | some (_, found) => (.ok found, resolver)
  | none =>
      match nearest tree resolver.root marker start with
      | .ok found =>
          (.ok found, { resolver with marked := ((start, marker), found) :: resolver.marked })
      | .error why => (.error why, resolver)

/-- The name of a package, which is remembered. -/
def nameOf (resolver : Resolver) (tree : Tree) (package : Path) :
    Except ResolveFault Yaml.Content × Resolver :=
  match resolver.packages.find? fun entry => entry.1 == package with
  | some (_, name) => (.ok name, resolver)
  | none =>
      match packageName tree package with
      | .ok name => (.ok name, { resolver with packages := (package, name) :: resolver.packages })
      | .error why => (.error why, resolver)

/-- The library directory of a package. -/
def library (package : Path) : Path :=
  package.child "lib".toList

/-- Resolve a path inside the package of the importing file. -/
def inPackage (resolver : Resolver) (tree : Tree) (specifier : Text) (current : Path) :
    Except ResolveFault (Option Path) × Resolver :=
  match resolver.directory tree .package current.parent with
  | (.error why, next) => (.error why, next)
  | (.ok none, next) => (.ok none, next)
  | (.ok (some package), next) =>
      (.ok (some (fileOf tree ((library package).join (Path.ofText specifier)))), next)

/-- Resolve a path inside a named package, which has to be that of the importing file. -/
def ofPackage (resolver : Resolver) (tree : Tree) (specifier : Text) (current : Path) :
    Except ResolveFault (Option Path) × Resolver :=
  let name := specifier.takeWhile (· != '/')
  let path := specifier.drop (name.length + 1)
  if path.isEmpty then (.ok none, resolver)
  else
    match resolver.directory tree .package current.parent with
    | (.error why, next) => (.error why, next)
    | (.ok none, next) => (.ok none, next)
    | (.ok (some package), next) =>
        match next.nameOf tree package with
        | (.error why, last) => (.error why, last)
        | (.ok found, last) =>
            if found = .whole name then
              (.ok (some (fileOf tree ((library package).join (Path.ofText path)))), last)
            else (.ok none, last)

/-- The file of a module below a directory, if it is there. -/
def presentModule? (tree : Tree) (base : Path) (parts : List Text) :
    Except ResolveFault (Option Path) :=
  (moduleFile? tree base parts).map fun found => found.filter tree.isFile

/-- The first of two places in which a module's file is found. -/
def inProject (tree : Tree) (project : Path) (parts : List Text) :
    Except ResolveFault (Option Path) := do
  match ← presentModule? tree project parts with
  | some found => return some found
  | none => presentModule? tree (project.child "src".toList) parts

/-- Resolve a module name.  Each dot at its beginning beyond the first leads one
directory up. -/
def ofModule (resolver : Resolver) (tree : Tree) (specifier : Text) (current : Path) :
    Except ResolveFault (Option Path) × Resolver :=
  let dots := (specifier.takeWhile (· == '.')).length
  let parts := (Text.fields '.' (specifier.drop dots)).filter fun part => !part.isEmpty
  if 0 < dots then
    let base := (List.replicate (dots - 1) ()).foldl (fun path _ => path.parent) current.parent
    (moduleFile? tree base parts, resolver)
  else if parts.isEmpty then (.ok none, resolver)
  else
    match resolver.directory tree .project current.parent with
    | (.error why, next) => (.error why, next)
    | (.ok none, next) => (.ok none, next)
    | (.ok (some project), next) => (inProject tree project parts, next)

/-- The beginning of a path inside a named package. -/
def packageScheme : Text := "package:".toList

/-- Resolve a specifier. -/
def resolve (resolver : Resolver) (tree : Tree) (specifier : Text) (current : Path) :
    Except ResolveFault (Option Path) × Resolver :=
  if current.suffix = ".py".toList then resolver.ofModule tree specifier current
  else if packageScheme.isPrefixOf specifier then
    resolver.ofPackage tree (specifier.drop packageScheme.length) current
  else if specifier.head? = some '.' then
    (.ok (some (fileOf tree (current.parent.join (Path.ofText specifier)))), resolver)
  else if specifier.head? = some '/' ∨ current.suffix ≠ ".dart".toList then (.ok none, resolver)
  else resolver.inPackage tree specifier current

/-- Resolve several specifiers of one file; the first fault ends the run. -/
def resolveAll (resolver : Resolver) (tree : Tree) (current : Path) :
    List Text → Except ResolveFault (List Path) × Resolver
  | [] => (.ok [], resolver)
  | specifier :: rest =>
      match resolver.resolve tree specifier current with
      | (.error why, next) => (.error why, next)
      | (.ok found, next) =>
          match resolveAll next tree current rest with
          | (.ok others, last) => (.ok (found.toList ++ others), last)
          | (.error why, last) => (.error why, last)

end Resolver
end Import
end Codemap
