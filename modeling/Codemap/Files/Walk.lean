import Codemap.Files.Tree

namespace Codemap
namespace Walk

/-!
# Walking a directory

A walk visits the files below a directory: first those of the directory itself,
then those of each subdirectory, both in the order of their names.  Hidden
directories, directories that hold the dependencies of a project, and
directories the caller excludes are not entered; a walk for source files does not
enter the directories that hold build output either.  Only directories are
pruned, so a hidden file is visited.

A walk calls itself for every level of directories.  It is taken for granted that the stack has
room for them; `stackRoom` is compared only with what single texts ask for.

A walk yields the names that lead from the directory to each file.  Results for
the subdirectories are computed first and sorted afterwards, so the order in
which a directory stores its entries has no influence.
-/

/-- Directories that hold the dependencies of a project. -/
def dependencyDirectories : List Text :=
  ["node_modules", "bower_components", "vendor", "Pods", "site-packages",
    "__pycache__"].map String.toList

/-- Directories that hold build output. -/
def buildDirectories : List Text :=
  ["build", "dist", "target"].map String.toList

/-- Endings of the names of source files, in the order in which they are tried for
an import without one. -/
def sourceSuffixes : List Text :=
  [".dart", ".js", ".jsx", ".mjs", ".cjs", ".ts", ".tsx", ".py", ".java", ".kt", ".kts", ".swift",
    ".go", ".rs", ".rb", ".php", ".cpp", ".cc", ".hpp", ".c", ".h", ".cs"].map String.toList

/-- The languages of code fences, by suffix. -/
def fenceBySuffix : List (String × String) :=
  [(".py", "python"), (".pyi", "python"), (".js", "javascript"), (".jsx", "jsx"),
    (".mjs", "javascript"), (".cjs", "javascript"), (".ts", "typescript"), (".tsx", "tsx"),
    (".dart", "dart"), (".java", "java"), (".kt", "kotlin"), (".kts", "kotlin"), (".go", "go"),
    (".rs", "rust"), (".rb", "ruby"), (".php", "php"), (".cs", "csharp"), (".c", "c"), (".h", "c"),
    (".cpp", "cpp"), (".cc", "cpp"), (".hpp", "cpp"), (".swift", "swift"), (".scala", "scala"),
    (".sh", "bash")]

/-- The language of the code fence for a file, or the empty text.  The case of the
suffix does not matter. -/
def fenceLanguage (path : Path) : Text :=
  let suffix := path.suffix.lower
  match fenceBySuffix.find? fun entry => entry.1.toList == suffix with
  | some (_, language) => language.toList
  | none => []

/-- A directory that a walk does not enter. -/
def isPruned (excluded : List Text) (skipBuild : Bool) (name : Text) : Bool :=
  ['.'].isPrefixOf name || dependencyDirectories.contains name || excluded.contains name ||
    (skipBuild && buildDirectories.contains name)

/-- The names of the files directly in a directory, in order. -/
def filesOf (children : List (Text × Entry)) : List Text :=
  Text.sort ((children.filter fun child => child.2.isFile).map Prod.fst)

/-- Named results in the order of their names. -/
def inOrder {α : Type} (results : List (Text × α)) : List (Text × α) :=
  results.mergeSort fun a b => Text.le a.1 b.1

mutual

/-- The walk of an entry. -/
def ofEntry (excluded : List Text) (skipBuild : Bool) : Entry → List (List Text)
  | .file _ _ => []
  | .directory children =>
      (filesOf children).map (fun name => [name]) ++
        (inOrder (ofChildren excluded skipBuild children)).flatMap fun (name, below) =>
          below.map (name :: ·)

/-- The walks of those children that are directories to be entered. -/
def ofChildren (excluded : List Text) (skipBuild : Bool) :
    List (Text × Entry) → List (Text × List (List Text))
  | [] => []
  | (name, entry) :: rest =>
      let later := ofChildren excluded skipBuild rest
      if entry.isDirectory && !isPruned excluded skipBuild name then
        (name, ofEntry excluded skipBuild entry) :: later
      else later

end

/-- The files below a directory, as the names that lead to them. -/
def relativeFiles (tree : Tree) (base : Path) (excluded : List Text) (skipBuild : Bool) :
    List (List Text) :=
  match tree.entry base with
  | .ok entry => ofEntry excluded skipBuild entry
  | .error _ => []

/-- The files below a directory. -/
def files (tree : Tree) (base : Path) (excluded : List Text) (skipBuild : Bool) : List Path :=
  (relativeFiles tree base excluded skipBuild).map fun names =>
    { base with names := base.names ++ names }

/-- A name has one of the endings of source files. -/
def isSourceName (name : Text) : Bool :=
  name.endsWithAny sourceSuffixes

/-- The source files below a directory. -/
def sourceFiles (tree : Tree) (base : Path) (excluded : List Text) : List Path :=
  (files tree base excluded true).filter fun path => isSourceName path.name

end Walk
end Codemap
