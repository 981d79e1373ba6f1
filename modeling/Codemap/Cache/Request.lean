import Codemap.Digest.Sha256
import Codemap.Files.Tree
import Codemap.Json.Writer

namespace Codemap

/-!
# What a bundle is kept for

A bundle is kept for a request, a set of files and the times of their last changes.
These are written as one canonical text, whose digest names the bundle.  The order of
globs, patterns and files does not matter, and a file that does not exist has the time
zero.

Every number is written here.  A depth that has more digits than a text can take is refused by
whoever asks for a bundle; times of change are short.
-/

namespace Cache

/-- The request for which a bundle is kept. -/
structure Request where
  directory : Text
  globs : List Text := []
  patterns : List Text := []
  depth : Option Int := none
deriving DecidableEq, Repr, Inhabited

/-- The times of the last changes of files, each file once. -/
abbrev Times := List (Text × Int)

/-- The time of a file that does not exist. -/
def missingTime : Int := 0

/-- A path has to lead to a directory because of how it is written. -/
def needsDirectory (path : Text) : Bool :=
  path.endsWithAny [['/'], ['/', '.']]

/-- The time of the last change of a file. -/
def timeOf (tree : Tree) (file : Text) : Int :=
  if file.isEmpty || (needsDirectory file && tree.isFile (Path.ofText file)) then missingTime
  else
    match tree.changed (Path.ofText file) with
    | .ok time => time
    | .error _ => missingTime

/-- The times of the last changes of some files. -/
def timesOf (tree : Tree) (files : List Text) : Times :=
  files.eraseDups.map fun file => (file, timeOf tree file)

/-- The time that is recorded for a file. -/
def recordedTime (times : Times) (file : Text) : Int :=
  match times with
  | [] => missingTime
  | (other, time) :: rest => if other = file then time else recordedTime rest file

/-- Texts as a JSON array. -/
def textArray (texts : List Text) : Json :=
  .arr (texts.map .str)

namespace Request

/-- The description of a request: globs and patterns sorted, and no depth written as
minus one. -/
def descriptor (request : Request) : Json :=
  .obj
    [("target_directory".toList, .str request.directory),
      ("globs".toList, textArray (Text.sort request.globs)),
      ("regex".toList, textArray (Text.sort request.patterns)),
      ("reference_depth".toList, .int (request.depth.getD (-1)))]

end Request

/-- The times as a JSON object. -/
def timesObject (times : Times) : Json :=
  .obj (times.map fun (file, time) => (file, .int time))

/-- What the canonical text writes. -/
def payload (request : Request) (files : List Text) (times : Times) : Json :=
  .obj
    [("request".toList, request.descriptor),
      ("files".toList, textArray (Text.sortedSet files)),
      ("mtimes".toList, timesObject times)]

/-- The canonical text of a request with its files and times. -/
def canonicalText (request : Request) (files : List Text) (times : Times) : Text :=
  (payload request files times).sortKeys.render .compact

/-- The number of digits of a fingerprint. -/
def fingerprintLength : Nat := 16

/-- The fingerprint of a request with its files and times. -/
def fingerprint (request : Request) (files : List Text) (times : Times) : Text :=
  (Digest.hex (Utf8.encode (canonicalText request files times))).take fingerprintLength

/-- A directory's name, with an underscore for every character that is neither a letter
nor a digit of ASCII. -/
def label (directory : Text) : Text :=
  let name := (Path.ofText directory).name
  let shown := if name.isEmpty then "unknown".toList else name
  shown.map fun c => if c.isAlphanum then c else '_'

/-- The name of the file that keeps a bundle. -/
def key (request : Request) (files : List Text) (times : Times) : Text :=
  label request.directory ++ '_' :: fingerprint request files times ++ ".md".toList

end Cache
end Codemap
