import Codemap.Files.Tree
import Codemap.Notice
import Codemap.Source.Outline

namespace Codemap

/-!
# The outline of a file

A file that cannot be read as a text has an empty outline, and the run says why.
-/

namespace Outline

/-- The outline of a file. -/
def ofFile (tree : Tree) (file : Path) : Outline :=
  match tree.readText file with
  | .ok text => ofText text
  | .error _ => {}

/-- Why a file is no text. -/
def failure (file : Path) : ReadFault → Text
  | .storage why => why.message.toList ++ ": \x27".toList ++ file.text ++ ['\x27']
  | .undecodable failure => failure.message

/-- What reading the outlines of several files has to tell. -/
def notices (tree : Tree) (files : List Path) : List Notice :=
  files.filterMap fun file =>
    match tree.readText file with
    | .ok _ => none
    | .error why =>
        some (.warning ("Could not read ".toList ++ file.text ++ " for extraction: ".toList ++
          failure file why))

end Outline
end Codemap
