import Codemap.Notice
import Codemap.Settings.Basic
import Codemap.Text.Case

namespace Codemap

/-!
# Requests for bundles

A request names directories by terms.  A configured directory is chosen if its name
contains a term, whatever the case of the letters; otherwise those of its visible
subdirectories are whose names do.  A configured directory that does not exist is
skipped.
-/

namespace Bundle

/-- What is asked for. -/
structure Request where
  terms : List Text
  globs : List Text := []
  patterns : List Text := []
  /-- How far imports are followed; nothing asks for what the settings say. -/
  depth : Option Int := none
deriving DecidableEq, Repr, Inhabited

/-- Why directories cannot be chosen: a path that no file system takes. -/
structure SelectionFault where
  why : StorageFault
  path : Text
deriving DecidableEq, Repr, Inhabited

/-- The terms that can match, in lower case. -/
def usableTerms (terms : List Text) : List Text :=
  (terms.filter fun term => !term.isEmpty).map Text.lower

/-- A name contains one of the terms. -/
def nameMatches (terms : List Text) (name : Text) : Bool :=
  terms.any name.lower.includes

/-- The subdirectories that are chosen below a directory. -/
def chosenBelow (terms : List Text) (directory : Path) (children : List (Text × Entry)) :
    List Path :=
  let names := (children.filter fun child =>
    child.2.isDirectory && child.1.head? != some '.' && nameMatches terms child.1).map Prod.fst
  (Text.sort names).map directory.child

/-- What is chosen for a configured directory. -/
def chosenFor (tree : Tree) (terms : List Text) (directory : Path) :
    Except SelectionFault (List Path) :=
  match tree.status directory with
  | .error why => .error ⟨why, directory.text⟩
  | .ok (some (.directory children)) =>
      if nameMatches terms directory.name then .ok [directory]
      else .ok (chosenBelow terms directory children)
  | .ok _ => .ok []

/-- The directories that terms choose among the configured ones, in their order. -/
def select (settings : Settings) (tree : Tree) (terms : List Text) :
    Except SelectionFault (List Path) :=
  let usable := usableTerms terms
  if usable.isEmpty then .ok []
  else (settings.searchable.mapM (chosenFor tree usable)).map List.flatten

/-- What choosing has to tell: the configured directories that do not exist, up to the
first fault. -/
def selectNotices (tree : Tree) : List Path → List Notice
  | [] => []
  | directory :: rest =>
      match tree.status directory with
      | .error _ => []
      | .ok (some (.directory _)) => selectNotices tree rest
      | .ok _ =>
          .pipeline .warning ("Configured directory ".toList ++ directory.text ++
            " does not exist; skipping".toList) :: selectNotices tree rest

end Bundle
end Codemap
