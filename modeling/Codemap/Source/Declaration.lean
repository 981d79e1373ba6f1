import Codemap.Text.Basic

namespace Codemap

/-!
# What is known of a source file

The structure of a source file is the list of its classes with their members and
the list of its top-level functions, each with the signature and documentation
found beside it, in source order.
-/

/-- A member of a class, or a top-level function. -/
structure Declaration where
  name : Text
  signature : Text
  documentation : Option Text := none
deriving DecidableEq, Repr, Inhabited

/-- A class-like declaration with its members. -/
structure ClassDeclaration where
  name : Text
  signature : Text
  documentation : Option Text := none
  methods : List Declaration := []
deriving DecidableEq, Repr, Inhabited

/-- The classes and top-level functions of a source file. -/
structure Outline where
  classes : List ClassDeclaration := []
  functions : List Declaration := []
deriving DecidableEq, Repr, Inhabited

namespace Outline

/-- Nothing was found in the file. -/
def isEmpty (outline : Outline) : Bool :=
  outline.classes.isEmpty && outline.functions.isEmpty

end Outline
end Codemap
