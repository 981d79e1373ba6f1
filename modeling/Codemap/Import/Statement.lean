import Codemap.Pattern.Match

namespace Codemap
namespace Import

/-!
# Import statements

The files that a source file refers to are found in its text by patterns.  There
are two families of languages: those that quote the path of an imported file,
and those that name a module with dots.  For the first family the statements are
sorted by the column at which they begin; for the second, statements that take
names from a module come before those that take whole modules.  In both cases a
specifier is listed once, where it is first found.
-/

open Pattern Pattern.Node

/-- Which family of import statements a language has. -/
inductive Style where
  | quoted
  | dotted
deriving DecidableEq, Repr

/-! ## Quoted paths -/

/-- A quotation mark. -/
def quoteMark : Node := among "\x27\x22"

/-- A quoted text, which is the first group. -/
def quotedText : Node :=
  seq [quoteMark, .group 1 (atLeastOne (noneOf "\x27\x22")), quoteMark]

/-- Blanks at the beginning of a line. -/
def lineIndent : Node :=
  .cat (.anchor .lineStart) (many (among " \t"))

/-- A statement that begins with a keyword and a quoted path. -/
def keywordImport : Node :=
  seq [lineIndent, words ["import", "export", "part"], gap, quotedText]

/-- The clause that names the source of imported names. -/
def fromClause : Node :=
  seq [.anchor (.wordEdge false), Node.text "from".toList, gap, quotedText]

/-- A call with a quoted path as its only argument. -/
def callImport (function : String) : Node :=
  seq [.anchor (.wordEdge false), Node.text function.toList, .char '(', blanks, quotedText, blanks,
    .char ')']

/-- All forms of imports with a quoted path. -/
def quotedForms : List Node :=
  [keywordImport, fromClause, callImport "require", callImport "import"]

/-- A specifier and the column of the statement that yields it. -/
structure Found where
  offset : Nat
  specifier : Text
deriving DecidableEq, Repr

/-- The specifiers that one form yields. -/
def foundBy (text : Text) (form : Node) : List Found :=
  (form.findAll text).filterMap fun found =>
    (found.group? 1).map fun specifier => ⟨found.offset, specifier⟩

/-- Specifiers are ordered by column, and at one column as texts. -/
def Found.le (a b : Found) : Bool :=
  a.offset < b.offset || (a.offset == b.offset && Text.le a.specifier b.specifier)

/-- The quoted specifiers of a text. -/
def quotedSpecifiers (text : Text) : List Text :=
  (((quotedForms.flatMap (foundBy text)).mergeSort Found.le).map Found.specifier).eraseDups

/-! ## Dotted names -/

/-- Spaces and tabs. -/
def spaces : Node := many (among " \t")

/-- At least one space or tab. -/
def spacing : Node := atLeastOne (among " \t")

/-- Letters of ASCII and the underscore. -/
def nameStart : Node :=
  .oneOf { items := [.range 'A' 'Z', .range 'a' 'z', .range '_' '_'] }

/-- The module names are imported from: leading dots and a dotted name, or a dotted
name alone. -/
def moduleName : Node :=
  .alt (.cat (atLeastOne (.char '.')) (many (wordCharOr ".")))
    (.cat nameStart (many (wordCharOr ".")))

/-- A statement that imports names from a module. -/
def namesImport : Node :=
  seq [lineIndent, Node.text "from".toList, spacing, .group 1 moduleName, spacing,
    Node.text "import".toList, spacing, .group 2 (atLeastOne (noneOf "\n#"))]

/-- A statement that imports modules. -/
def modulesImport : Node :=
  seq [lineIndent, Node.text "import".toList, spacing,
    .group 1 (fewestSome (wordCharOr ". \t,")), spaces,
    opt (.cat (.char '#') (many (noneOf "\n"))), .anchor .lineEnd]

/-- The names in the list after `import`: the first word of each item, if it is a
name. -/
def importedNames (clause : Text) : List Text :=
  let isParenthesis (c : Char) : Bool := c == '(' || c == ')'
  let inner := Text.dropTrailing isParenthesis (clause.trim.dropWhile isParenthesis)
  (Text.fields ',' inner).filterMap fun item =>
    match item.words with
    | word :: _ => if !word.isEmpty && word.all isWordChar then some word else none
    | [] => none

/-- A name imported from a module, which may itself be a module below it. -/
def submodule (module name : Text) : Text :=
  if ['.'].isSuffixOf module then module ++ name else module ++ '.' :: name

/-- The specifiers of a statement that imports names: the module, and each name as
a module below it. -/
def namesSpecifiers (found : Match) : List Text :=
  match found.group? 1, found.group? 2 with
  | some module, some clause => module :: (importedNames clause).map (submodule module)
  | _, _ => []

/-- The specifiers of a statement that imports modules. -/
def modulesSpecifiers (found : Match) : List Text :=
  match found.group? 1 with
  | some clause => (Text.fields ',' clause).filterMap fun item => item.words.head?
  | none => []

/-- The dotted specifiers of a text. -/
def dottedSpecifiers (text : Text) : List Text :=
  ((namesImport.findAll text).flatMap namesSpecifiers ++
    (modulesImport.findAll text).flatMap modulesSpecifiers).eraseDups

/-- The import specifiers of a text, each listed once. -/
def specifiers (style : Style) (text : Text) : List Text :=
  match style with
  | .quoted => quotedSpecifiers text
  | .dotted => dottedSpecifiers text

end Import
end Codemap
