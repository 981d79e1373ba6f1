import Codemap.Pattern.Match

namespace Codemap
namespace Lead

/-!
# Leads: how declarations begin

A line is taken for a declaration by its beginning alone.  Each lead is a pattern
for the beginning of a trimmed line; what follows it is for the signature search
to find.  The leads cover several languages at once, so the words in them are the
union of those languages' words, and a line of ordinary code that looks like a
declaration is taken for one.

The groups of a lead are numbered by the constants below.
-/

open Pattern Pattern.Node

/-- The group that holds the declared name. -/
def nameGroup : Nat := 1

/-- The group that holds the keyword of a function or constructor. -/
def keywordGroup : Nat := 2

/-- The group that holds the return type of a function. -/
def typeGroup : Nat := 3

/-- A keyword and the blanks after it, or nothing. -/
def optWord (word : String) : Node :=
  opt (.cat (Node.text word.toList) gap)

/-- A list of type parameters in angle brackets. -/
def angles : Node :=
  seq [.char '<', fewest (noneOf "()"), .char '>']

/-- The parenthesis that opens a parameter list, possibly after type arguments. -/
def parameters : Node :=
  seq [blanks, opt angles, blanks, .char '(']

/-- `function`, possibly with the star of a generator. -/
def functionWord : Node :=
  .cat (Node.text "function".toList) (opt (.char '*'))

/-- The words that introduce a function. -/
def functionWords : Node :=
  choice [words ["def", "fn", "func", "fun"], functionWord, Node.text "sub".toList]

/-- Any number of modifiers before a member or function. -/
def modifiers : Node :=
  many (.cat
    (choice
      [words ["static", "final", "const", "late", "public", "private", "protected", "internal",
          "override", "async", "abstract", "virtual", "synchronized", "external", "open",
          "suspend", "inline", "readonly", "unsafe", "extern", "export", "default", "factory"],
        .cat (Node.text "pub".toList)
          (opt (seq [.char '(', atLeastOne (wordCharOr ":"), .char ')'])),
        words ["def", "fun", "func", "fn"], functionWord])
    gap)

/-- Type parameters before a member or function. -/
def typeParameters : Node :=
  opt (.cat angles blanks)

/-- A type, its type arguments and suffixes, and the blanks after it. -/
def typeText : Node :=
  seq [atLeastOne (wordCharOr ".$"), opt angles, many (among "[]?*&"), gap]

/-- A class-like declaration. -/
def classLead : Node :=
  seq
    [optWord "export", optWord "default",
      many (.cat
        (words ["public", "private", "protected", "internal", "abstract", "sealed", "final",
          "static", "data", "open", "base", "interface", "inline", "partial", "declare", "enum",
          "value", "annotation"])
        gap),
      words ["class", "mixin", "enum", "extension", "interface", "struct", "trait", "object",
        "record"],
      gap, .group nameGroup name]

/-- A method with a parameter list. -/
def methodLead : Node :=
  seq
    [modifiers, typeParameters, opt typeText, opt (.char '*'), .group nameGroup name, parameters]

/-- A getter, with or without an empty parameter list and a type. -/
def getterLead : Node :=
  seq
    [modifiers, opt typeText, Node.text "get".toList, gap, .group nameGroup name, blanks,
      opt (seq [.char '(', blanks, .char ')']), blanks,
      opt (seq [.char ':', blanks, fewestSome (noneOf "\x7b=;")]), blanks,
      choice [.char '{', Node.text "=>".toList, .char ';', .anchor .textEndOrLastBreak]]

/-- A setter. -/
def setterLead : Node :=
  seq
    [modifiers, opt typeText, Node.text "set".toList, gap, .group nameGroup name, blanks,
      .char '(']

/-- A constructor of the named class: the class name, possibly with a further
name after a dot, or one of the words for constructors. -/
def constructorLead (className : Text) : Node :=
  seq
    [many (.cat
        (words ["public", "private", "protected", "internal", "const", "factory", "explicit",
          "inline", "def"])
        gap),
      choice
        [.cat (Node.text className)
          (opt (seq [blanks, .char '.', blanks, .group nameGroup name])),
          .group keywordGroup (words ["constructor", "__init__", "init"])],
      blanks, .char '(']

/-- A function with a parameter list.  A receiver in parentheses may stand after
the keyword. -/
def functionLead : Node :=
  seq
    [modifiers,
      opt (.group keywordGroup
        (seq [functionWords, gap,
          opt (seq [.char '(', many (noneOf ")"), .char ')', blanks])])),
      typeParameters, opt (.group typeGroup typeText), opt (.char '*'), opt (.char '&'),
      .group nameGroup name, parameters]

/-- A variable that is given a function. -/
def arrowLead : Node :=
  seq
    [optWord "export", words ["const", "let", "var"], gap, .group nameGroup name, blanks,
      opt (.cat (.char ':') (atLeastOne (noneOf "="))), .char '=', blanks, optWord "async",
      choice
        [.cat (Node.text "function".toList) (.anchor (.wordEdge false)),
          seq
            [choice [seq [.char '(', many (noneOf ")"), .char ')'], name], blanks,
              opt (seq [.char ':', blanks, atLeastOne (noneOf "=")]), Node.text "=>".toList]]]

/-- A line on which a function keyword stands after any number of words. -/
def declaringWords : Node :=
  seq [many (.cat (atLeastOne (wordCharOr "()")) gap), functionWords, blank]

/-- A statement that only looks like a declaration. -/
def statementLead : Node :=
  .cat
    (words ["import", "from", "package", "part", "library", "typedef", "using", "require", "let",
      "var", "const", "final", "return", "throw", "raise", "await", "yield", "delete", "else",
      "case", "default:", "module", "namespace", "print", "echo"])
    (.anchor (.wordEdge false))

/-- Words that are followed by a parenthesis without being a declared name. -/
def controlWords : List Text :=
  ["if", "for", "while", "switch", "catch", "assert", "return", "elif", "with", "sizeof",
    "typeof", "new", "not", "in", "is", "and", "or", "except", "lambda"].map String.toList

/-- The words with which the line after a class line may continue it. -/
def classContinuations : List Text :=
  ["extends", "implements", "with", "where", "on", ":"].map String.toList

end Lead
end Codemap
