namespace Codemap

/-!
# Text as a sequence of code points

Every text of this library is a list of characters, so a column, an index and a
length all count code points, and a definition that walks a text is plain
structural recursion.  This module holds the vocabulary the other modules share:
which characters are blank, which ones end a line, how a text is trimmed, cut
into words, fields and lines, and the order in which texts are sorted.

A character is a Unicode scalar value, so no text holds half of a surrogate pair.  Command
lines, request bodies and files are taken to be free of them.  Only a scalar of a settings or
package file can spell one out, and what such a scalar holds is no text before it has been
checked.

A blank is one of the characters Unicode gives the white space directions or the
space separator category; that is a larger class than the ASCII one and the
smaller class of line breaks is not contained in "newline" alone.
-/

/-- A text is the list of its code points. -/
abbrev Text := List Char

/-- Two texts are compared code point by code point, and equal ones are the same. -/
instance lawfulBEqText : LawfulBEq Text := inferInstance

/-- White space: the ASCII controls from tab to carriage return and from the
file to the unit separator, the space, and the Unicode space separators. -/
def isBlank (c : Char) : Bool :=
  let n := c.toNat
  (9 ≤ n && n ≤ 13) || (28 ≤ n && n ≤ 32) || n == 0x85 || n == 0xA0 || n == 0x1680 ||
    (0x2000 ≤ n && n ≤ 0x200A) || n == 0x2028 || n == 0x2029 || n == 0x202F ||
    n == 0x205F || n == 0x3000

/-- The characters at which a text is cut into lines. -/
def isLineBreak (c : Char) : Bool :=
  let n := c.toNat
  (10 ≤ n && n ≤ 13) || (28 ≤ n && n ≤ 30) || n == 0x85 || n == 0x2028 || n == 0x2029

/-- Every line break is a blank, so trimming a line never leaves one behind. -/
theorem isBlank_of_isLineBreak {c : Char} (breaks : isLineBreak c = true) :
    isBlank c = true := by
  simp only [isLineBreak, isBlank, Bool.or_eq_true, Bool.and_eq_true, beq_iff_eq,
    decide_eq_true_eq] at breaks ⊢
  omega

namespace Text

/-! ## Trimming -/

/-- The text without its leading blanks. -/
def trimStart (text : Text) : Text :=
  text.dropWhile isBlank

/-- The text without the longest final run of characters that satisfy `drop`. -/
def dropTrailing (drop : Char → Bool) (text : Text) : Text :=
  (text.reverse.dropWhile drop).reverse

/-- The text without its trailing blanks. -/
def trimEnd (text : Text) : Text :=
  text.dropTrailing isBlank

/-- The text without leading and trailing blanks. -/
def trim (text : Text) : Text :=
  Text.trimEnd text.trimStart

/-- A text that holds nothing but blanks. -/
def isBlankText (text : Text) : Bool :=
  text.all isBlank

/-! ## Tests and cuts -/

/-- The text starts with one of the given texts. -/
def startsWithAny (text : Text) (starts : List Text) : Bool :=
  starts.any fun start => start.isPrefixOf text

/-- The text ends in one of the given texts. -/
def endsWithAny (text : Text) (ends : List Text) : Bool :=
  ends.any fun tail => tail.isSuffixOf text

/-- The text without the given ending, if it has that ending. -/
def dropEnding (ending : Text) (text : Text) : Text :=
  if ending.isSuffixOf text then text.take (text.length - ending.length) else text

/-- The part of the text from column `start` up to, but not including, `stop`. -/
def slice (text : Text) (start stop : Nat) : Text :=
  (text.take stop).drop start

/-- The text from its first occurrence of `part` on, if `part` occurs in it. -/
def find? (part : Text) : Text → Option Text
  | [] => if part.isEmpty then some [] else none
  | c :: rest => if part.isPrefixOf (c :: rest) then some (c :: rest) else find? part rest

/-- One text occurs inside another. -/
def includes (text part : Text) : Bool :=
  (find? part text).isSome

/-- The fields between the occurrences of a separator; there is always one
more field than there are separators. -/
def fields (separator : Char) : Text → List Text
  | [] => [[]]
  | c :: rest =>
      match fields separator rest with
      | [] => [[c]]
      | field :: others =>
          if c = separator then [] :: field :: others else (c :: field) :: others

def wordsFrom (current : Text) : Text → List Text
  | [] => if current.isEmpty then [] else [current.reverse]
  | c :: rest =>
      if isBlank c then
        if current.isEmpty then wordsFrom [] rest else current.reverse :: wordsFrom [] rest
      else wordsFrom (c :: current) rest

/-- The maximal runs of characters that are not blank. -/
def words (text : Text) : List Text :=
  wordsFrom [] text

/-- The words of a text with one space between neighbours. -/
def normalizeBlanks (text : Text) : Text :=
  List.intercalate [' '] text.words

def linesFrom (current : Text) : Text → List Text
  | [] => if current.isEmpty then [] else [current.reverse]
  | '\r' :: '\n' :: rest => current.reverse :: linesFrom [] rest
  | c :: rest =>
      if isLineBreak c then current.reverse :: linesFrom [] rest
      else linesFrom (c :: current) rest

/-- The lines of a text without their line breaks.  A carriage return followed
by a line feed is one break, and a break at the very end opens no further line. -/
def lines (text : Text) : List Text :=
  linesFrom [] text

/-- Write every line ending as a single line feed, as a reader of text files does. -/
def unifyNewlines : Text → Text
  | [] => []
  | '\r' :: '\n' :: rest => '\n' :: unifyNewlines rest
  | c :: rest => (if c = '\r' then '\n' else c) :: unifyNewlines rest

/-- Replace each occurrence of a character by a text. -/
def replaceChar (old : Char) (new : Text) (text : Text) : Text :=
  text.flatMap fun c => if c = old then new else [c]

/-! ## Order -/

/-- Texts are ordered by their code points, a shorter text before its extensions. -/
def le : Text → Text → Bool
  | [], _ => true
  | _ :: _, [] => false
  | a :: left, b :: right => a.val < b.val || (a == b && le left right)

/-- Sort texts by code points; equal texts all stay. -/
def sort (texts : List Text) : List Text :=
  texts.mergeSort le

/-- Sort texts by code points and keep one copy of each. -/
def sortedSet (texts : List Text) : List Text :=
  sort texts.eraseDups

/-- The order on texts decides between any two of them. -/
theorem le_total (left right : Text) : (le left right || le right left) = true := by
  induction left generalizing right with
  | nil => simp [le]
  | cons a rest hypothesis =>
      cases right with
      | nil => simp [le]
      | cons b others =>
          have step := hypothesis others
          simp only [le, Bool.or_eq_true, Bool.and_eq_true, decide_eq_true_eq, beq_iff_eq] at step ⊢
          rcases Nat.lt_trichotomy a.val.toNat b.val.toNat with below | same | above
          · exact Or.inl (Or.inl below)
          · have equal : a = b := Char.ext (UInt32.toNat_inj.mp same)
            subst equal
            rcases step with first | second
            · exact Or.inl (Or.inr ⟨rfl, first⟩)
            · exact Or.inr (Or.inr ⟨rfl, second⟩)
          · exact Or.inr (Or.inl above)

end Text
end Codemap
