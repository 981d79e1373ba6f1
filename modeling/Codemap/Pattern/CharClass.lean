import Codemap.Text.Case
import Codemap.Text.Digit

namespace Codemap
namespace Pattern

/-!
# Character classes

A character class is a list of items, possibly negated.  An item is a range of
code points or one of the named categories, each of which has a reading for all
of Unicode and one that is confined to ASCII.

A class may ignore case.  Two characters fold together when they have the same
lower-case form, or when their lower-case forms are listed as variants of one
letter.  A class that ignores case contains what folds together with a character
of one of its ranges.  Only the basic plane is folded like that: beyond it a range
is compared with the lower-case and the upper-case form of a character, under the
rule for ASCII too, and a single member of a class with the lower-case form alone.
A category is not folded at all; a character and its lower-case form belong to the
same categories.
-/

/-- The named categories of characters. -/
inductive Category where
  | digit
  | space
  | word
deriving DecidableEq, Repr

/-- An item of a class.  A negated category holds the characters outside it. -/
inductive ClassItem where
  /-- A character that is no member of a class with others, in all its forms. -/
  | letter (c : Char)
  | single (c : Char)
  | range (low high : Char)
  | category (kind : Category) (ascii negated : Bool)
deriving DecidableEq, Repr

/-- How a class or a literal treats letter case. -/
inductive CaseRule where
  | exact
  | fold
  | foldAscii
deriving DecidableEq, Repr

/-- A class of characters. -/
structure CharClass where
  negated : Bool := false
  items : List ClassItem
  cases : CaseRule := .exact
deriving DecidableEq, Repr

namespace Category

/-- A character belongs to a category. -/
def contains (kind : Category) (ascii : Bool) (c : Char) : Bool :=
  match kind with
  | .digit => if ascii then c.isDigit else isDecimalDigit c
  | .space =>
      if ascii then c == ' ' || (9 ≤ c.toNat && c.toNat ≤ 13) else isBlank c
  | .word => if ascii then c == '_' || c.isAlphanum else isWordChar c

end Category

namespace ClassItem

/-- A character belongs to an item. -/
def contains (item : ClassItem) (c : Char) : Bool :=
  match item with
  | .letter member | .single member => c == member
  | .range low high => low.toNat ≤ c.toNat && c.toNat ≤ high.toNat
  | .category kind ascii negated => kind.contains ascii c != negated

end ClassItem

/-- Lower-case letters that fold together although they are lower case both. -/
def letterVariants : List (Nat × List Nat) := [
  (0x69, [0x131]), (0x73, [0x17F]), (0xB5, [0x3BC]), (0x131, [0x69]), (0x17F, [0x73]),
  (0x345, [0x3B9, 0x1FBE]), (0x390, [0x1FD3]), (0x3B0, [0x1FE3]), (0x3B2, [0x3D0]),
  (0x3B5, [0x3F5]), (0x3B8, [0x3D1]), (0x3B9, [0x345, 0x1FBE]), (0x3BA, [0x3F0]),
  (0x3BC, [0xB5]), (0x3C0, [0x3D6]), (0x3C1, [0x3F1]), (0x3C2, [0x3C3]), (0x3C3, [0x3C2]),
  (0x3C6, [0x3D5]), (0x3D0, [0x3B2]), (0x3D1, [0x3B8]), (0x3D5, [0x3C6]), (0x3D6, [0x3C0]),
  (0x3F0, [0x3BA]), (0x3F1, [0x3C1]), (0x3F5, [0x3B5]), (0x432, [0x1C80]), (0x434, [0x1C81]),
  (0x43E, [0x1C82]), (0x441, [0x1C83]), (0x442, [0x1C84, 0x1C85]), (0x44A, [0x1C86]),
  (0x463, [0x1C87]), (0x1C80, [0x432]), (0x1C81, [0x434]), (0x1C82, [0x43E]), (0x1C83, [0x441]),
  (0x1C84, [0x442, 0x1C85]), (0x1C85, [0x442, 0x1C84]), (0x1C86, [0x44A]), (0x1C87, [0x463]),
  (0x1C88, [0xA64B]), (0x1E61, [0x1E9B]), (0x1E9B, [0x1E61]), (0x1FBE, [0x345, 0x3B9]),
  (0x1FD3, [0x390]), (0x1FE3, [0x3B0]), (0xA64B, [0x1C88]), (0xFB05, [0xFB06]),
  (0xFB06, [0xFB05])]

/-- The lower-case forms that count as the same letter as a lower-case form. -/
def variantsOf (lowered : Char) : List Char :=
  match letterVariants.find? fun entry => entry.1 == lowered.toNat with
  | some (_, others) => lowered :: others.map Char.ofNat
  | none => [lowered]

/-- The characters whose lower-case form is the given one. -/
def raisedForms (lowered : Char) : List Char :=
  let n := lowered.toNat
  let beyond := Text.lowerRuns.filterMap fun run =>
    let raised : Int := n - run.shift
    if 0 ≤ raised && run.covers raised.toNat then some (Char.ofNat raised.toNat) else none
  let ascii := if 97 ≤ n && n ≤ 122 then [Char.ofNat (n - 32)] else []
  let dotted := if n = 0x69 then [Char.ofNat 0x130] else []
  (if lowerChar lowered = lowered then [lowered] else []) ++ ascii ++ dotted ++ beyond

/-- All characters that fold together with a character. -/
def foldedWith (cases : CaseRule) (c : Char) : List Char :=
  match cases with
  | .exact => [c]
  | .foldAscii => if c.toNat < 128 then [c.toLower, c.toUpper] else [c]
  | .fold => (variantsOf (lowerChar c)).flatMap raisedForms

/-- The lower-case form of a character under a rule for letter case. -/
def loweredBy (cases : CaseRule) (c : Char) : Char :=
  match cases with
  | .exact => c
  | .foldAscii => c.toLower
  | .fold => lowerChar c

/-- The characters whose upper-case forms stand after them, although they are not
the lower-case forms of these. -/
def oddlyRaised : List (Nat × Nat) := [
  (0xB5, 0x39C), (0x149, 0x2BC), (0x345, 0x399), (0x390, 0x399), (0x1C88, 0xA64A),
  (0x1FB2, 0x1FBA), (0x1FC2, 0x1FCA), (0x1FF2, 0x1FFA)]

/-- The lower-case forms of a character that comes after them, whose own upper-case forms
begin with one that stands before them. -/
def loweredOnly : List (Nat × Nat) := [
  (0xDF, 0xDF), (0x1F80, 0x1FAF), (0x1FB3, 0x1FB3), (0x1FC3, 0x1FC3), (0x1FF3, 0x1FF3)]

/-- The first character of the upper-case form of a lower-case one, if it comes after it;
otherwise any character up to this one. -/
def raisedForm (lowered : Char) : Char :=
  match oddlyRaised.find? fun entry => entry.1 == lowered.toNat with
  | some (_, raised) => Char.ofNat raised
  | none =>
      if inRanges loweredOnly lowered.toNat then lowered
      else ((raisedForms lowered).find? (· != lowered)).getD lowered

/-- Two characters are equal under a rule for letter case.  Here only the
lower-case forms are compared. -/
def sameLetter (cases : CaseRule) (a b : Char) : Bool :=
  match cases with
  | .exact => a == b
  | .foldAscii => a == b || (a.toNat < 128 && b.toNat < 128 && a.toLower == b.toLower)
  | .fold => lowerChar a == lowerChar b

/-- The number of characters in the basic plane. -/
def basicPlane : Nat := 0x10000

/-- A character belongs to an item when case is ignored. -/
def ClassItem.containsFolded (cases : CaseRule) (item : ClassItem) (c : Char) : Bool :=
  let lowered := loweredBy cases c
  match item with
  | .letter member => (foldedWith cases c).contains member
  | .single member =>
      if member.toNat < basicPlane then (foldedWith cases c).contains member
      else lowered == member
  | .range _ high =>
      (foldedWith cases c).any (fun other => other.toNat < basicPlane && item.contains other) ||
        (basicPlane ≤ high.toNat && (item.contains lowered || item.contains (raisedForm lowered)))
  | .category _ _ _ => item.contains c

namespace CharClass

/-- A character belongs to a class. -/
def contains (cls : CharClass) (c : Char) : Bool :=
  let listed := match cls.cases with
    | .exact => cls.items.any fun item => item.contains c
    | cases => cls.items.any fun item => item.containsFolded cases c
  listed != cls.negated

/-- The class of the listed characters. -/
def ofChars (chars : List Char) : CharClass where
  items := chars.map fun c => .range c c

/-- The class of all characters but the listed ones. -/
def notChars (chars : List Char) : CharClass where
  negated := true
  items := chars.map fun c => .range c c

end CharClass
end Pattern
end Codemap
