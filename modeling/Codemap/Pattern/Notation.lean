import Codemap.Pattern.Node
import Codemap.Text.Names

namespace Codemap
namespace Pattern

/-!
# The parts of a written pattern

A written pattern is cut into tokens first: a backslash together with the character
after it, or a single character.  This module reads what needs no nesting: options,
escapes and character classes.

A pattern may be refused in two ways.  Most faults make it malformed.  A number of
repetitions that no engine counts, options that exclude one another, and groups that are
nested too deeply are faults of their own, because they are noticed at another time.
-/

/-- Why a written pattern is refused. -/
inductive PatternFault where
  | malformed
  | repetitionTooLarge
  | tooManyDigits (count : Nat)
  | incompatibleOptions
  | nestedTooDeeply
deriving DecidableEq, Repr, Inhabited

namespace PatternFault

/-- The wording of a fault. -/
def message : PatternFault → Text
  | .malformed => "malformed pattern".toList
  | .repetitionTooLarge => "the repetition number is too large".toList
  | .tooManyDigits count =>
      "Exceeds the limit (4300 digits) for integer string conversion: value has ".toList ++
        Text.ofNat count ++
        " digits; use sys.set_int_max_str_digits() to increase the limit".toList
  | .incompatibleOptions => "ASCII and UNICODE flags are incompatible".toList
  | .nestedTooDeeply => "maximum recursion depth exceeded".toList

end PatternFault

/-- Options that hold for a part of a pattern. -/
structure Options where
  ignoresCase : Bool := false
  isMultiline : Bool := false
  dotAll : Bool := false
  isVerbose : Bool := false
  isAscii : Bool := false
deriving DecidableEq, Repr, Inhabited

namespace Options

/-- The rule for letter case. -/
def cases (options : Options) : CaseRule :=
  if !options.ignoresCase then .exact else if options.isAscii then .foldAscii else .fold

end Options

/-- Cut a pattern into tokens.  A backslash at the end is a token of its own. -/
def cut : Text → List Text
  | [] => []
  | '\\' :: c :: rest => ['\\', c] :: cut rest
  | c :: rest => [c] :: cut rest

/-- The token of a backslash with nothing after it. -/
def loneBackslash : Text := ['\\']

/-- The digits at the beginning of a list of tokens, at most so many, and the rest. -/
def takeDigits (base : Nat) : Nat → List Text → List Nat × List Text
  | count + 1, [c] :: rest =>
      if c.toNat < 128 then
        match Text.digitIn? base c with
        | some digit =>
            let (digits, last) := takeDigits base count rest
            (digit :: digits, last)
        | none => ([], [c] :: rest)
      else ([], [c] :: rest)
  | _, tokens => ([], tokens)

/-! ## Characters by number -/

/-- A character of a pattern by its number.  Numbers that belong to no character of a
text are kept, so that a range may end in one. -/
abbrev Code := Nat

/-- The smallest character with at least this number. -/
def charFrom (code : Code) : Char :=
  Char.ofNat (if 0xD800 ≤ code ∧ code ≤ 0xDFFF then 0xE000 else code)

/-- The largest character with at most this number. -/
def charUpTo (code : Code) : Char :=
  Char.ofNat (if 0xD800 ≤ code ∧ code ≤ 0xDFFF then 0xD7FF else code)

/-- The character with a number, if a text can hold it. -/
def charWith? (code : Code) : Option Char :=
  if 0xD800 ≤ code ∧ code ≤ 0xDFFF then none else some (Char.ofNat code)

/-- The characters between two numbers as an item of a class, if there are any. -/
def rangeItem? (low high : Code) : Option ClassItem :=
  let first := charFrom low
  let last := charUpTo high
  if first.toNat ≤ last.toNat then some (.range first last) else none

/-- The largest number of a character. -/
def lastCode : Code := 0x10FFFF

/-! ## Escapes -/

/-- What an escape stands for. -/
inductive Escape where
  | code (code : Code)
  | category (kind : Category) (negated : Bool)
  | anchor (condition : Bool → Anchor)
  /-- A reference to a group. -/
  | group (index : Nat)

/-- Escapes of one letter for a character. -/
def letterCode? (c : Char) : Option Code :=
  match c with
  | 'a' => some 7
  | 'b' => some 8
  | 'f' => some 12
  | 'n' => some 10
  | 'r' => some 13
  | 't' => some 9
  | 'v' => some 11
  | '\\' => some 92
  | _ => none

/-- Escapes of one letter for a category. -/
def letterCategory? (c : Char) : Option (Category × Bool) :=
  match c with
  | 'd' => some (.digit, false)
  | 'D' => some (.digit, true)
  | 's' => some (.space, false)
  | 'S' => some (.space, true)
  | 'w' => some (.word, false)
  | 'W' => some (.word, true)
  | _ => none

/-- Escapes of one letter for a condition on a position. -/
def letterAnchor? (c : Char) : Option (Bool → Anchor) :=
  match c with
  | 'A' => some fun _ => .textStart
  | 'Z' => some fun _ => .textEnd
  | 'b' => some .wordEdge
  | 'B' => some .notWordEdge
  | _ => none

/-- An escape for a character by so many hexadecimal digits. -/
def hexEscape (count : Nat) (tokens : List Text) : Except PatternFault (Code × List Text) :=
  let (digits, rest) := takeDigits 16 count tokens
  let code := Text.numberOfDigits 16 digits
  if digits.length = count ∧ code ≤ lastCode then .ok (code, rest) else .error .malformed

/-- The number of hexadecimal digits after a letter. -/
def hexCount? (c : Char) : Option Nat :=
  match c with
  | 'x' => some 2
  | 'u' => some 4
  | 'U' => some 8
  | _ => none

/-- The text up to a token, which may not be the next one. -/
def upTo (stop : Text) (found : Text) : List Text → Except PatternFault (Text × List Text)
  | [] => .error .malformed
  | token :: rest =>
      if token = stop then
        if found.isEmpty then .error .malformed else .ok (found, rest)
      else upTo stop (found ++ token) rest

/-- An escape for a character by its name, which stands in braces. -/
def nameEscape (tokens : List Text) : Except PatternFault (Code × List Text) :=
  match tokens with
  | ['\x7b'] :: rest => do
      let (name, last) ← upTo ['\x7d'] [] rest
      match Text.named? name with
      | some code => return (code, last)
      | none => throw .malformed
  | _ => .error .malformed

/-- A letter or digit without a meaning of its own cannot be escaped. -/
def escapedSelf (c : Char) : Except PatternFault Code :=
  if c.isAlphanum then .error .malformed else .ok c.toNat

/-- Read an escape outside a class. -/
def readEscape (c : Char) (tokens : List Text) : Except PatternFault (Escape × List Text) :=
  match letterAnchor? c, letterCategory? c, letterCode? c, hexCount? c with
  | some condition, _, _, _ => .ok (.anchor condition, tokens)
  | _, some (kind, negated), _, _ => .ok (.category kind negated, tokens)
  | _, _, some code, _ => .ok (.code code, tokens)
  | _, _, _, some count => (hexEscape count tokens).map fun (code, rest) => (.code code, rest)
  | _, _, _, _ =>
      if c = 'N' then (nameEscape tokens).map fun (code, rest) => (.code code, rest)
      else if c = '0' then
        let (digits, rest) := takeDigits 8 2 tokens
        .ok (.code (Text.numberOfDigits 8 digits), rest)
      else if c.isDigit then
        let first := c.toNat - 48
        match takeDigits 10 1 tokens with
        | ([second], rest) =>
            match takeDigits 8 1 rest with
            | ([third], last) =>
                if first < 8 ∧ second < 8 then
                  let code := (first * 8 + second) * 8 + third
                  if code ≤ 255 then .ok (.code code, last) else .error .malformed
                else .ok (.group (first * 10 + second), rest)
            | _ => .ok (.group (first * 10 + second), rest)
        | _ => .ok (.group first, tokens)
      else (escapedSelf c).map fun code => (.code code, tokens)

/-! ## Character classes -/

/-- A member of a class as it is written. -/
inductive Member where
  | code (code : Code)
  | category (kind : Category) (negated : Bool)
deriving DecidableEq, Repr, Inhabited

/-- Read an escape inside a class. -/
def readClassEscape (c : Char) (tokens : List Text) :
    Except PatternFault (Member × List Text) :=
  match letterCode? c, letterCategory? c, hexCount? c with
  | some code, _, _ => .ok (.code code, tokens)
  | _, some (kind, negated), _ => .ok (.category kind negated, tokens)
  | _, _, some count => (hexEscape count tokens).map fun (code, rest) => (.code code, rest)
  | _, _, _ =>
      if c = 'N' then (nameEscape tokens).map fun (code, rest) => (.code code, rest)
      else
        match Text.digitIn? 8 c with
        | some first =>
            if c.toNat < 128 then
              let (digits, rest) := takeDigits 8 2 tokens
              let code := Text.numberOfDigits 8 (first :: digits)
              if code ≤ 255 then .ok (.code code, rest) else .error .malformed
            else .ok (.code c.toNat, tokens)
        | none => (escapedSelf c).map fun code => (.code code, tokens)

/-- Read the member that a token begins. -/
def readMember (token : Text) (tokens : List Text) : Except PatternFault (Member × List Text) :=
  match token with
  | [c] => if c = '\\' then .error .malformed else .ok (.code c.toNat, tokens)
  | [mark, c] => if mark = '\\' then readClassEscape c tokens else .error .malformed
  | _ => .error .malformed

/-- The item of a class for a member. -/
def memberItem? (isAscii : Bool) : Member → Option ClassItem
  | .code code => (charWith? code).map .single
  | .category kind negated => some (.category kind isAscii negated)

/-- Read the members of a class up to its bracket.  The fuel is the number of tokens,
of which each member takes one. -/
def readMembers (isAscii : Bool) (isFirst : Bool) (items : List (Option ClassItem)) :
    Nat → List Text → Except PatternFault (List (Option ClassItem) × List Text)
  | 0, _ => .error .malformed
  | _, [] => .error .malformed
  | fuel + 1, token :: tokens =>
      if token = [']'] ∧ !isFirst then .ok (items.reverse, tokens)
      else do
        let (member, rest) ← readMember token tokens
        match rest with
        | ['-'] :: [']'] :: later =>
            return ((memberItem? isAscii (.code 45) :: memberItem? isAscii member :: items).reverse,
              later)
        | ['-'] :: next :: later =>
            let (other, last) ← readMember next later
            match member, other with
            | .code low, .code high =>
                if high < low then throw .malformed
                readMembers isAscii false (rangeItem? low high :: items) fuel last
            | _, _ => throw .malformed
        | ['-'] :: [] => throw .malformed
        | _ => readMembers isAscii false (memberItem? isAscii member :: items) fuel rest

/-- Read a class after its opening bracket. -/
def readClass (options : Options) (tokens : List Text) :
    Except PatternFault (CharClass × List Text) := do
  let (negated, rest) := match tokens with
    | ['^'] :: rest => (true, rest)
    | _ => (false, tokens)
  let (members, last) ← readMembers options.isAscii true [] (rest.length + 1) rest
  let items := match members.eraseDups with
    | [some (.single c)] => [.letter c]
    | _ => members.filterMap id
  return ({ negated, items, cases := options.cases }, last)

/-! ## Options -/

/-- A change of options as it is written: the letters that turn options on and off. -/
structure OptionChange where
  turnedOn : List Char := []
  turnedOff : List Char := []
deriving DecidableEq, Repr, Inhabited

/-- The letters of options. -/
def optionLetters : List Char := ['i', 'm', 's', 'x', 'a', 't', 'u']

/-- Apply a change. -/
def Options.changed (options : Options) (change : OptionChange) : Options :=
  let after (letter : Char) (old : Bool) : Bool :=
    (old || change.turnedOn.contains letter) && !change.turnedOff.contains letter
  { ignoresCase := after 'i' options.ignoresCase
    isMultiline := after 'm' options.isMultiline
    dotAll := after 's' options.dotAll
    isVerbose := after 'x' options.isVerbose
    isAscii :=
      if change.turnedOn.contains 'a' then true
      else if change.turnedOn.contains 'u' then false
      else options.isAscii }

/-- Read letters of options up to a token that is none; that token and the rest are
returned. -/
def readLetters (found : List Char) : List Text → Except PatternFault (List Char × Text × List Text)
  | [] => .error .malformed
  | token :: rest =>
      match token with
      | [c] =>
          if optionLetters.contains c then readLetters (found ++ [c]) rest
          else .ok (found, token, rest)
      | _ => .error .malformed

/-- Read a change of options from its first token on.  The second result says whether it
is meant for the whole pattern. -/
def readOptions (tokens : List Text) : Except PatternFault (OptionChange × Bool × List Text) := do
  let (turnedOn, stop, rest) ← readLetters [] tokens
  if turnedOn.contains 'a' && turnedOn.contains 'u' then throw .malformed
  if stop = [')'] then return ({ turnedOn }, true, rest)
  if turnedOn.contains 't' then throw .malformed
  if stop = [':'] then return ({ turnedOn }, false, rest)
  if stop ≠ ['-'] then throw .malformed
  let (turnedOff, last, final) ← readLetters [] rest
  if last ≠ [':'] || turnedOff.isEmpty then throw .malformed
  if turnedOff.any fun c => c == 'a' || c == 'u' || c == 't' || turnedOn.contains c then
    throw .malformed
  return ({ turnedOn, turnedOff }, false, final)

end Pattern
end Codemap
