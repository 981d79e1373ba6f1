import Codemap.Json.Value

namespace Codemap

/-!
# Reading JSON

The reader accepts standard JSON and, as values, the three names of the numbers
that standard JSON lacks.  White space is the four characters JSON allows.  An
unpaired surrogate escape stands for the replacement character, because a text
of this library holds code points only.

Each reading function consumes a piece of the text and returns the rest.  The
nesting depth and the number of items are bounded by the length of the text,
which is the fuel the public function supplies.
-/

namespace Json

/-- JSON white space. -/
def isSpace (c : Char) : Bool :=
  c == ' ' || c == '\t' || c == '\n' || c == '\r'

/-- The text after its leading white space. -/
def skipSpace (text : Text) : Text :=
  text.dropWhile isSpace

/-- The value of a hexadecimal digit. -/
def hexValue? (c : Char) : Option Nat :=
  let n := c.toNat
  if 48 ≤ n ∧ n ≤ 57 then some (n - 48)
  else if 97 ≤ n ∧ n ≤ 102 then some (n - 87)
  else if 65 ≤ n ∧ n ≤ 70 then some (n - 55)
  else none

/-- The code unit written by four hexadecimal digits. -/
def unitOf? (a b c d : Char) : Option Nat := do
  let w ← hexValue? a
  let x ← hexValue? b
  let y ← hexValue? c
  let z ← hexValue? d
  some (((w * 16 + x) * 16 + y) * 16 + z)

/-- The character a one-letter escape stands for. -/
def simpleEscape? (c : Char) : Option Char :=
  match c with
  | '\x22' => some '\x22'
  | '\\' => some '\\'
  | '/' => some '/'
  | 'b' => some '\x08'
  | 'f' => some '\x0c'
  | 'n' => some '\n'
  | 'r' => some '\r'
  | 't' => some '\t'
  | _ => none

/-- A piece of a string: a character, or a code unit that may be half of one. -/
inductive Piece where
  | char (c : Char)
  | unit (n : Nat)

/-- The pieces of a string up to its closing quote, and the text after it. -/
def readPieces? : Text → Option (List Piece × Text)
  | [] => none
  | '\x22' :: rest => some ([], rest)
  | '\\' :: 'u' :: a :: b :: c :: d :: rest => do
      let n ← unitOf? a b c d
      let (pieces, later) ← readPieces? rest
      some (.unit n :: pieces, later)
  | '\\' :: c :: rest => do
      let plain ← simpleEscape? c
      let (pieces, later) ← readPieces? rest
      some (.char plain :: pieces, later)
  | c :: rest =>
      if c = '\\' ∨ c.toNat < 32 then none
      else do
        let (pieces, later) ← readPieces? rest
        some (.char c :: pieces, later)

/-- The characters that pieces stand for: two matching surrogates are one
character, an unpaired one is the replacement character. -/
def ofPieces : List Piece → Text
  | [] => []
  | .char c :: rest => c :: ofPieces rest
  | .unit high :: .unit low :: rest =>
      if 0xD800 ≤ high ∧ high < 0xDC00 ∧ 0xDC00 ≤ low ∧ low < 0xE000 then
        Char.ofNat (0x10000 + (high - 0xD800) * 1024 + (low - 0xDC00)) :: ofPieces rest
      else if 0xD800 ≤ high ∧ high < 0xE000 then '\uFFFD' :: ofPieces (.unit low :: rest)
      else Char.ofNat high :: ofPieces (.unit low :: rest)
  | .unit n :: rest =>
      (if 0xD800 ≤ n ∧ n < 0xE000 then '\uFFFD' else Char.ofNat n) :: ofPieces rest

/-- A string after its opening quote. -/
def readString? (text : Text) : Option (Text × Text) :=
  (readPieces? text).map fun (pieces, rest) => (ofPieces pieces, rest)

/-- The digits after a point, which may be absent; a point without digits is not
part of the number. -/
def splitPlaces (text : Text) : Text × Text :=
  match text with
  | '.' :: later =>
      let (digits, rest) := Binary64.takeDigits later
      if digits.isEmpty then ([], text) else ('.' :: digits, rest)
  | _ => ([], text)

/-- The exponent of a number, which may be absent. -/
def splitExponent (text : Text) : Text × Text :=
  match text with
  | c :: later =>
      if c = 'e' ∨ c = 'E' then
        let sign := match later with
          | '-' :: _ => ['-']
          | '+' :: _ => ['+']
          | _ => []
        let (digits, rest) := Binary64.takeDigits (later.drop sign.length)
        if digits.isEmpty then ([], text) else (c :: sign ++ digits, rest)
      else ([], text)
  | [] => ([], [])

/-- The digits before a point; a zero in front stands alone. -/
def takeWhole (text : Text) : Text × Text :=
  match text with
  | '0' :: later => (['0'], later)
  | _ => Binary64.takeDigits text

/-- A number after its sign.  An integer has neither places nor an exponent, and
no more digits than an integer may be read from. -/
def readNumber? (negative : Bool) (text : Text) : Option (Json × Text) :=
  let (whole, rest) := takeWhole text
  if whole.isEmpty then none
  else
    let (places, rest) := splitPlaces rest
    let (exponent, rest) := splitExponent rest
    if places.isEmpty && exponent.isEmpty then
      if whole.length ≤ Text.digitLimit then
        some (.int (Text.withSign negative (Binary64.digitsValue whole)), rest)
      else none
    else
      (Binary64.readDecimal? negative (whole ++ places ++ exponent)).map fun x => (.float x, rest)

/-- The names of values and what follows them. -/
def readName? (text : Text) : Option (Json × Text) :=
  let names : List (String × Json) :=
    [("null", .null), ("true", .bool true), ("false", .bool false),
      ("NaN", .float Binary64.nan), ("Infinity", .float (Binary64.infinity false)),
      ("-Infinity", .float (Binary64.infinity true))]
  (names.find? fun entry => entry.1.toList.isPrefixOf text).map fun entry =>
    (entry.2, text.drop entry.1.length)

mutual

/-- Read one value from a text without leading white space. -/
def readValue? : Nat → Text → Option (Json × Text)
  | 0, _ => none
  | fuel + 1, text =>
      match text with
      | '\x22' :: rest => (readString? rest).map fun (s, later) => (.str s, later)
      | '[' :: rest =>
          match skipSpace rest with
          | ']' :: later => some (.arr [], later)
          | inner => (readItems? fuel inner).map fun (items, later) => (.arr items, later)
      | '{' :: rest =>
          match skipSpace rest with
          | '}' :: later => some (.obj [], later)
          | inner => (readMembers? fuel [] inner).map fun (members, later) => (.obj members, later)
      | _ =>
          match readName? text with
          | some found => some found
          | none =>
              match text with
              | '-' :: rest => readNumber? true rest
              | _ => readNumber? false text

/-- Read the items of an array that is not empty. -/
def readItems? : Nat → Text → Option (List Json × Text)
  | 0, _ => none
  | fuel + 1, text =>
      match readValue? fuel text with
      | none => none
      | some (item, rest) =>
          match skipSpace rest with
          | ']' :: later => some ([item], later)
          | ',' :: later =>
              (readItems? fuel (skipSpace later)).map fun (items, last) => (item :: items, last)
          | _ => none

/-- Read the members of an object that is not empty, after those already read. -/
def readMembers? : Nat → List (Text × Json) → Text → Option (List (Text × Json) × Text)
  | 0, _, _ => none
  | fuel + 1, members, text =>
      match text with
      | '\x22' :: rest =>
          match readString? rest with
          | none => none
          | some (name, rest) =>
              match skipSpace rest with
              | ':' :: rest =>
                  match readValue? fuel (skipSpace rest) with
                  | none => none
                  | some (value, rest) =>
                      let extended := put members name value
                      match skipSpace rest with
                      | '}' :: later => some (extended, later)
                      | ',' :: later => readMembers? fuel extended (skipSpace later)
                      | _ => none
              | _ => none
      | _ => none

end

/-- Read a text that holds exactly one value. -/
def parse? (text : Text) : Option Json :=
  match readValue? (2 * text.length + 2) (skipSpace text) with
  | some (value, rest) => if (skipSpace rest).isEmpty then some value else none
  | none => none

end Json
end Codemap
