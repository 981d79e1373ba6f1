import Codemap.Text.Utf8

namespace Codemap

/-!
# Bytes as text of sixty-four characters

Three bytes are written as four characters of six bits each; one or two bytes at
the end are written as two or three characters and filled up with equals signs.
The reader passes over characters that are not among the sixty-four, and the text
ends where a group has been filled up.
-/

namespace Base64

/-- The characters for the values of six bits. -/
def alphabet : List Char :=
  "ABCDEFGHIJKLMNOPQRSTUVWXYZabcdefghijklmnopqrstuvwxyz0123456789+/".toList

/-- The value of a character. -/
def value? (c : Char) : Option Nat :=
  alphabet.findIdx? (· == c)

/-- The character for a value. -/
def character (value : Nat) : Char :=
  alphabet.getD (value % 64) 'A'

/-- Read the characters that follow `count` characters of a group, whose last bits
that are not yet in a byte are `left`; `fillers` equals signs have just passed. -/
def decodeFrom (count left fillers : Nat) : Text → Option Bytes
  | [] => if count = 0 then some [] else none
  | '=' :: rest =>
      if count < 2 then decodeFrom count left fillers rest
      else if 3 ≤ count + fillers then some []
      else decodeFrom count left (fillers + 1) rest
  | c :: rest =>
      match value? c with
      | none => decodeFrom count left fillers rest
      | some value =>
          match count with
          | 0 => decodeFrom 1 value 0 rest
          | 1 => (decodeFrom 2 (value % 16) 0 rest).map (UInt8.ofNat (left * 4 + value / 16) :: ·)
          | 2 => (decodeFrom 3 (value % 4) 0 rest).map (UInt8.ofNat (left * 16 + value / 4) :: ·)
          | _ => (decodeFrom 0 0 0 rest).map (UInt8.ofNat (left * 64 + value) :: ·)

/-- Read bytes; nothing if the last group is not complete. -/
def decode? (text : Text) : Option Bytes :=
  decodeFrom 0 0 0 text

/-- Write bytes. -/
def encode : Bytes → Text
  | [] => []
  | [a] => [character (a.toNat / 4), character (a.toNat % 4 * 16), '=', '=']
  | [a, b] =>
      [character (a.toNat / 4), character (a.toNat % 4 * 16 + b.toNat / 16),
        character (b.toNat % 16 * 4), '=']
  | a :: b :: c :: rest =>
      character (a.toNat / 4) :: character (a.toNat % 4 * 16 + b.toNat / 16) ::
        character (b.toNat % 16 * 4 + c.toNat / 64) :: character (c.toNat % 64) :: encode rest

/-- The number of bytes of a line. -/
def lineSize : Nat := 57

/-- Write bytes as lines, each with a line feed.  The fuel is the number of bytes. -/
def encodeLinesFrom : Nat → Bytes → Text
  | 0, _ => []
  | fuel + 1, bytes =>
      if bytes.isEmpty then []
      else encode (bytes.take lineSize) ++ '\n' :: encodeLinesFrom fuel (bytes.drop lineSize)

/-- Write bytes as lines of at most seventy-six characters. -/
def encodeLines (bytes : Bytes) : Text :=
  encodeLinesFrom bytes.length bytes

end Base64
end Codemap
