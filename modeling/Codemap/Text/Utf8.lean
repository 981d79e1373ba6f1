import Codemap.Text.Basic

namespace Codemap

/-!
# UTF-8

Files hold bytes, and a file is a text only if its bytes are well-formed UTF-8.
Decoding proceeds one character at a time.  Where it fails, the failure covers
the longest run of bytes that could have begun a character, and says what is
wrong with it; a reader that has to go on replaces each such run by one
replacement character.
-/

/-- A sequence of bytes. -/
abbrev Bytes := List UInt8

namespace Utf8

/-- What is wrong with a run of bytes. -/
inductive Flaw where
  | badStart
  | badContinuation
  | endOfData
deriving DecidableEq, Repr, Inhabited

/-- The wording of a flaw. -/
def Flaw.message : Flaw → String
  | .badStart => "invalid start byte"
  | .badContinuation => "invalid continuation byte"
  | .endOfData => "unexpected end of data"

/-- The outcome of decoding one character from a sequence that is not empty: the
character or the failure, the number of bytes it covers, and the remaining bytes. -/
inductive Step where
  | char (c : Char) (length : Nat) (rest : Bytes)
  | flaw (what : Flaw) (length : Nat) (rest : Bytes)

/-- A byte that continues a character. -/
def isContinuation (b : UInt8) : Bool :=
  0x80 ≤ b.toNat && b.toNat ≤ 0xBF

/-- The bytes that may follow a given first byte.  They exclude encodings that are
longer than needed, surrogates, and numbers beyond the last code point. -/
def isSecond (first second : UInt8) : Bool :=
  let n := second.toNat
  match first.toNat with
  | 0xE0 => 0xA0 ≤ n && n ≤ 0xBF
  | 0xED => 0x80 ≤ n && n ≤ 0x9F
  | 0xF0 => 0x90 ≤ n && n ≤ 0xBF
  | 0xF4 => 0x80 ≤ n && n ≤ 0x8F
  | _ => isContinuation second

/-- The six low bits of a continuation byte. -/
def low (b : UInt8) : Nat :=
  b.toNat % 64

/-- Decode a character of two bytes. -/
def stepTwo (a : UInt8) : Bytes → Step
  | [] => .flaw .endOfData 1 []
  | b :: rest =>
      if isContinuation b then .char (Char.ofNat (a.toNat % 32 * 64 + low b)) 2 rest
      else .flaw .badContinuation 1 (b :: rest)

/-- Decode a character of three bytes. -/
def stepThree (a : UInt8) : Bytes → Step
  | [] => .flaw .endOfData 1 []
  | b :: rest =>
      if !isSecond a b then .flaw .badContinuation 1 (b :: rest)
      else
        match rest with
        | [] => .flaw .endOfData 2 []
        | c :: rest =>
            if isContinuation c then
              .char (Char.ofNat ((a.toNat % 16 * 64 + low b) * 64 + low c)) 3 rest
            else .flaw .badContinuation 2 (c :: rest)

/-- Decode a character of four bytes. -/
def stepFour (a : UInt8) : Bytes → Step
  | [] => .flaw .endOfData 1 []
  | b :: rest =>
      if !isSecond a b then .flaw .badContinuation 1 (b :: rest)
      else
        match rest with
        | [] => .flaw .endOfData 2 []
        | c :: rest =>
            if !isContinuation c then .flaw .badContinuation 2 (c :: rest)
            else
              match rest with
              | [] => .flaw .endOfData 3 []
              | d :: rest =>
                  if isContinuation d then
                    .char
                      (Char.ofNat (((a.toNat % 8 * 64 + low b) * 64 + low c) * 64 + low d)) 4 rest
                  else .flaw .badContinuation 3 (d :: rest)

/-- Decode one character. -/
def step (a : UInt8) (rest : Bytes) : Step :=
  let n := a.toNat
  if n < 0x80 then .char (Char.ofNat n) 1 rest
  else if n < 0xC2 then .flaw .badStart 1 rest
  else if n < 0xE0 then stepTwo a rest
  else if n < 0xF0 then stepThree a rest
  else if n < 0xF5 then stepFour a rest
  else .flaw .badStart 1 rest

/-- Where and why a sequence of bytes is no text. -/
structure Failure where
  position : Nat
  bytes : Bytes
  what : Flaw
deriving DecidableEq, Repr, Inhabited

/-- The wording of a failure. -/
def Failure.message (failure : Failure) : Text :=
  let place := match failure.bytes with
    | [b] =>
        "byte 0x".toList ++ [Nat.digitChar (b.toNat / 16), Nat.digitChar (b.toNat % 16)] ++
          " in position ".toList ++ Nat.toDigits 10 failure.position
    | bytes =>
        "bytes in position ".toList ++ Nat.toDigits 10 failure.position ++
          '-' :: Nat.toDigits 10 (failure.position + bytes.length - 1)
  "\x27utf-8\x27 codec can\x27t decode ".toList ++ place ++ ": ".toList ++
    failure.what.message.toList

/-- Decode the bytes from a position on; `fuel` bounds the number of characters. -/
def decodeFrom (position : Nat) : Nat → Bytes → Except Failure Text
  | _, [] => .ok []
  | 0, _ :: _ => .ok []
  | fuel + 1, a :: rest =>
      match step a rest with
      | .char c length later =>
          match decodeFrom (position + length) fuel later with
          | .ok text => .ok (c :: text)
          | .error failure => .error failure
      | .flaw what length _ => .error ⟨position, (a :: rest).take length, what⟩

/-- Decode a sequence of bytes, or say where it fails. -/
def decode (bytes : Bytes) : Except Failure Text :=
  decodeFrom 0 bytes.length bytes

/-- Decode with a replacement character for each failure; `fuel` bounds the number
of characters. -/
def decodeLossyFrom : Nat → Bytes → Text
  | _, [] => []
  | 0, _ :: _ => []
  | fuel + 1, a :: rest =>
      match step a rest with
      | .char c _ later => c :: decodeLossyFrom fuel later
      | .flaw _ _ later => '\uFFFD' :: decodeLossyFrom fuel later

/-- Decode a sequence of bytes with a replacement character for each failure. -/
def decodeLossy (bytes : Bytes) : Text :=
  decodeLossyFrom bytes.length bytes

/-- The bytes of a character. -/
def encodeChar (c : Char) : Bytes :=
  let n := c.toNat
  let byte (k : Nat) : UInt8 := UInt8.ofNat k
  if n < 0x80 then [byte n]
  else if n < 0x800 then [byte (0xC0 + n / 64), byte (0x80 + n % 64)]
  else if n < 0x10000 then
    [byte (0xE0 + n / 4096), byte (0x80 + n / 64 % 64), byte (0x80 + n % 64)]
  else
    [byte (0xF0 + n / 262144), byte (0x80 + n / 4096 % 64), byte (0x80 + n / 64 % 64),
      byte (0x80 + n % 64)]

/-- The bytes of a text. -/
def encode (text : Text) : Bytes :=
  text.flatMap encodeChar

end Utf8
end Codemap
