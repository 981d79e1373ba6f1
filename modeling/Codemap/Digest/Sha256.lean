import Codemap.Text.Utf8

namespace Codemap

/-!
# The digest of a sequence of bytes

The 256-bit digest of the secure hash standard.  The bytes are padded to blocks of
sixty-four; each block is extended to sixty-four words, which are mixed one after the
other into eight words of state.
-/

namespace Digest

/-- A word of the digest. -/
abbrev Word := UInt32

/-- Rotate a word to the right. -/
def rotate (x : Word) (count : UInt32) : Word :=
  (x >>> count) ||| (x <<< (32 - count))

/-- The fractional parts of the cube roots of the first sixty-four primes. -/
def roundConstants : List Word := [
  0x428a2f98, 0x71374491, 0xb5c0fbcf, 0xe9b5dba5, 0x3956c25b, 0x59f111f1, 0x923f82a4,
  0xab1c5ed5, 0xd807aa98, 0x12835b01, 0x243185be, 0x550c7dc3, 0x72be5d74, 0x80deb1fe,
  0x9bdc06a7, 0xc19bf174, 0xe49b69c1, 0xefbe4786, 0x0fc19dc6, 0x240ca1cc, 0x2de92c6f,
  0x4a7484aa, 0x5cb0a9dc, 0x76f988da, 0x983e5152, 0xa831c66d, 0xb00327c8, 0xbf597fc7,
  0xc6e00bf3, 0xd5a79147, 0x06ca6351, 0x14292967, 0x27b70a85, 0x2e1b2138, 0x4d2c6dfc,
  0x53380d13, 0x650a7354, 0x766a0abb, 0x81c2c92e, 0x92722c85, 0xa2bfe8a1, 0xa81a664b,
  0xc24b8b70, 0xc76c51a3, 0xd192e819, 0xd6990624, 0xf40e3585, 0x106aa070, 0x19a4c116,
  0x1e376c08, 0x2748774c, 0x34b0bcb5, 0x391c0cb3, 0x4ed8aa4a, 0x5b9cca4f, 0x682e6ff3,
  0x748f82ee, 0x78a5636f, 0x84c87814, 0x8cc70208, 0x90befffa, 0xa4506ceb, 0xbef9a3f7,
  0xc67178f2]

/-- The eight words that are carried from block to block. -/
structure State where
  a : Word
  b : Word
  c : Word
  d : Word
  e : Word
  f : Word
  g : Word
  h : Word
deriving DecidableEq, Repr, Inhabited

/-- The fractional parts of the square roots of the first eight primes. -/
def initial : State :=
  ⟨0x6a09e667, 0xbb67ae85, 0x3c6ef372, 0xa54ff53a,
    0x510e527f, 0x9b05688c, 0x1f83d9ab, 0x5be0cd19⟩

/-- The bytes of a number, so many of them, the most significant first. -/
def bigEndian (count n : Nat) : Bytes :=
  (List.range count).map fun i => UInt8.ofNat (n / Nat.pow 256 (count - 1 - i))

/-- Pad bytes to whole blocks: a bit that is set, zeros, and the number of bits. -/
def padded (bytes : Bytes) : Bytes :=
  bytes ++ 0x80 :: List.replicate ((119 - bytes.length % 64) % 64) 0 ++
    bigEndian 8 (bytes.length * 8)

/-- The words of some bytes. -/
def words : Bytes → List Word
  | a :: b :: c :: d :: rest =>
      UInt32.ofNat (((a.toNat * 256 + b.toNat) * 256 + c.toNat) * 256 + d.toNat) :: words rest
  | _ => []

/-- The next word after some words, given with the last one first. -/
def nextWord (latest : List Word) : Word :=
  let old := latest.getD 14 0
  let young := latest.getD 1 0
  latest.getD 15 0 + (rotate old 7 ^^^ rotate old 18 ^^^ (old >>> 3)) +
    latest.getD 6 0 + (rotate young 17 ^^^ rotate young 19 ^^^ (young >>> 10))

/-- Extend words, given with the last one first, by so many. -/
def extend (latest : List Word) : Nat → List Word
  | 0 => latest
  | count + 1 => extend (nextWord latest :: latest) count

/-- Mix one word into the state. -/
def mix (s : State) (word constant : Word) : State :=
  let choice := (s.e &&& s.f) ^^^ (~~~s.e &&& s.g)
  let majority := (s.a &&& s.b) ^^^ (s.a &&& s.c) ^^^ (s.b &&& s.c)
  let first := s.h + (rotate s.e 6 ^^^ rotate s.e 11 ^^^ rotate s.e 25) + choice + constant + word
  let second := (rotate s.a 2 ^^^ rotate s.a 13 ^^^ rotate s.a 22) + majority
  ⟨first + second, s.a, s.b, s.c, s.d + first, s.e, s.f, s.g⟩

/-- The sum of two states, word by word. -/
def State.add (s t : State) : State :=
  ⟨s.a + t.a, s.b + t.b, s.c + t.c, s.d + t.d, s.e + t.e, s.f + t.f, s.g + t.g, s.h + t.h⟩

/-- Work one block into the state. -/
def compress (state : State) (block : Bytes) : State :=
  let schedule := (extend (words block).reverse 48).reverse
  let mixed := (schedule.zip roundConstants).foldl
    (fun state (word, constant) => mix state word constant) state
  state.add mixed

/-- Work several blocks into the state. -/
def compressAll (state : State) (bytes : Bytes) : Nat → State
  | 0 => state
  | blocks + 1 => compressAll (compress state (bytes.take 64)) (bytes.drop 64) blocks

/-- A word in hexadecimal digits. -/
def hexWord (word : Word) : Text :=
  (List.range 8).map fun i => Nat.digitChar (word.toNat / Nat.pow 16 (7 - i) % 16)

/-- The digest of some bytes in hexadecimal digits. -/
def hex (bytes : Bytes) : Text :=
  let input := padded bytes
  let s := compressAll initial input (input.length / 64)
  [s.a, s.b, s.c, s.d, s.e, s.f, s.g, s.h].flatMap hexWord

end Digest
end Codemap
