import Codemap.Text.Utf8
import Mathlib.Data.List.Basic

namespace Codemap
namespace Utf8

/-!
# Decoding what was encoded

Every text is read back from its bytes.  A character is a code point that is no
surrogate, so its bytes are neither longer than needed nor excluded by the rule for
second bytes, and decoding takes them up again one character at a time.
-/

private theorem toNat_byte {k : Nat} (small : k < 256) : (UInt8.ofNat k).toNat = k := by
  rw [UInt8.toNat_ofNat']
  exact Nat.mod_eq_of_lt small

/-- A code point lies below the surrogates, or above them and within the last plane. -/
theorem toNat_range (c : Char) :
    c.toNat < 0xD800 ∨ (0xDFFF < c.toNat ∧ c.toNat < 0x110000) := by
  exact c.valid

private theorem step_two {n : Nat} (rest : Bytes) (atLeast : 0x80 ≤ n) (below : n < 0x800) :
    step (UInt8.ofNat (0xC0 + n / 64)) (UInt8.ofNat (0x80 + n % 64) :: rest) =
      .char (Char.ofNat n) 2 rest := by
  have first : (UInt8.ofNat (0xC0 + n / 64)).toNat = 0xC0 + n / 64 := toNat_byte (by omega)
  have second : (UInt8.ofNat (0x80 + n % 64)).toNat = 0x80 + n % 64 := toNat_byte (by omega)
  have continues : isContinuation (UInt8.ofNat (0x80 + n % 64)) = true := by
    simp only [isContinuation, second, Bool.and_eq_true, decide_eq_true_eq]
    omega
  have value : (0xC0 + n / 64) % 32 * 64 + (0x80 + n % 64) % 64 = n := by omega
  simp only [step, first]
  rw [if_neg (by omega), if_neg (by omega), if_pos (by omega)]
  simp only [stepTwo, continues, if_true, low, first, second, value]

private theorem step_three {n : Nat} (rest : Bytes) (atLeast : 0x800 ≤ n) (below : n < 0x10000)
    (valid : n < 0xD800 ∨ 0xDFFF < n) :
    step (UInt8.ofNat (0xE0 + n / 4096))
        (UInt8.ofNat (0x80 + n / 64 % 64) :: UInt8.ofNat (0x80 + n % 64) :: rest) =
      .char (Char.ofNat n) 3 rest := by
  have first : (UInt8.ofNat (0xE0 + n / 4096)).toNat = 0xE0 + n / 4096 := toNat_byte (by omega)
  have second : (UInt8.ofNat (0x80 + n / 64 % 64)).toNat = 0x80 + n / 64 % 64 :=
    toNat_byte (by omega)
  have third : (UInt8.ofNat (0x80 + n % 64)).toNat = 0x80 + n % 64 := toNat_byte (by omega)
  have follows : isSecond (UInt8.ofNat (0xE0 + n / 4096)) (UInt8.ofNat (0x80 + n / 64 % 64)) =
      true := by
    simp only [isSecond, isContinuation, first, second]
    split <;> simp only [Bool.and_eq_true, decide_eq_true_eq] <;> omega
  have continues : isContinuation (UInt8.ofNat (0x80 + n % 64)) = true := by
    simp only [isContinuation, third, Bool.and_eq_true, decide_eq_true_eq]
    omega
  have value : ((0xE0 + n / 4096) % 16 * 64 + (0x80 + n / 64 % 64) % 64) * 64 +
      (0x80 + n % 64) % 64 = n := by omega
  simp only [step, first]
  rw [if_neg (by omega), if_neg (by omega), if_neg (by omega), if_pos (by omega)]
  simp only [stepThree, follows, continues, Bool.not_true, Bool.false_eq_true, if_false, if_true,
    low, first, second, third, value]

private theorem step_four {n : Nat} (rest : Bytes) (atLeast : 0x10000 ≤ n) (below : n < 0x110000) :
    step (UInt8.ofNat (0xF0 + n / 262144))
        (UInt8.ofNat (0x80 + n / 4096 % 64) :: UInt8.ofNat (0x80 + n / 64 % 64) ::
          UInt8.ofNat (0x80 + n % 64) :: rest) =
      .char (Char.ofNat n) 4 rest := by
  have first : (UInt8.ofNat (0xF0 + n / 262144)).toNat = 0xF0 + n / 262144 := toNat_byte (by omega)
  have second : (UInt8.ofNat (0x80 + n / 4096 % 64)).toNat = 0x80 + n / 4096 % 64 :=
    toNat_byte (by omega)
  have third : (UInt8.ofNat (0x80 + n / 64 % 64)).toNat = 0x80 + n / 64 % 64 :=
    toNat_byte (by omega)
  have fourth : (UInt8.ofNat (0x80 + n % 64)).toNat = 0x80 + n % 64 := toNat_byte (by omega)
  have follows : isSecond (UInt8.ofNat (0xF0 + n / 262144))
      (UInt8.ofNat (0x80 + n / 4096 % 64)) = true := by
    simp only [isSecond, isContinuation, first, second]
    split <;> simp only [Bool.and_eq_true, decide_eq_true_eq] <;> omega
  have continuesThird : isContinuation (UInt8.ofNat (0x80 + n / 64 % 64)) = true := by
    simp only [isContinuation, third, Bool.and_eq_true, decide_eq_true_eq]
    omega
  have continuesFourth : isContinuation (UInt8.ofNat (0x80 + n % 64)) = true := by
    simp only [isContinuation, fourth, Bool.and_eq_true, decide_eq_true_eq]
    omega
  have value : (((0xF0 + n / 262144) % 8 * 64 + (0x80 + n / 4096 % 64) % 64) * 64 +
      (0x80 + n / 64 % 64) % 64) * 64 + (0x80 + n % 64) % 64 = n := by omega
  simp only [step, first]
  rw [if_neg (by omega), if_neg (by omega), if_neg (by omega), if_neg (by omega),
    if_pos (by omega)]
  simp only [stepFour, follows, continuesThird, continuesFourth, Bool.not_true,
    Bool.false_eq_true, if_false, if_true, low, first, second, third, fourth, value]

/-- The bytes of a character are taken up as that character, whatever follows them. -/
theorem exists_step_encodeChar (c : Char) (rest : Bytes) :
    ∃ first tail length, encodeChar c = first :: tail ∧
      step first (tail ++ rest) = .char c length rest := by
  have range := toNat_range c
  have whole := Char.ofNat_toNat c
  by_cases one : c.toNat < 0x80
  · have byte : (UInt8.ofNat c.toNat).toNat = c.toNat := toNat_byte (by omega)
    refine ⟨UInt8.ofNat c.toNat, [], 1, by simp [encodeChar, one], ?_⟩
    simp only [step, byte, one, if_true, whole, List.nil_append]
  · by_cases two : c.toNat < 0x800
    · have decoded := step_two rest (Nat.le_of_not_lt one) two
      rw [whole] at decoded
      exact ⟨_, [_], 2, by simp [encodeChar, one, two], decoded⟩
    · by_cases three : c.toNat < 0x10000
      · have decoded := step_three rest (Nat.le_of_not_lt two) three (by omega)
        rw [whole] at decoded
        exact ⟨_, [_, _], 3, by simp [encodeChar, one, two, three], decoded⟩
      · have decoded := step_four rest (Nat.le_of_not_lt three) (by omega)
        rw [whole] at decoded
        exact ⟨_, [_, _, _], 4, by simp [encodeChar, one, two, three], decoded⟩

theorem decodeFrom_encode (text : Text) (position fuel : Nat) (enough : (encode text).length ≤ fuel) :
    decodeFrom position fuel (encode text) = .ok text := by
  induction text generalizing position fuel with
  | nil => cases fuel <;> rfl
  | cons c text inductionHypothesis =>
      obtain ⟨first, tail, length, bytes, taken⟩ := exists_step_encodeChar c (encode text)
      have whole : encode (c :: text) = first :: (tail ++ encode text) := by
        rw [encode, List.flatMap_cons, bytes]
        rfl
      rw [whole] at enough ⊢
      cases fuel with
      | zero => exact absurd enough (by simp)
      | succ fuel =>
          have remaining : (encode text).length ≤ fuel := by
            rw [List.length_cons, List.length_append] at enough
            omega
          rw [decodeFrom, taken]
          simp only [inductionHypothesis (position + length) fuel remaining]

/-- A text is read back from its bytes. -/
theorem decode_encode (text : Text) : decode (encode text) = .ok text :=
  decodeFrom_encode text 0 _ (Nat.le_refl _)

/-- A character of ASCII is one byte. -/
theorem length_encode_of_ascii {text : Text} (ascii : ∀ c ∈ text, c.toNat < 0x80) :
    (encode text).length = text.length := by
  induction text with
  | nil => rfl
  | cons c rest inductionHypothesis =>
      obtain ⟨first, others⟩ := List.forall_mem_cons.mp ascii
      have single : (encodeChar c).length = 1 := by simp [encodeChar, first]
      have later := inductionHypothesis others
      rw [encode] at later
      rw [encode, List.flatMap_cons, List.length_append, single, later, List.length_cons,
        Nat.add_comm]

theorem length_encode_append (left right : Text) :
    (encode (left ++ right)).length = (encode left).length + (encode right).length := by
  rw [encode, List.flatMap_append, List.length_append]
  rfl

end Utf8
end Codemap
