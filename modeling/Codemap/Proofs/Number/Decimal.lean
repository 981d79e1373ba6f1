import Codemap.Number.Shortest
import Mathlib.Data.List.Basic

namespace Codemap

/-!
# Decimal digits written and read back

A natural number is written without superfluous zeros.  Its digits are taken up as
long as no further digit follows them, and their value is the number.
-/

namespace Text

theorem ofNat_ne_nil (n : Nat) : ofNat n ≠ [] :=
  Nat.toDigits_ne_nil

theorem isDigit_of_mem_ofNat {n : Nat} {c : Char} (member : c ∈ ofNat n) : c.isDigit = true :=
  Nat.isDigit_of_mem_toDigits (by decide) (by decide) member

/-- Only zero is written with a zero in front. -/
theorem head_ofNat {n : Nat} (positive : 0 < n) : (ofNat n).head? ≠ some '0' := by
  induction n using Nat.strongRecOn with
  | ind n inductionHypothesis =>
      by_cases small : n < 10
      · rw [ofNat, Nat.toDigits_of_lt_base small]
        simp only [List.head?_cons, ne_eq, Option.some.injEq, Nat.digitChar_eq_zero]
        omega
      · rw [ofNat, Nat.toDigits_of_base_le (by decide) (Nat.le_of_not_lt small),
          List.head?_append_of_ne_nil _ Nat.toDigits_ne_nil]
        exact inductionHypothesis (n / 10) (by omega) (by omega)

theorem ofNat_zero : ofNat 0 = ['0'] :=
  Nat.toDigits_zero 10

end Text

namespace Binary64

theorem numberOfDigits_append_singleton (digits : List Nat) (last : Nat) :
    Text.numberOfDigits 10 (digits ++ [last]) = Text.numberOfDigits 10 digits * 10 + last := by
  simp [Text.numberOfDigits]

/-- The digits of a number have its value. -/
theorem digitsValue_ofNat (n : Nat) : digitsValue (Text.ofNat n) = n := by
  induction n using Nat.strongRecOn with
  | ind n inductionHypothesis =>
      by_cases small : n < 10
      · rw [Text.ofNat, Nat.toDigits_of_lt_base small]
        simp [digitsValue, Text.numberOfDigits, Nat.toNat_digitChar_sub_48_of_lt_ten small]
      · have shorter := inductionHypothesis (n / 10) (by omega)
        have last := Nat.toNat_digitChar_sub_48_of_lt_ten (Nat.mod_lt n (by decide : 10 > 0))
        rw [Text.ofNat, Nat.toDigits_of_base_le (by decide) (Nat.le_of_not_lt small), digitsValue,
          List.map_append, List.map_singleton, numberOfDigits_append_singleton, last]
        rw [Text.ofNat, digitsValue] at shorter
        rw [shorter]
        omega

/-- The digits at the front of a text end where another character follows. -/
theorem takeDigits_append {digits rest : Text} (all : ∀ c ∈ digits, c.isDigit = true)
    (ends : ∀ c, rest.head? = some c → c.isDigit = false) :
    takeDigits (digits ++ rest) = (digits, rest) := by
  have none : rest.takeWhile Char.isDigit = [] ∧ rest.dropWhile Char.isDigit = rest := by
    cases rest with
    | nil => exact ⟨rfl, rfl⟩
    | cons c later =>
        have stops := ends c rfl
        simp [stops]
  rw [takeDigits, List.takeWhile_append_of_pos all, List.dropWhile_append_of_pos all, none.1,
    none.2, List.append_nil]

end Binary64
end Codemap
