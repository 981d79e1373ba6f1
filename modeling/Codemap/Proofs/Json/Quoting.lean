import Codemap.Json.Reader
import Codemap.Json.Writer
import Codemap.Proofs.Text.Utf8

namespace Codemap
namespace Json

/-!
# Strings written and read back

Inside a string each character is written as itself, as an escape of one letter, or
as one or two code units.  Reading takes up the same pieces, and the pieces stand for
the character.
-/

theorem hexValue?_hexDigit : ∀ digit < 16, hexValue? (hexDigit digit) = some digit := by
  decide

/-- The code unit that four digits write. -/
theorem unitOf?_hex4 {n : Nat} (small : n < 0x10000) :
    unitOf? (hexDigit (n / 4096 % 16)) (hexDigit (n / 256 % 16)) (hexDigit (n / 16 % 16))
      (hexDigit (n % 16)) = some n := by
  have first := hexValue?_hexDigit (n / 4096 % 16) (by omega)
  have second := hexValue?_hexDigit (n / 256 % 16) (by omega)
  have third := hexValue?_hexDigit (n / 16 % 16) (by omega)
  have fourth := hexValue?_hexDigit (n % 16) (by omega)
  have value : ((n / 4096 % 16 * 16 + n / 256 % 16) * 16 + n / 16 % 16) * 16 + n % 16 = n := by
    omega
  simp only [unitOf?, first, second, third, fourth, Option.bind_eq_bind, Option.bind_some, value]

/-- The pieces of which a character is made in a string. -/
def piecesOf (c : Char) : List Piece :=
  if c = '\x22' ∨ c = '\\' ∨ c = '\n' ∨ c = '\r' ∨ c = '\t' ∨ c.toNat = 8 ∨ c.toNat = 12 ∨
      (32 ≤ c.toNat ∧ c.toNat < 127) then [.char c]
  else if c.toNat < 0x10000 then [.unit c.toNat]
  else [.unit (0xD800 + (c.toNat - 0x10000) / 1024), .unit (0xDC00 + (c.toNat - 0x10000) % 1024)]

private theorem readPieces?_unit {n : Nat} (small : n < 0x10000) (rest : Text) :
    readPieces? (unicodeEscape n ++ rest) =
      (readPieces? rest).map fun found => (.unit n :: found.1, found.2) := by
  rw [unicodeEscape, hex4, List.cons_append, List.cons_append, List.cons_append, List.cons_append,
    List.cons_append, List.cons_append, List.nil_append, readPieces?, unitOf?_hex4 small]
  cases readPieces? rest <;> rfl

private theorem readPieces?_letter {letter plain : Char} (differs : letter ≠ 'u')
    (means : simpleEscape? letter = some plain) (rest : Text) :
    readPieces? ('\\' :: letter :: rest) =
      (readPieces? rest).map fun found => (.char plain :: found.1, found.2) := by
  rw [readPieces?, means]
  · cases readPieces? rest <;> rfl
  · rintro a b c d later rfl
    exact absurd rfl differs

private theorem readPieces?_plain {c : Char} (noQuote : c ≠ '\x22') (noEscape : c ≠ '\\')
    (printable : 32 ≤ c.toNat) (rest : Text) :
    readPieces? (c :: rest) =
      (readPieces? rest).map fun found => (.char c :: found.1, found.2) := by
  rw [readPieces?, if_neg]
  · cases readPieces? rest <;> rfl
  · rintro (escape | control)
    · exact noEscape escape
    · omega
  · exact noQuote
  · rintro a b c d later escape _
    exact noEscape escape
  · rintro a later escape _
    exact noEscape escape

/-- What is written for a character is taken up as its pieces. -/
theorem readPieces?_escapeChar (c : Char) (rest : Text) :
    readPieces? (escapeChar c ++ rest) =
      (readPieces? rest).map fun found => (piecesOf c ++ found.1, found.2) := by
  by_cases quote : c = '\x22'
  · subst quote
    exact readPieces?_letter (by decide) rfl rest
  by_cases backslash : c = '\\'
  · subst backslash
    exact readPieces?_letter (by decide) rfl rest
  by_cases lineFeed : c = '\n'
  · subst lineFeed
    exact readPieces?_letter (by decide) rfl rest
  by_cases carriageReturn : c = '\r'
  · subst carriageReturn
    exact readPieces?_letter (by decide) rfl rest
  by_cases tab : c = '\t'
  · subst tab
    exact readPieces?_letter (by decide) rfl rest
  by_cases backspace : c.toNat = 8
  · have same : c = '\x08' := Char.toNat_inj.mp backspace
    subst same
    exact readPieces?_letter (by decide) rfl rest
  by_cases formFeed : c.toNat = 12
  · have same : c = '\x0c' := Char.toNat_inj.mp formFeed
    subst same
    exact readPieces?_letter (by decide) rfl rest
  simp only [escapeChar, piecesOf, quote, backslash, lineFeed, carriageReturn, tab, backspace,
    formFeed, if_false, false_or]
  by_cases plain : 32 ≤ c.toNat ∧ c.toNat < 127
  · simp only [plain, and_self, if_true, List.singleton_append]
    exact readPieces?_plain quote backslash plain.1 rest
  simp only [plain, if_false]
  have range := Utf8.toNat_range c
  by_cases short : c.toNat < 0x10000
  · simp only [short, if_true, List.singleton_append]
    exact readPieces?_unit short rest
  · simp only [short, if_false]
    rw [List.append_assoc, readPieces?_unit (by omega), readPieces?_unit (by omega),
      Option.map_map]
    rfl

/-- The pieces of a character stand for it. -/
theorem ofPieces_piecesOf (c : Char) (pieces : List Piece) :
    ofPieces (piecesOf c ++ pieces) = c :: ofPieces pieces := by
  have range := Utf8.toNat_range c
  have whole := Char.ofNat_toNat c
  unfold piecesOf
  split
  · rfl
  split
  · have noSurrogate : ¬ (0xD800 ≤ c.toNat ∧ c.toNat < 0xE000) := by omega
    have noPair (low : Nat) : ¬ (0xD800 ≤ c.toNat ∧ c.toNat < 0xDC00 ∧ 0xDC00 ≤ low ∧
        low < 0xE000) := by omega
    cases pieces with
    | nil => simp [ofPieces, noSurrogate]
    | cons piece later =>
        cases piece with
        | char other => simp [ofPieces, noSurrogate]
        | unit low =>
            simp only [List.singleton_append, ofPieces, noPair, noSurrogate, if_false, whole]
  · have pair : 0xD800 ≤ 0xD800 + (c.toNat - 0x10000) / 1024 ∧
        0xD800 + (c.toNat - 0x10000) / 1024 < 0xDC00 ∧
        0xDC00 ≤ 0xDC00 + (c.toNat - 0x10000) % 1024 ∧
        0xDC00 + (c.toNat - 0x10000) % 1024 < 0xE000 := by omega
    have value : 0x10000 + (0xD800 + (c.toNat - 0x10000) / 1024 - 0xD800) * 1024 +
        (0xDC00 + (c.toNat - 0x10000) % 1024 - 0xDC00) = c.toNat := by omega
    simp only [List.cons_append, List.nil_append, ofPieces, pair, and_self, if_true, value, whole]

/-- A string is read back from between its quotes. -/
theorem readString?_escaped (text rest : Text) :
    readString? (text.flatMap escapeChar ++ '\x22' :: rest) = some (text, rest) := by
  induction text with
  | nil => rfl
  | cons c text inductionHypothesis =>
      rw [readString?, List.flatMap_cons, List.append_assoc, readPieces?_escapeChar,
        Option.map_map]
      rw [readString?] at inductionHypothesis
      obtain ⟨⟨pieces, later⟩, found, same⟩ := Option.map_eq_some_iff.mp inductionHypothesis
      obtain ⟨rfl, rfl⟩ := Prod.mk.inj same
      rw [found, Option.map_some, Function.comp_apply]
      exact congrArg (fun read => some (read, later)) (ofPieces_piecesOf c pieces)

end Json
end Codemap
