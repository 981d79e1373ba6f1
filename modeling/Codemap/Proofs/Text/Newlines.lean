import Codemap.Text.Basic
import Mathlib.Data.List.TakeWhile

namespace Codemap
namespace Text

/-!
# Line endings and trimming

Line endings can be unified piece by piece, unless a cut parts a carriage return from the
line feed after it.  Trimming stops at the first character that is not blank.
-/

variable {left right text : Text}

/-! ## Line endings -/

/-- The text does not end inside a line ending. -/
def Closed (text : Text) : Prop :=
  text.getLast? ≠ some '\r'

theorem closed_concat (text : Text) : Closed (text ++ ['\n']) := by
  rw [Closed, List.getLast?_concat]
  decide

theorem Closed.append (leftClosed : Closed left) (rightClosed : Closed right) :
    Closed (left ++ right) := by
  rw [Closed, List.getLast?_append]
  rw [Closed] at rightClosed
  cases last : right.getLast? with
  | none => exact leftClosed
  | some c =>
      rw [last] at rightClosed
      exact rightClosed

private theorem Closed.tail {c : Char} (closed : Closed (c :: text)) : Closed text := by
  intro last
  rw [Closed, List.getLast?_cons, last] at closed
  exact closed rfl

/-- Line endings are unified piece by piece. -/
theorem unifyNewlines_append (closed : Closed left) :
    Text.unifyNewlines (left ++ right) = left.unifyNewlines ++ right.unifyNewlines := by
  fun_induction Text.unifyNewlines left with
  | case1 => rfl
  | case2 rest inductionHypothesis =>
      rw [List.cons_append, List.cons_append, Text.unifyNewlines,
        inductionHypothesis closed.tail.tail, List.cons_append]
  | case3 c rest alone inductionHypothesis =>
      rw [List.cons_append, Text.unifyNewlines, inductionHypothesis closed.tail, List.cons_append]
      rintro others rfl feed
      cases rest with
      | nil => exact closed rfl
      | cons next rest =>
          rw [List.cons_append] at feed
          cases feed
          exact alone rest rfl rfl

theorem noReturn_unifyNewlines (text : Text) : '\r' ∉ text.unifyNewlines := by
  fun_induction Text.unifyNewlines text with
  | case1 => exact List.not_mem_nil
  | case2 rest inductionHypothesis => simpa using inductionHypothesis
  | case3 c rest alone inductionHypothesis =>
      rw [List.mem_cons, not_or]
      refine ⟨?_, inductionHypothesis⟩
      split
      · decide
      · next other => exact fun same => other same.symm

/-- A text without carriage returns has the line endings that reading gives it. -/
theorem unifyNewlines_eq_self {text : Text} (noReturn : '\r' ∉ text) : text.unifyNewlines = text := by
  induction text with
  | nil => rfl
  | cons c rest inductionHypothesis =>
      rw [List.mem_cons, not_or] at noReturn
      rw [Text.unifyNewlines]
      · rw [if_neg (Ne.symm noReturn.1), inductionHypothesis noReturn.2]
      · rintro later rfl
        exact absurd rfl noReturn.1

theorem closed_of_noReturn {text : Text} (noReturn : '\r' ∉ text) : Closed text :=
  fun last => noReturn (List.mem_of_getLast? last)

theorem unifyNewlines_unifyNewlines (text : Text) :
    text.unifyNewlines.unifyNewlines = text.unifyNewlines :=
  unifyNewlines_eq_self (noReturn_unifyNewlines text)

/-- Line endings are unified in each of several texts with a separator between them. -/
theorem unifyNewlines_intercalate {separator : Text} (plain : '\r' ∉ separator)
    {texts : List Text} (closed : ∀ text ∈ texts, Closed text) :
    Text.unifyNewlines (List.intercalate separator texts) =
      List.intercalate separator (texts.map Text.unifyNewlines) := by
  induction texts with
  | nil => rfl
  | cons first rest inductionHypothesis =>
      have later := inductionHypothesis fun text member => closed text (List.mem_cons_of_mem first member)
      cases rest with
      | nil => simp
      | cons second rest =>
          have firstClosed := closed first List.mem_cons_self
          rw [List.intercalate_cons_cons,
            unifyNewlines_append (firstClosed.append (closed_of_noReturn plain)),
            unifyNewlines_append firstClosed, unifyNewlines_eq_self plain, later]
          simp [List.intercalate_cons_cons]

/-- What stands in one of several texts stands in all of them together. -/
theorem mem_intercalate {separator : Text} {texts : List Text} (listed : text ∈ texts) {c : Char}
    (member : c ∈ text) : c ∈ List.intercalate separator texts := by
  induction texts with
  | nil => cases listed
  | cons first rest inductionHypothesis =>
      cases rest with
      | nil =>
          rw [List.mem_singleton.mp listed] at member
          simpa using member
      | cons second rest =>
          rw [List.intercalate_cons_cons]
          rcases List.mem_cons.mp listed with rfl | listed
          · exact List.mem_append_left _ (List.mem_append_left _ member)
          · exact List.mem_append_right _ (inductionHypothesis listed)

/-! ## Trimming -/

theorem trimStart_cons {c : Char} (visible : isBlank c = false) (text : Text) :
    trimStart (c :: text) = c :: text := by
  rw [trimStart, List.dropWhile_cons, visible]
  rfl

theorem trimEnd_of_blank {c : Char} (visible : isBlank c = false) {blanks : Text}
    (blank : ∀ d ∈ blanks, isBlank d = true) (text : Text) :
    trimEnd (text ++ c :: blanks) = text ++ [c] := by
  rw [trimEnd, dropTrailing, List.reverse_append, List.reverse_cons, List.append_assoc,
    List.dropWhile_append_of_pos fun d member => blank d (List.mem_reverse.mp member),
    List.singleton_append, List.dropWhile_cons_of_neg (by simp [visible]), List.reverse_cons,
    List.reverse_reverse]

theorem trimEnd_append (visible : ∃ c ∈ right, isBlank c = false) (left : Text) :
    trimEnd (left ++ right) = left ++ trimEnd right := by
  obtain ⟨c, member, notBlank⟩ := visible
  have stops : (right.reverse.dropWhile isBlank).isEmpty = false := by
    rw [Bool.eq_false_iff]
    intro gone
    have blank := List.dropWhile_eq_nil_iff.mp (List.isEmpty_iff.mp gone) c
      (List.mem_reverse.mpr member)
    rw [notBlank] at blank
    cases blank
  rw [trimEnd, dropTrailing, List.reverse_append, List.dropWhile_append, stops, trimEnd, dropTrailing]
  simp

end Text
end Codemap
