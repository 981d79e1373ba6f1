import Codemap.Source.Documentation
import Mathlib.Data.List.DropRight

namespace Codemap
namespace Documentation

/-!
# The lines that documentation comes from

Going upwards from a declaration the collector passes over annotations and then takes line by
line, each by its own beginning, until a line is neither a comment that it knows nor blank.  So
the lines that contribute lie in a run that reaches down to the declaration, and nothing above a
line that ends the run has a part in it.

A line inside a block begins with an asterisk, but not every line that begins with one is inside
a block of documentation.  Where the lines above would have to tell, the collector does not ask:
an asterisk alone makes a line contribute, also in a block of another kind and in code.
-/

/-! ## Beginnings of lines -/

/-- A trimmed line begins with a mark of a documentation line. -/
def isLineDoc (line : Text) : Bool :=
  line.startsWithAny ["///".toList, "//!".toList]

/-- A trimmed line begins with the mark that opens a documentation block. -/
def opensBlock (line : Text) : Bool :=
  line.startsWithAny ["/**".toList, "/*!".toList]

/-- A trimmed line begins with an asterisk. -/
def isStarred (line : Text) : Bool :=
  line.startsWithAny ["*".toList]

/-- A documentation block opens at the beginning of a line at or above this one, and does not end
on a line before this one. -/
def InBlock (lines : List Text) (index : Nat) : Prop :=
  ∃ first line, first ≤ index ∧ lines[first]? = some line ∧ opensBlock line.trim = true ∧
    (first < index → Text.includes (line.trim.drop 2) "*/".toList = false) ∧
    ∀ between, first < between → between < index → ∀ line ∈ lines[between]?,
      Text.includes line "*/".toList = false

/-- A line belongs to the run of comments above a declaration or may stand in it. -/
def Joins (line : Text) : Prop :=
  (textOf? line.trim).isSome = true ∨ Text.isBlankText line = true ∨ isAnnotation line.trim = true

theorem isStarred_of_closer {line : Text} (closes : line.startsWithAny ["*/".toList] = true) :
    isStarred line = true := by
  simp only [Text.startsWithAny, List.any_cons, List.any_nil, Bool.or_false, isStarred] at closes ⊢
  rw [List.isPrefixOf_iff_prefix] at closes ⊢
  exact List.IsPrefix.trans ⟨['/'], rfl⟩ closes

/-- By what beginnings a line contributes. -/
theorem style_of_textOf? {line text : Text} (contributes : textOf? line = some text) :
    isLineDoc line = true ∨ isHashComment line = true ∨ opensBlock line = true ∨
      isStarred line = true := by
  rw [textOf?] at contributes
  split at contributes
  · next marked => exact Or.inl marked
  split at contributes
  · next marked => exact Or.inr (Or.inr (Or.inl marked))
  split at contributes
  · next closes => exact Or.inr (Or.inr (Or.inr (isStarred_of_closer closes)))
  split at contributes
  · next starred => exact Or.inr (Or.inr (Or.inr starred))
  split at contributes
  · next hash => exact Or.inr (Or.inl hash)
  · cases contributes

/-! ## The run of comments -/

/-- The numbers of the lines of the run above, nearest first; a line has as many lines above it
as its number says. -/
def run (started : Bool) : List Text → List Nat
  | [] => []
  | line :: above =>
      match textOf? line.trim with
      | some _ => above.length :: run true above
      | none => if Text.isBlankText line && started then run started above else []

/-- What a line contributes if it is one of the run. -/
def contribution (lines : List Text) (index : Nat) : Text :=
  ((lines[index]?).bind fun line => textOf? line.trim).getD []

/-- The numbers of the lines that the documentation above a line comes from, in reading order. -/
def sources (lines : List Text) (index : Nat) : List Nat :=
  let above := (lines.take index).reverse.dropWhile fun line => isAnnotation line.trim
  let silent := fun source => (contribution lines source).isEmpty
  ((run false above).reverse.dropWhile silent).rdropWhile silent

variable {lines above : List Text} {line : Text} {index source : Nat}

/-- The nearest of some lines that begin the text is the last of them. -/
theorem getElem?_of_cons_reverse (begins : (line :: above).reverse <+: lines) :
    lines[above.length]? = some line := by
  obtain ⟨later, rfl⟩ := begins
  rw [List.reverse_cons, List.append_assoc, List.singleton_append, ← List.length_reverse,
    List.getElem?_append_right (Nat.le_refl _), Nat.sub_self, List.getElem?_cons_zero]

theorem reverse_of_cons_reverse (begins : (line :: above).reverse <+: lines) :
    above.reverse <+: lines := by
  rw [List.reverse_cons] at begins
  exact (List.prefix_append _ _).trans begins

/-- The collected texts are the contributions of the run. -/
theorem collect_eq_run (begins : above.reverse <+: lines) (found : List Text) :
    collect found above = (run (!found.isEmpty) above).reverse.map (contribution lines) ++ found := by
  induction above generalizing found with
  | nil => rfl
  | cons line above inductionHypothesis =>
      have onwards := inductionHypothesis (reverse_of_cons_reverse begins)
      rw [collect, run]
      cases contributes : textOf? line.trim with
      | some text =>
          have itself : contribution lines above.length = text := by
            rw [contribution, getElem?_of_cons_reverse begins, Option.bind_some, contributes]
            rfl
          simp [onwards, itself]
      | none =>
          dsimp only
          split
          · exact onwards found
          · rfl

/-- Only blank lines stand between the lines of the run, up to the nearest line. -/
theorem mem_run (begins : above.reverse <+: lines) {started : Bool}
    (member : source ∈ run started above) :
    source < above.length ∧ (∃ line text, lines[source]? = some line ∧
        textOf? line.trim = some text) ∧
      ∀ between, source ≤ between → between < above.length → ∀ line ∈ lines[between]?, Joins line := by
  induction above generalizing started with
  | nil => cases member
  | cons line above inductionHypothesis =>
      have onwards := @inductionHypothesis (reverse_of_cons_reverse begins)
      have there := getElem?_of_cons_reverse begins
      -- The nearest line joins the run, whatever the lines above it do.
      have extend {between : Nat} (nearest : Joins line) (below : between < (line :: above).length)
          (others : between < above.length → ∀ line ∈ lines[between]?, Joins line) :
          ∀ line ∈ lines[between]?, Joins line := by
        rw [List.length_cons] at below
        by_cases here : between = above.length
        · rintro other found
          rw [here, there] at found
          obtain rfl := Option.some.inj found
          exact nearest
        · exact others (by omega)
      rw [run] at member
      split at member
      · next text contributes =>
          have joins : Joins line := Or.inl (by rw [contributes]; rfl)
          rcases List.mem_cons.mp member with rfl | further
          · exact ⟨Nat.lt_succ_self _, ⟨line, text, there, contributes⟩,
              fun between lower upper => extend joins upper fun less => absurd lower (by omega)⟩
          · obtain ⟨less, is, joined⟩ := onwards further
            exact ⟨Nat.lt_succ_of_lt less, is,
              fun between lower upper => extend joins upper (joined between lower)⟩
      · split at member
        · next blank =>
            have joins : Joins line := Or.inr (Or.inl (Bool.and_eq_true_iff.mp blank).1)
            obtain ⟨less, is, joined⟩ := onwards member
            exact ⟨Nat.lt_succ_of_lt less, is,
              fun between lower upper => extend joins upper (joined between lower)⟩
        · cases member

theorem pairwise_run (started : Bool) (above : List Text) :
    (run started above).Pairwise fun lower upper => upper < lower := by
  induction above generalizing started with
  | nil => exact List.Pairwise.nil
  | cons line above inductionHypothesis =>
      rw [run]
      split
      · refine List.pairwise_cons.mpr ⟨fun source member => ?_, inductionHypothesis true⟩
        exact (mem_run (List.prefix_refl above.reverse) member).1
      · split
        · exact inductionHypothesis started
        · exact List.Pairwise.nil

/-- The lines that are passed over are annotations. -/
theorem isAnnotation_of_dropped (begins : above.reverse <+: lines)
    (lower : (above.dropWhile fun line => isAnnotation line.trim).length ≤ index)
    (upper : index < above.length) : ∀ line ∈ lines[index]?, isAnnotation line.trim = true := by
  induction above with
  | nil => cases upper
  | cons line above inductionHypothesis =>
      rw [List.dropWhile_cons] at lower
      rw [List.length_cons] at upper
      split at lower
      · next annotation =>
          by_cases here : index = above.length
          · rintro other found
            rw [here, getElem?_of_cons_reverse begins] at found
            obtain rfl := Option.some.inj found
            exact annotation
          · exact inductionHypothesis (reverse_of_cons_reverse begins) lower (by omega)
      · rw [List.length_cons] at lower
        omega

/-! ## The lines that contribute -/

/-- The lines above the annotations begin the text. -/
theorem reverse_dropWhile_isPrefix (lines : List Text) (index : Nat) :
    ((lines.take index).reverse.dropWhile fun line => isAnnotation line.trim).reverse <+: lines := by
  have suffix := List.dropWhile_suffix (fun line => isAnnotation line.trim)
    (l := (lines.take index).reverse)
  rw [← List.reverse_prefix, List.reverse_reverse] at suffix
  exact suffix.trans (List.take_prefix index lines)

theorem dropEmptyEnds_map (texts : Nat → Text) (numbers : List Nat) :
    dropEmptyEnds (numbers.map texts) =
      ((numbers.dropWhile fun number => (texts number).isEmpty).rdropWhile fun number =>
        (texts number).isEmpty).map texts := by
  rw [dropEmptyEnds, List.dropWhile_map, ← List.map_reverse, List.dropWhile_map, ← List.map_reverse,
    List.rdropWhile]
  rfl

/-- Documentation is what its sources contribute. -/
theorem above_eq_sources (lines : List Text) (index : Nat) :
    Documentation.above lines index =
      match (sources lines index).map (contribution lines) with
      | [] => none
      | texts => some (List.intercalate ['\n'] texts) := by
  rw [Documentation.above, ofLinesAbove, collect_eq_run (reverse_dropWhile_isPrefix lines index),
    List.append_nil, dropEmptyEnds_map]
  rfl

theorem sources_sublist (lines : List Text) (index : Nat) :
    (sources lines index).Sublist (run false
      ((lines.take index).reverse.dropWhile fun line => isAnnotation line.trim)).reverse :=
  (List.rdropWhile_prefix _ _).sublist.trans (List.dropWhile_suffix _).sublist

theorem pairwise_sources (lines : List Text) (index : Nat) :
    (sources lines index).Pairwise (· < ·) :=
  List.Pairwise.sublist (sources_sublist lines index) (List.pairwise_reverse.mpr (pairwise_run _ _))

/-- A source contributes by its own beginning, and no line down to the declaration ends the run. -/
theorem mem_sources (member : source ∈ sources lines index) :
    source < index ∧ (∃ line text, lines[source]? = some line ∧ textOf? line.trim = some text) ∧
      ∀ between, source ≤ between → between < index → ∀ line ∈ lines[between]?, Joins line := by
  have begins := reverse_dropWhile_isPrefix lines index
  obtain ⟨less, contributes, joined⟩ :=
    mem_run begins (List.mem_reverse.mp ((sources_sublist lines index).subset member))
  have shorter := (List.dropWhile_suffix (fun line => isAnnotation line.trim)
    (l := (lines.take index).reverse)).length_le
  rw [List.length_reverse, List.length_take] at shorter
  refine ⟨by omega, contributes, fun between lower upper line there => ?_⟩
  by_cases near : between < ((lines.take index).reverse.dropWhile fun line =>
      isAnnotation line.trim).length
  · exact joined between lower near line there
  · have inside := (List.getElem?_eq_some_iff.mp there).1
    have whole : (lines.take index).reverse.reverse <+: lines := by
      rw [List.reverse_reverse]
      exact List.take_prefix index lines
    have among : between < (lines.take index).reverse.length := by
      rw [List.length_reverse, List.length_take]
      omega
    exact Or.inr (Or.inr (isAnnotation_of_dropped whole (Nat.le_of_not_lt near) among line there))

/-- A line that ends the run keeps everything above it away from a declaration below. -/
theorem lt_of_mem_sources {barrier : Nat} (there : lines[barrier]? = some line)
    (ends : ¬ Joins line) (below : barrier < index) (member : source ∈ sources lines index) :
    barrier < source := by
  by_contra above
  exact ends ((mem_sources member).2.2 barrier (by omega) below line there)

/-- Every line that contributes to documentation is a documentation line, a comment with a hash
sign or a line of a documentation block, or it begins with an asterisk outside any such block.
From it down to the declaration stand only lines that contribute by their beginnings, blank lines
and annotations. -/
theorem contributing_lines (lines : List Text) (index : Nat) :
    (Documentation.above lines index =
      match (sources lines index).map (contribution lines) with
      | [] => none
      | texts => some (List.intercalate ['\n'] texts)) ∧
    (sources lines index).Pairwise (· < ·) ∧
    ∀ source ∈ sources lines index, source < index ∧
      (∃ line text, lines[source]? = some line ∧ textOf? line.trim = some text ∧
        (isLineDoc line.trim = true ∨ isHashComment line.trim = true ∨ InBlock lines source ∨
          isStarred line.trim = true ∧ ¬ InBlock lines source)) ∧
      ∀ between, source ≤ between → between < index → ∀ line ∈ lines[between]?, Joins line := by
  refine ⟨above_eq_sources lines index, pairwise_sources lines index, fun source member => ?_⟩
  obtain ⟨less, ⟨line, text, there, contributes⟩, joined⟩ := mem_sources member
  refine ⟨less, ⟨line, text, there, contributes, ?_⟩, joined⟩
  rcases style_of_textOf? contributes with marked | hash | opens | starred
  · exact Or.inl marked
  · exact Or.inr (Or.inl hash)
  · exact Or.inr (Or.inr (Or.inl ⟨source, line, Nat.le_refl source, there, opens,
      fun less => absurd less (Nat.lt_irrefl source), fun _ lower upper => by omega⟩))
  · by_cases inside : InBlock lines source
    · exact Or.inr (Or.inr (Or.inl inside))
    · exact Or.inr (Or.inr (Or.inr ⟨starred, inside⟩))

/-- A line of a comment that documents nothing contributes. -/
theorem plain_block_contributes :
    let lines := ["/*".toList, " * plain note".toList, " */".toList, "void f() \x7b\x7d".toList]
    Documentation.above lines 3 = some "plain note".toList ∧ sources lines 3 = [1] ∧
      ∀ index, ¬ InBlock lines index := by
  intro lines
  have unopened : ∀ line ∈ lines, opensBlock (Text.trim line) = false := by decide
  refine ⟨by decide, by decide, ?_⟩
  rintro index ⟨first, line, -, there, opens, -⟩
  rw [unopened line (List.mem_of_getElem? there)] at opens
  cases opens

end Documentation
end Codemap
