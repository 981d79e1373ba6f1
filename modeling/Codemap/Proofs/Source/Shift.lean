import Codemap.Proofs.Source.Scan
import Codemap.Proofs.Text.Words
import Mathlib.Data.List.TakeWhile

namespace Codemap

/-!
# Scanning an indented line

The blanks at the beginning of a line do nothing to the scanner: it comes to the same
state, begins the same comment and stops at the same character as on the line without
them, and each column is greater by their number.
-/

namespace Text

/-- The blanks at the beginning of a line. -/
def margin (line : Text) : Text :=
  line.takeWhile isBlank

theorem margin_append_trimStart (line : Text) : margin line ++ trimStart line = line :=
  List.takeWhile_append_dropWhile

theorem length_eq_margin_add (line : Text) :
    line.length = (margin line).length + (trimStart line).length := by
  conv_lhs => rw [← margin_append_trimStart line]
  exact List.length_append

theorem all_isBlank_margin (line : Text) : (margin line).all isBlank = true :=
  List.all_takeWhile

/-- The margin ends where the first character stands that is not blank. -/
theorem length_margin_le {text : Text} {column : Nat} {c : Char} (there : text[column]? = some c)
    (visible : isBlank c = false) : (margin text).length ≤ column := by
  by_contra within
  have inside : (margin text)[column]? = some c := by
    rw [← there, ← List.getElem?_append_left (Nat.lt_of_not_le within),
      margin_append_trimStart text]
  have blank := List.all_eq_true.mp (all_isBlank_margin text) c (List.mem_of_getElem? inside)
  rw [visible] at blank
  cases blank

theorem drop_margin_add (line : Text) (k : Nat) :
    line.drop ((margin line).length + k) = (trimStart line).drop k := by
  have split := @List.drop_length_add_append _ (margin line) (trimStart line) k
  rwa [margin_append_trimStart] at split

theorem take_margin_add (line : Text) (k : Nat) :
    line.take ((margin line).length + k) = margin line ++ (trimStart line).take k := by
  have split := @List.take_length_add_append _ (margin line) (trimStart line) k
  rwa [margin_append_trimStart] at split

theorem trimStart_take (line : Text) (k : Nat) :
    trimStart (line.take ((margin line).length + k)) = (trimStart line).take k ∧
      margin (line.take ((margin line).length + k)) = margin line := by
  induction line with
  | nil => rw [List.take_nil]; exact ⟨(List.take_nil).symm, rfl⟩
  | cons c rest inductionHypothesis =>
      by_cases here : isBlank c = true
      · have first (text : Text) : margin (c :: text) = c :: margin text :=
          List.takeWhile_cons_of_pos here
        have later (text : Text) : trimStart (c :: text) = trimStart text := List.dropWhile_cons_of_pos here
        rw [first, later, List.length_cons, Nat.add_right_comm, List.take_succ_cons, first, later]
        exact ⟨inductionHypothesis.1, congrArg _ inductionHypothesis.2⟩
      · have none (text : Text) : margin (c :: text) = [] := List.takeWhile_cons_of_neg here
        have all (text : Text) : trimStart (c :: text) = c :: text := List.dropWhile_cons_of_neg here
        rw [none, all, List.length_nil, Nat.zero_add]
        cases k with
        | zero => exact ⟨rfl, rfl⟩
        | succ k => rw [List.take_succ_cons, none, all]; exact ⟨rfl, rfl⟩

theorem ne_of_isBlank {c d : Char} (blank : isBlank c = true) (visible : isBlank d = false) : c ≠ d := by
  rintro rfl
  rw [blank] at visible
  cases visible

/-! ## Blanks at the beginning change nothing -/

theorem trim_trimStart (line : Text) : trim (trimStart line) = trim line := by
  conv_rhs => rw [← margin_append_trimStart line, trim_append (all_isBlank_margin line)]

theorem isBlankText_trimStart (line : Text) : isBlankText (trimStart line) = isBlankText line := by
  conv_rhs => rw [← margin_append_trimStart line, isBlankText_append (all_isBlank_margin line)]

theorem words_trimStart (line : Text) : words (trimStart line) = words line := by
  conv_rhs => rw [← margin_append_trimStart line, words_append_of_blank (all_isBlank_margin line)]

theorem isBlankText_iff {line : Text} : isBlankText line = true ↔ trimStart line = [] := by
  rw [isBlankText, List.all_eq_true, trimStart, List.dropWhile_eq_nil_iff]

/-- From a column of the line a scan begins as it does from a column of the line without
its margin: both are the start, or both come after the same character. -/
def At (line : Text) (column place : Nat) : Prop :=
  column = 0 ∧ place = 0 ∨ ∃ after, column = (margin line).length + (after + 1) ∧ place = after + 1

/-- A piece of a line is that of the line without its margin, but for blanks at the
beginning. -/
theorem slice_trimStart {line : Text} {start place : Nat} (at' : At line start place) (k : Nat) :
    ∃ blanks : Text, blanks.all isBlank = true ∧
      line.slice start ((margin line).length + k) = blanks ++ (trimStart line).slice place k := by
  rcases at' with ⟨rfl, rfl⟩ | ⟨after, rfl, rfl⟩
  · refine ⟨margin line, all_isBlank_margin line, ?_⟩
    rw [slice, take_margin_add]
    rfl
  · refine ⟨[], rfl, ?_⟩
    rw [slice, take_margin_add, List.drop_length_add_append]
    rfl

end Text

namespace Delimiters

theorem isQuote_of_isBlank {c : Char} (blank : isBlank c = true) : isQuote c = false := by
  simp [isQuote, Text.ne_of_isBlank blank (show isBlank '\x27' = false from rfl),
    Text.ne_of_isBlank blank (show isBlank '\x22' = false from rfl),
    Text.ne_of_isBlank blank (show isBlank '\x60' = false from rfl)]

/-- The open literal, if one is open, was opened by a quote. -/
def Proper (state : Delimiters) : Prop :=
  ∀ quote ∈ state.quote, isQuote quote = true

variable {stops : Stops} {state : Delimiters}

theorem proper_braces (braces : Int) : Proper { braces } :=
  fun _ member => by cases member

theorem proper_count (proper : state.Proper) (c : Char) : (state.count c).Proper := by
  have same : (state.count c).quote = state.quote := by
    unfold count
    split <;> rfl
  rw [Proper, same]
  exact proper

/-- The state that a move leads to satisfies a condition. -/
def Move.LeadsTo (holds : Delimiters → Prop) : Move → Prop
  | .onward next _ => holds next
  | .comment => True
  | .halt after => holds after

theorem proper_move {before : Option Char} {c : Char} {rest : Text} (proper : state.Proper) :
    (move stops state before c rest).LeadsTo Proper := by
  rw [move]
  split
  · split <;> exact proper
  split
  · split
    · exact proper
    split
    · exact fun quote member => by cases member
    · exact proper
  split
  · next quotes =>
      rintro quote ⟨⟩
      exact quotes
  split
  · next none _ _ => exact fun quote member => proper quote member
  split
  · trivial
  split
  · trivial
  split
  · exact proper
  split <;> exact proper_count proper c

/-- A scan leaves the state proper. -/
theorem proper_feedFrom {inert : Bool} {before : Option Char} {column : Nat} {text : Text}
    (proper : state.Proper) : (feedFrom stops state inert before column text).state.Proper := by
  induction text generalizing state inert before column with
  | nil => exact proper
  | cons c rest inductionHypothesis =>
      cases inert with
      | true =>
          rw [feedFrom_inert]
          exact inductionHypothesis proper
      | false =>
          have leads := @proper_move stops state before c rest proper
          rw [feedFrom_cons]
          cases moved : move stops state before c rest with
          | onward next inert =>
              rw [moved] at leads
              exact inductionHypothesis leads
          | comment => exact proper
          | halt after =>
              rw [moved] at leads
              exact leads

/-- A blank is passed over. -/
theorem move_isBlank {before : Option Char} {c : Char} {rest : Text} (proper : state.Proper)
    (blank : isBlank c = true) : move stops state before c rest = .onward state false := by
  have plain (d : Char) (visible : isBlank d = false) : c ≠ d := Text.ne_of_isBlank blank visible
  have notQuote : isQuote c = false := isQuote_of_isBlank blank
  have counted : state.count c = state := by
    simp [count, plain '\x7b' rfl, plain '\x7d' rfl, plain '(' rfl, plain ')' rfl, plain '[' rfl,
      plain ']' rfl]
  rw [move]
  split
  · rw [if_neg fun closes => plain '*' rfl closes.1]
  split
  · next quote open' =>
      rw [if_neg (plain '\\' rfl), if_neg]
      rintro rfl
      rw [proper c open'] at notQuote
      cases notQuote
  · rw [notQuote, if_neg Bool.false_ne_true, if_neg (fun opens => plain '/' rfl opens.1),
      if_neg (fun opens => plain '/' rfl opens.1), if_neg (fun opens => plain '#' rfl opens.1),
      if_neg, if_neg (fun closes => plain '}' rfl closes.2.1), counted]
    rintro ⟨-, brace | semicolon, -⟩
    · exact plain '{' rfl brace
    · exact plain ';' rfl semicolon

end Delimiters

/-- The same scan of a text that begins at a greater column. -/
def Scan.shift (columns : Nat) (scan : Scan) : Scan :=
  { state := scan.state
    commentStart := scan.commentStart.map (columns + ·)
    halt := scan.halt.map fun (c, column) => (c, columns + column) }

namespace Delimiters

variable {stops : Stops} {state : Delimiters}

/-- The column at which a text begins is added to the columns found in it. -/
theorem feedFrom_column {inert : Bool} {before : Option Char} (text : Text) (columns column : Nat) :
    feedFrom stops state inert before (columns + column) text =
      (feedFrom stops state inert before column text).shift columns := by
  induction text generalizing state inert before column with
  | nil => rfl
  | cons c rest inductionHypothesis =>
      cases inert with
      | true =>
          rw [feedFrom_inert, feedFrom_inert, Nat.add_assoc]
          exact inductionHypothesis (column + 1)
      | false =>
          rw [feedFrom_cons, feedFrom_cons]
          cases move stops state before c rest with
          | onward next inert => exact inductionHypothesis (column + 1)
          | comment => rfl
          | halt after => rfl

/-- Of the character before a text only matters whether it is blank. -/
theorem feedFrom_before {inert : Bool} {before other : Option Char} {column : Nat} (text : Text)
    (same : before.all isBlank = other.all isBlank) :
    feedFrom stops state inert before column text =
      feedFrom stops state inert other column text := by
  cases text with
  | nil => rfl
  | cons c rest =>
      cases inert with
      | true => rw [feedFrom_inert, feedFrom_inert]
      | false =>
          have hash : opensHashComment before rest = opensHashComment other rest := by
            rw [opensHashComment, opensHashComment, same]
          rw [feedFrom_cons, feedFrom_cons, move, move, hash]

/-- Blanks before a text only move its columns. -/
theorem feedFrom_blanks (proper : state.Proper) {blanks : Text} (all : blanks.all isBlank = true)
    (before : Option Char) (column : Nat) (text : Text) :
    ∃ before' : Option Char, (before.all isBlank = true → before'.all isBlank = true) ∧
      feedFrom stops state false before column (blanks ++ text) =
        feedFrom stops state false before' (column + blanks.length) text := by
  induction blanks generalizing before column with
  | nil => exact ⟨before, id, rfl⟩
  | cons c rest inductionHypothesis =>
      rw [List.all_cons, Bool.and_eq_true] at all
      obtain ⟨before', still, same⟩ := inductionHypothesis all.2 (some c) (column + 1)
      refine ⟨before', fun _ => still all.1, ?_⟩
      rw [List.cons_append, feedFrom_cons, move_isBlank proper all.1, List.length_cons]
      dsimp only
      rw [same, Nat.add_assoc, Nat.add_comm 1]

/-- Blanks at the beginning of a line do nothing to the scanner. -/
theorem feedFrom_margin {before : Option Char} {column : Nat} {margin : Text} (text : Text)
    (proper : state.Proper) (blank : before.all isBlank = true) (all : margin.all isBlank = true) :
    feedFrom stops state false before column (margin ++ text) =
      feedFrom stops state false none (margin.length + column) text := by
  obtain ⟨before', still, same⟩ := feedFrom_blanks proper all before column text
  rw [same, Nat.add_comm]
  exact feedFrom_before text (still blank)

/-- The scan of an indented line is that of the line without its margin. -/
theorem feed_trimStart {line : Text} {start place : Nat} (proper : state.Proper)
    (at' : Text.At line start place) :
    state.feed line start stops =
      (state.feed (Text.trimStart line) place stops).shift (Text.margin line).length := by
  rw [feed, feed, ← feedFrom_column]
  rcases at' with ⟨rfl, rfl⟩ | ⟨after, rfl, rfl⟩
  · rw [if_pos rfl, if_pos rfl, List.drop_zero, List.drop_zero]
    conv_lhs => rw [← Text.margin_append_trimStart line]
    exact feedFrom_margin _ proper rfl List.all_takeWhile
  · rw [Text.drop_margin_add, if_neg (by omega), if_neg (Nat.succ_ne_zero after), Nat.add_sub_cancel,
      ← Nat.add_assoc, Nat.add_sub_cancel, Text.drop_margin_add]

end Delimiters
end Codemap
