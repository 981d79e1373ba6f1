import Codemap.Proofs.Source.Scan

namespace Codemap

/-!
# Scans that pause

A scan that stops can be taken up again behind the place where it has stopped.  The signature
search, the walk through a body and the rest of a line all do so, in the middle of a line.  A scan
stops in code, so no literal, no escape and no comment mark is cut in two there, and what the next
character is compared with is the one at which the scan has stopped.  One thing is left to whoever
goes on: an opening brace at which a scan stops is not counted yet.  If it is counted, the stops
leave no trace in the state.
-/

/-- A scan of a line in several pieces: the characters at which it stops, with their columns, and
the scan of the last piece. -/
structure PausedScan where
  halts : List (Char × Nat)
  last : Scan
deriving DecidableEq, Repr

namespace Delimiters

variable {stops : Stops} {state : Delimiters} {inert : Bool} {before : Option Char} {column : Nat}

/-- Scan a line from a column on.  Where the scan stops, it goes on behind the stop; an opening
brace at which it stops is counted first. -/
def feedPausing (stops : Stops) (state : Delimiters) (line : Text) (start : Nat) : PausedScan :=
  match halted : (state.feed line start stops).halt with
  | none => ⟨[], state.feed line start stops⟩
  | some (c, column) =>
      let rest := feedPausing stops ((state.feed line start stops).state.goingOn c) line (column + 1)
      ⟨(c, column) :: rest.halts, rest.last⟩
termination_by line.length - start
decreasing_by
  obtain ⟨-, reached, inside, -⟩ := halt_feed halted
  omega

/-! ## One stop -/

/-- A scan that does not stop does behind a stop what a scan does that begins there. -/
theorem feedFrom_of_halt {text : Text} {c : Char} {stop : Nat}
    (halted : (feedFrom stops state inert before column text).halt = some (c, stop)) :
    feedFrom {} state inert before column text =
      feedFrom {} ((feedFrom stops state inert before column text).state.goingOn c) false (some c)
        (stop + 1) (text.drop (stop + 1 - column)) := by
  induction text generalizing state inert before column with
  | nil => cases halted
  | cons first rest inductionHypothesis =>
      -- Behind the first character the stop is one column nearer.
      have later {next : Delimiters} {inert : Bool}
          (halted : (feedFrom stops next inert (some first) (column + 1) rest).halt = some (c, stop)) :
          feedFrom {} next inert (some first) (column + 1) rest =
            feedFrom {} ((feedFrom stops next inert (some first) (column + 1) rest).state.goingOn c)
              false (some c) (stop + 1) ((first :: rest).drop (stop + 1 - column)) := by
        obtain ⟨-, skipped, -, -, rfl⟩ := halt_feedFrom halted
        rw [inductionHypothesis halted,
          show column + 1 + skipped.length + 1 - column =
            column + 1 + skipped.length + 1 - (column + 1) + 1 by omega, List.drop_succ_cons]
      cases inert with
      | true =>
          rw [feedFrom_inert] at halted
          rw [feedFrom_inert, feedFrom_inert]
          exact later halted
      | false =>
          rw [feedFrom_cons] at halted
          rw [feedFrom_cons, feedFrom_cons]
          rcases @move_stops stops state before first rest with ⟨after, halts, goesOn⟩ | same
          · rw [halts] at halted
            cases halted
            rw [halts, goesOn, Nat.add_sub_cancel_left]
            rfl
          · rw [same]
            cases moved : move stops state before first rest with
            | onward next inert =>
                rw [moved] at halted
                exact later halted
            | comment =>
                rw [moved] at halted
                cases halted
            | halt after =>
                -- Without anything to stop at there is no stop.
                rw [moved] at same
                exact absurd (move_eq_halt same) (by simp)

/-- Taken up behind a stop, a scan comes to where it comes without the stop. -/
theorem feed_of_halt {line : Text} {start : Nat} {c : Char} {column : Nat}
    (halted : (state.feed line start stops).halt = some (c, column)) :
    state.feed line start {} =
      ((state.feed line start stops).state.goingOn c).feed line (column + 1) {} := by
  obtain ⟨-, reached, -, there⟩ := halt_feed halted
  have onward := feedFrom_of_halt halted
  rw [List.drop_drop, Nat.add_sub_cancel' (Nat.le_succ_of_le reached)] at onward
  rw [feed_beforeColumn _ _ (column + 1), beforeColumn_succ there]
  exact onward

/-! ## All stops -/

/-- Whatever a scan stops at, and wherever in a line and in whatever state it begins: taken up
behind every stop, it ends as one scan to the end of the line does, in the same state and with the
same comment.  It stops at characters of the line further and further to the right. -/
theorem feedPausing_ends_as_feed (stops : Stops) (state : Delimiters) (text : Text) (start : Nat) :
    let paused := feedPausing stops state text start
    paused.last = state.feed text start {} ∧ paused.last.halt = none ∧
      (paused.halts.map Prod.snd).Pairwise (· < ·) ∧
      ∀ halt ∈ paused.halts, start ≤ halt.2 ∧ text[halt.2]? = some halt.1 := by
  fun_induction feedPausing stops state text start with
  | case1 state start halted =>
      have same : state.feed text start {} = state.feed text start stops := feedFrom_stops halted
      exact ⟨same.symm, halted, List.Pairwise.nil, fun _ member => absurd member List.not_mem_nil⟩
  | case2 state start c column halted rest inductionHypothesis =>
      obtain ⟨last, unstopped, increasing, later⟩ := inductionHypothesis
      obtain ⟨-, reached, -, there⟩ := halt_feed halted
      refine ⟨last.trans (feed_of_halt halted).symm, unstopped, ?_, ?_⟩
      · rw [List.map_cons, List.pairwise_cons, List.forall_mem_map]
        exact ⟨fun halt member => (later halt member).1, increasing⟩
      · rw [List.forall_mem_cons]
        exact ⟨⟨reached, there⟩, fun halt member =>
          ⟨Nat.le_trans (Nat.le_succ_of_le reached) (later halt member).1, (later halt member).2⟩⟩

end Delimiters
end Codemap
