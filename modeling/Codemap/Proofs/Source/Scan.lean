import Codemap.Source.Delimiters

namespace Codemap

/-!
# One character after another

What the scanner does at a character depends on its state, on the two characters beside
it and on what it is to stop at, but not on the column.  It goes on in some state, or a
line comment begins, or it stops.  Everything about a scan follows by induction from
these three possibilities.
-/

/-- The character before a column. -/
def beforeColumn (text : Text) (column : Nat) : Option Char :=
  if column = 0 then none else (text.drop (column - 1)).head?

theorem beforeColumn_succ {text : Text} {column : Nat} {c : Char} (there : text[column]? = some c) :
    beforeColumn text (column + 1) = some c := by
  rw [beforeColumn, if_neg (Nat.succ_ne_zero column), Nat.add_sub_cancel, List.head?_drop, there]

theorem drop_eq_cons {α : Type} {values : List α} {index : Nat} {value : α}
    (there : values[index]? = some value) :
    values.drop index = value :: values.drop (index + 1) := by
  obtain ⟨inside, rfl⟩ := List.getElem?_eq_some_iff.mp there
  exact List.drop_eq_getElem_cons inside

namespace Delimiters

/-- What the scanner does at a character. -/
inductive Move where
  | onward (state : Delimiters) (inert : Bool)
  | comment
  | halt (state : Delimiters)

/-- What the scanner does at a character of code or of a literal or comment. -/
def move (stops : Stops) (state : Delimiters) (before : Option Char) (c : Char) (rest : Text) :
    Move :=
  if state.inBlockComment then
    if c = '*' ∧ rest.head? = some '/' then .onward { state with inBlockComment := false } true
    else .onward state false
  else
    match state.quote with
    | some quote =>
        if c = '\\' then .onward state true
        else if c = quote then .onward { state with quote := none } false
        else .onward state false
    | none =>
        if isQuote c then .onward { state with quote := some c } false
        else if c = '/' ∧ rest.head? = some '*' then .onward { state with inBlockComment := true } true
        else if c = '/' ∧ rest.head? = some '/' then .comment
        else if c = '#' ∧ opensHashComment before rest then .comment
        else if stops.atTerminator ∧ (c = '{' ∨ c = ';') ∧ state.balanced then .halt state
        else if stops.atClose ∧ c = '}' ∧ (state.count c).braces = 0 then .halt (state.count c)
        else .onward (state.count c) false

variable {stops : Stops} {state : Delimiters} {before : Option Char} {column : Nat}

@[simp] theorem feedFrom_nil (inert : Bool) :
    feedFrom stops state inert before column [] = { state } := rfl

theorem feedFrom_inert (c : Char) (rest : Text) :
    feedFrom stops state true before column (c :: rest) =
      feedFrom stops state false (some c) (column + 1) rest := by
  simp [feedFrom]

/-- A scan makes the move at the first character and then scans the rest. -/
theorem feedFrom_cons (c : Char) (rest : Text) :
    feedFrom stops state false before column (c :: rest) =
      match move stops state before c rest with
      | .onward next inert => feedFrom stops next inert (some c) (column + 1) rest
      | .comment => { state, commentStart := some column }
      | .halt after => { state := after, halt := some (c, column) } := by
  rw [feedFrom, move]
  cases state.inBlockComment with
  | true => simp only [Bool.false_eq_true, if_false, if_true]; split <;> rfl
  | false =>
      simp only [Bool.false_eq_true, if_false]
      cases state.quote with
      | some quote =>
          dsimp only
          split
          · rfl
          split <;> rfl
      | none =>
          dsimp only
          split
          · rfl
          split
          · rfl
          split
          · rfl
          split
          · rfl
          split
          · rfl
          split <;> rfl

/-- Of the characters behind only the next one matters. -/
theorem move_congr (c : Char) {rest other : Text} (same : rest.head? = other.head?) :
    move stops state before c rest = move stops state before c other := by
  unfold move opensHashComment
  rw [same]

/-- A scan stops only at what it is to stop at. -/
theorem move_eq_halt {c : Char} {rest : Text} {after : Delimiters}
    (halts : move stops state before c rest = .halt after) :
    stops.atTerminator = true ∧ (c = '{' ∨ c = ';') ∨ stops.atClose = true ∧ c = '}' := by
  rw [move] at halts
  split at halts
  · split at halts <;> cases halts
  split at halts
  · split at halts
    · cases halts
    · split at halts <;> cases halts
  split at halts
  · cases halts
  split at halts
  · cases halts
  split at halts
  · cases halts
  split at halts
  · cases halts
  split at halts
  · next terminator => exact Or.inl ⟨terminator.1, terminator.2.1⟩
  split at halts
  · next close => exact Or.inr ⟨close.1, close.2.1⟩
  · cases halts

/-- A comment begins only at a slash or a hash sign. -/
theorem move_eq_comment {c : Char} {rest : Text} (begins : move stops state before c rest = .comment) :
    c = '/' ∨ c = '#' := by
  rw [move] at begins
  split at begins
  · split at begins <;> cases begins
  split at begins
  · split at begins
    · cases begins
    · split at begins <;> cases begins
  split at begins
  · cases begins
  split at begins
  · cases begins
  split at begins
  · next slash => exact Or.inl slash.1
  split at begins
  · next hash => exact Or.inr hash.1
  split at begins
  · cases begins
  · split at begins <;> cases begins

/-- The state in which a scan goes on behind the character at which it has stopped.  A closing
brace has been counted before the scan stops, an opening one has not. -/
def goingOn (state : Delimiters) (c : Char) : Delimiters :=
  if c = '{' then state.count c else state

/-- What a scan is to stop at matters only where it stops, and there a scan that does not stop goes
on. -/
theorem move_stops (c : Char) (rest : Text) :
    (∃ after, move stops state before c rest = .halt after ∧
        move {} state before c rest = .onward (after.goingOn c) false) ∨
      move {} state before c rest = move stops state before c rest := by
  unfold move
  split
  · exact Or.inr rfl
  split
  · exact Or.inr rfl
  split
  · exact Or.inr rfl
  split
  · exact Or.inr rfl
  split
  · exact Or.inr rfl
  split
  · exact Or.inr rfl
  split
  · next terminates => exact Or.inl ⟨_, rfl, by rcases terminates.2.1 with rfl | rfl <;> simp [goingOn, count]⟩
  split
  · next closes => exact Or.inl ⟨_, rfl, by simp [goingOn, closes.2.1]⟩
  · exact Or.inr (by simp)

theorem feedFrom_stops {inert : Bool} {text : Text}
    (unstopped : (feedFrom stops state inert before column text).halt = none) :
    feedFrom {} state inert before column text = feedFrom stops state inert before column text := by
  induction text generalizing state inert before column with
  | nil => rfl
  | cons c rest inductionHypothesis =>
      cases inert with
      | true =>
          rw [feedFrom_inert] at unstopped
          rw [feedFrom_inert, feedFrom_inert]
          exact inductionHypothesis unstopped
      | false =>
          rw [feedFrom_cons] at unstopped
          rw [feedFrom_cons, feedFrom_cons]
          rcases @move_stops stops state before c rest with ⟨after, halts, -⟩ | same
          · rw [halts] at unstopped
            cases unstopped
          · rw [same]
            cases moved : move stops state before c rest with
            | onward next inert =>
                rw [moved] at unstopped
                exact inductionHypothesis unstopped
            | comment => rfl
            | halt after => rfl

/-- Where a scan stops: at a character that it is to stop at. -/
theorem halt_feedFrom {inert : Bool} {text : Text} {c : Char} {stop : Nat}
    (halted : (feedFrom stops state inert before column text).halt = some (c, stop)) :
    (stops.atTerminator = true ∧ (c = '{' ∨ c = ';') ∨ stops.atClose = true ∧ c = '}') ∧
      ∃ skipped later, text = skipped ++ c :: later ∧ stop = column + skipped.length := by
  induction text generalizing state inert before column with
  | nil => cases halted
  | cons first rest inductionHypothesis =>
      have later {next : Delimiters} {inert : Bool}
          (halted : (feedFrom stops next inert (some first) (column + 1) rest).halt = some (c, stop)) :
          (stops.atTerminator = true ∧ (c = '{' ∨ c = ';') ∨ stops.atClose = true ∧ c = '}') ∧
            ∃ skipped later, first :: rest = skipped ++ c :: later ∧
              stop = column + skipped.length := by
        obtain ⟨kind, skipped, later, rfl, rfl⟩ := inductionHypothesis halted
        refine ⟨kind, first :: skipped, later, rfl, ?_⟩
        rw [List.length_cons]
        omega
      cases inert with
      | true =>
          rw [feedFrom_inert] at halted
          exact later halted
      | false =>
          rw [feedFrom_cons] at halted
          cases moved : move stops state before first rest with
          | onward next inert =>
              rw [moved] at halted
              exact later halted
          | comment =>
              rw [moved] at halted
              cases halted
          | halt after =>
              rw [moved] at halted
              cases halted
              exact ⟨move_eq_halt moved, [], rest, rfl, rfl⟩

/-- A scan that ends with a comment does not stop, and the comment begins within the text. -/
theorem commentStart_feedFrom {text : Text} {start : Nat}
    (begins : (feedFrom stops state inert before column text).commentStart = some start) :
    (feedFrom stops state inert before column text).halt = none ∧ column ≤ start ∧
      start < column + text.length := by
  induction text generalizing state inert before column with
  | nil => cases begins
  | cons c rest inductionHypothesis =>
      have further {next : Delimiters} {inert : Bool}
          (begins : (feedFrom stops next inert (some c) (column + 1) rest).commentStart = some start) :
          (feedFrom stops next inert (some c) (column + 1) rest).halt = none ∧ column ≤ start ∧
            start < column + (c :: rest).length := by
        obtain ⟨ended, after, inside⟩ := inductionHypothesis begins
        rw [List.length_cons]
        exact ⟨ended, by omega, by omega⟩
      cases inert with
      | true =>
          rw [feedFrom_inert] at begins ⊢
          exact further begins
      | false =>
          rw [feedFrom_cons] at begins ⊢
          cases moved : move stops state before c rest with
          | onward next inert =>
              rw [moved] at begins
              exact further begins
          | comment =>
              rw [moved] at begins
              cases begins
              exact ⟨rfl, Nat.le_refl _, by simp⟩
          | halt after =>
              rw [moved] at begins
              cases begins

theorem feed_beforeColumn (state : Delimiters) (line : Text) (start : Nat) (stops : Stops) :
    state.feed line start stops =
      feedFrom stops state false (beforeColumn line start) start (line.drop start) :=
  rfl

/-- Where a scan of a line stops. -/
theorem halt_feed {text : Text} {start : Nat} {c : Char} {stop : Nat}
    (halted : (state.feed text start stops).halt = some (c, stop)) :
    (stops.atTerminator = true ∧ (c = '{' ∨ c = ';') ∨ stops.atClose = true ∧ c = '}') ∧
      start ≤ stop ∧ stop < text.length ∧ text[stop]? = some c := by
  obtain ⟨kind, skipped, later, split, rfl⟩ := halt_feedFrom halted
  have there : text[start + skipped.length]? = some c := by
    rw [← List.getElem?_drop, split, List.getElem?_append_right (Nat.le_refl _)]
    simp
  exact ⟨kind, Nat.le_add_right _ _, (List.getElem?_eq_some_iff.mp there).1, there⟩

end Delimiters
end Codemap
