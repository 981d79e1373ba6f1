import Codemap.Proofs.Source.Members

namespace Codemap

/-!
# A line inside a block comment

A line that lies inside a block comment from its beginning to its end leaves a scanner that knows
of the comment as it is, and so does an empty line in its place.  The walk of a body begins behind
the brace that opens it.  If that brace is code as the text is read from its beginning, the walk
reads the characters below as that reading does, and it knows of the comment too.
-/

namespace Reading

variable {index column : Nat} {mode : Mode} {before : Option Char} {text : Text} {lines : List Text}
  {reading : Reading}

/-- A line lies inside a block comment: the comment is open where the line begins, and nothing on
the line ends it. -/
structure Commented (lines : List Text) (number : Nat) : Prop where
  inside : (endOfLines {} 0 (lines.take number)).inBlockComment = true
  goesOn : ∀ line ∈ lines[number]?, Text.includes line "*/".toList = false

/-! ## Where the scanner is behind some lines -/

theorem endOfLines_append (mode : Mode) (first second : List Text) :
    endOfLines mode 0 (first ++ second) = endOfLines (endOfLines mode 0 first) 0 second := by
  induction first generalizing mode with
  | nil => rfl
  | cons line later inductionHypothesis => exact inductionHypothesis (endOfLine mode line 0)

/-- A character of some lines is one of a line among them. -/
theorem mem_ofLines (member : reading ∈ ofLines index mode 0 lines) :
    ∃ (number : Nat) (line : Text), lines[number]? = some line ∧
      reading ∈ ofLine (index + number) (endOfLines mode 0 (lines.take number)) line 0 := by
  induction lines generalizing index mode with
  | nil => cases member
  | cons line later inductionHypothesis =>
      rcases List.mem_append.mp member with here | below
      · exact ⟨0, line, rfl, here⟩
      · obtain ⟨number, found, there, inside⟩ := inductionHypothesis below
        rw [Nat.add_assoc, Nat.add_comm 1] at inside
        exact ⟨number + 1, found, there, inside⟩

theorem role_of_mem_remark (member : reading ∈ remark index column text) : reading.role = .comment := by
  induction text generalizing column with
  | nil => cases member
  | cons c rest inductionHypothesis =>
      rcases List.mem_cons.mp member with rfl | later
      · rfl
      · exact inductionHypothesis later

/-- Behind a character of code a scanner goes on as one that begins there. -/
theorem endOfRest_of_code (member : reading ∈ ofRest index mode before column text)
    (code : reading.role = .code) :
    ∃ skipped rest, text = skipped ++ reading.char :: rest ∧
      reading.place = ⟨index, column + skipped.length⟩ ∧
      endOfRest mode before text = endOfRest {} (some reading.char) rest := by
  induction text generalizing mode before column with
  | nil => cases member
  | cons c rest inductionHypothesis =>
      rw [ofRest] at member
      rw [endOfRest]
      cases step : mode.step? before c rest with
      | none =>
          rw [step] at member
          rw [role_of_mem_remark member] at code
          cases code
      | some pair =>
          obtain ⟨role, next⟩ := pair
          rw [step] at member
          rcases List.mem_cons.mp member with rfl | later
          · obtain rfl : role = .code := code
            obtain ⟨-, rfl⟩ := Mode.eq_of_step?_code step
            exact ⟨[], rest, rfl, rfl, rfl⟩
          · obtain ⟨skipped, further, rfl, place, ends⟩ := inductionHypothesis later
            refine ⟨c :: skipped, further, rfl, ?_, ends⟩
            rw [place, List.length_cons, Nat.add_right_comm, Nat.add_assoc]

/-- A scanner that begins behind a character of code is below where one is that has read the
text from its beginning. -/
theorem endOfLines_behind (member : reading ∈ ofLines 0 {} 0 lines) (code : reading.role = .code)
    {number : Nat} (below : reading.place.line < number) :
    endOfLines {} (reading.place.column + 1)
        ((lines.drop reading.place.line).take (number - reading.place.line)) =
      endOfLines {} 0 (lines.take number) := by
  obtain ⟨opener, line, there, inside⟩ := mem_ofLines member
  obtain ⟨skipped, rest, text, place, ends⟩ := endOfRest_of_code inside code
  rw [Nat.zero_add] at place
  rw [place] at below ⊢
  dsimp only at below ⊢
  rw [List.drop_zero] at text ends
  obtain ⟨more, enough⟩ : ∃ more, number - opener = more + 1 := ⟨number - opener - 1, by omega⟩
  rw [show lines.take number = lines.take opener ++ (lines.drop opener).take (number - opener) by
      rw [← List.take_add, Nat.add_sub_cancel' (Nat.le_of_lt below)],
    endOfLines_append, drop_eq_cons there, enough, List.take_succ_cons, endOfLines, endOfLines,
    endOfLine, endOfLine, List.drop_zero]
  have next : beforeColumn line (0 + skipped.length + 1) = some reading.char :=
    beforeColumn_succ (by rw [text, Nat.zero_add]; simp)
  have behind : line.drop (0 + skipped.length + 1) = rest := by
    rw [text, Nat.zero_add]
    simp
  rw [next, behind, ← ends]

end Reading

/-! ## A scanner that knows of the comment -/

namespace Delimiters

variable {stops : Stops} {state : Delimiters} {before : Option Char} {column : Nat} {text : Text}

/-- A line that goes on with a comment changes nothing. -/
theorem feedFrom_of_commented (inside : state.inBlockComment = true)
    (goesOn : Text.includes text "*/".toList = false) :
    feedFrom stops state false before column text = { state } := by
  induction text generalizing before column with
  | nil => rfl
  | cons c rest inductionHypothesis =>
      rw [Text.includes, Text.find?] at goesOn
      split at goesOn
      · cases goesOn
      next apart =>
      have notClosed : ¬ (c = '*' ∧ rest.head? = some '/') := by
        rintro ⟨rfl, slash⟩
        obtain ⟨others, rfl⟩ := List.head?_eq_some_iff.mp slash
        exact apart rfl
      rw [feedFrom, if_neg Bool.false_ne_true, if_pos inside, if_neg notClosed]
      exact inductionHypothesis goesOn

theorem feed_of_commented (inside : state.inBlockComment = true)
    (goesOn : Text.includes text "*/".toList = false) : state.feed text 0 stops = { state } :=
  feedFrom_of_commented inside goesOn

end Delimiters

namespace Body

variable {state : Delimiters} {index offset : Nat} {lines : List Text}

theorem shown_of_commented (inside : state.inBlockComment = true) (index offset : Nat)
    (stop : Option Nat) (line : Text) : shown state index offset stop line = [] := by
  rw [shown, if_neg]
  simp [atMemberLevel, inside]

/-- A line inside a comment is of no consequence for the walk of a body. -/
theorem bracedFrom_set {further : Nat} (later : offset = 0 ∨ 0 < further)
    (inside : (Reading.endOfLines (state.mode false) offset (lines.take further)).inBlockComment = true)
    (goesOn : ∀ line ∈ lines[further]?, Text.includes line "*/".toList = false) :
    bracedFrom state index offset (lines.set further []) = bracedFrom state index offset lines := by
  induction lines generalizing state index offset further with
  | nil => rfl
  | cons line below inductionHypothesis =>
      cases further with
      | zero =>
          obtain rfl : offset = 0 := later.resolve_right (Nat.lt_irrefl 0)
          have open' : state.inBlockComment = true := inside
          have line' : state.feed line 0 { atClose := true } = { state } :=
            Delimiters.feed_of_commented open' (goesOn line rfl)
          have empty : state.feed [] 0 { atClose := true } = { state } :=
            state.feed_of_length_le { atClose := true } (Nat.le_refl 0)
          -- Inside the comment neither line changes the state, and neither shows a segment.
          rw [List.set_cons_zero, bracedFrom_of_end (by rw [empty]), bracedFrom_of_end (by rw [line']),
            line', empty, shown_of_commented open', shown_of_commented open']
      | succ further =>
          rw [List.set_cons_succ]
          cases halted : (state.feed line offset { atClose := true }).halt with
          | some pair => rw [bracedFrom_of_halt halted, bracedFrom_of_halt halted]
          | none =>
              have ends := Delimiters.endsAs_feed index halted
              rw [List.take_succ_cons, Reading.endOfLines, ← ends.mode] at inside
              rw [bracedFrom_of_end halted, bracedFrom_of_end halted,
                inductionHypothesis (Or.inl rfl) inside goesOn]

/-- So it is for a body that opens above in code. -/
theorem braced_set {number : Nat} (commented : Reading.Commented lines number) {opener : Place}
    (above : opener.line < number) (code : ⟨opener, '{', .code⟩ ∈ Reading.ofLines 0 {} 0 lines) :
    braced (lines.set number []) opener = braced lines opener := by
  have behind := Reading.endOfLines_behind code rfl above
  rw [braced, braced, List.drop_set, if_neg (Nat.not_lt_of_le (Nat.le_of_lt above))]
  refine bracedFrom_set (Or.inr (by omega)) ?_ fun line there => commented.goesOn line ?_
  · rw [← commented.inside]
    exact congrArg Mode.inBlockComment behind
  · rw [List.getElem?_drop] at there
    rwa [Nat.add_sub_cancel' (Nat.le_of_lt above)] at there

end Body
end Codemap
