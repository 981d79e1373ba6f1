import Codemap.Proofs.Source.Texts

namespace Codemap

/-!
# Where a search for a signature ends

A search scans some of the lines that it comes to and skips blank ones.  What it finds is decided
on the last line that it scans: there the scan stops at a brace or a semicolon, or nothing
announces a further line, or no further line may be gathered.  If the scan does not stop, the next
line that is not blank may still open the body, and then it may lie beyond the lines that may be
gathered.  The walks through bodies take these numbers for granted, so a signature has to end on a
line of the text, with its body, if there is one, opening at a brace of that line.
-/

namespace Signature

/-- The last line that a search scans: its number, the column from which it is scanned, the line
itself and the scan of it, with what has been gathered above and the lines below. -/
structure Ending where
  index : Nat
  offset : Nat
  line : Text
  scan : Scan
  parts : List Text
  later : List Text
deriving DecidableEq, Repr

/-- What has been gathered when the last line is taken up to a column. -/
def Ending.gathered (ending : Ending) (column : Nat) : List Text :=
  ending.parts ++ [ending.line.slice ending.offset column]

/-- The signature that a search finds which ends in this way. -/
def Ending.signature (first : Nat) (ending : Ending) : Signature :=
  match ending.scan.halt with
  | some (c, column) =>
      if c = '{' then
        { text := (joined (ending.gathered column)).normalizeBlanks
          firstLine := first, lastLine := ending.index, body := some ⟨ending.index, column⟩ }
      else
        { text := (joined (ending.gathered (column + 1))).normalizeBlanks
          firstLine := first, lastLine := ending.index }
  | none =>
      close first ending.index ending.scan.state
        (ending.gathered (ending.scan.commentStart.getD ending.line.length)) ending.later

/-- A line behind which a search gathers further lines. -/
def goesOn (words : List Text) (budget : Nat) (ending : Ending) : Bool :=
  let gathered := ending.gathered (ending.scan.commentStart.getD ending.line.length)
  ending.scan.halt.isNone && budget != 0 &&
    (needsMore ending.scan.state gathered || continuesWith words gathered ending.later)

/-- Where the search ends that gathers lines from number `index` on. -/
def ending? (words : List Text) (state : Delimiters) (parts : List Text)
    (index budget offset : Nat) (skipping : Bool) : List Text → Option Ending
  | [] => none
  | line :: later =>
      if skipping && budget != 0 && Text.isBlankText line then
        ending? words state parts (index + 1) (budget - 1) 0 true later
      else
        let scan := state.feed line offset { atTerminator := true }
        let here : Ending := ⟨index, offset, line, scan, parts, later⟩
        if goesOn words budget here then
          ending? words scan.state (here.gathered (scan.commentStart.getD line.length)) (index + 1)
            (budget - 1) 0 true later
        else some here

/-- The lines from a declaration on as a search sees them: the first one is clipped. -/
def Window.clipFirst (window : Window) : List Text → List Text
  | [] => []
  | line :: later => window.clip line :: later

/-- Where the search for the signature of the declaration on line `start` ends. -/
def search? (lines : List Text) (start : Nat) (window : Window) (limit : Nat)
    (words : List Text) : Option Ending :=
  ending? words {} [] start (min (lines.length - 1) (start + limit - 1) - start) window.start false
    (window.clipFirst (lines.drop start))

variable {lines words parts : List Text} {first index budget offset start limit : Nat}
  {state : Delimiters} {skipping : Bool} {window : Window} {ending : Ending}

/-! ## The search decides on its last line -/

theorem gather_eq_ending (enough : budget < lines.length) :
    (ending? words state parts index budget offset skipping lines).map (Ending.signature first) =
      some (gather words first state parts index budget offset skipping lines) := by
  induction lines generalizing state parts index budget offset skipping with
  | nil => cases enough
  | cons line later inductionHypothesis =>
      rw [List.length_cons] at enough
      rw [ending?, gather]
      split
      · next skips =>
          simp only [Bool.and_eq_true, bne_iff_ne] at skips
          exact inductionHypothesis (by omega)
      dsimp only [goesOn, Ending.gathered]
      rcases Option.eq_none_or_eq_some (state.feed line offset { atTerminator := true }).halt with
        halted | ⟨⟨c, column⟩, halted⟩
      · by_cases exhausted : budget = 0
        · simp [Ending.signature, Ending.gathered, halted, exhausted]
        · have more : (budget != 0) = true := bne_iff_ne.mpr exhausted
          simp only [halted, Option.isNone_none, Bool.true_and, more, if_neg exhausted]
          split
          · exact inductionHypothesis (by omega)
          · simp [Ending.signature, Ending.gathered, halted]
      · simp [Ending.signature, Ending.gathered, halted]

/-- A search finds the signature that its last line gives. -/
theorem find?_eq_search? :
    find? lines start window limit words =
      (search? lines start window limit words).map (Ending.signature start) := by
  rw [find?, search?]
  cases rest : lines.drop start with
  | nil => rfl
  | cons line later =>
      have length := congrArg List.length rest
      rw [List.length_drop, List.length_cons] at length
      exact (gather_eq_ending (by rw [List.length_cons]; omega)).symm

/-- The last line that is scanned is one of the lines that may be gathered. -/
structure Ending.EndsIn (ending : Ending) (index budget : Nat) (lines : List Text) : Prop where
  lower : index ≤ ending.index
  upper : ending.index ≤ index + budget
  there : lines[ending.index - index]? = some ending.line
  later : ending.later = lines.drop (ending.index - index + 1)
  scanned : ∃ state, ending.scan = Delimiters.feed state ending.line ending.offset { atTerminator := true }

theorem Ending.EndsIn.cons {later : List Text} (ends : ending.EndsIn (index + 1) (budget - 1) later)
    (more : budget ≠ 0) (line : Text) : ending.EndsIn index budget (line :: later) := by
  obtain ⟨lower, upper, there, below, scanned⟩ := ends
  refine ⟨by omega, by omega, getElem?_cons_of_later lower there line, ?_, scanned⟩
  rw [below, List.drop_succ_cons]
  congr 1
  omega

theorem endsIn_of_ending?
    (ends : ending? words state parts index budget offset skipping lines = some ending) :
    ending.EndsIn index budget lines := by
  induction lines generalizing state parts index budget offset skipping with
  | nil => cases ends
  | cons line later inductionHypothesis =>
      rw [ending?] at ends
      split at ends
      · next skips =>
          simp only [Bool.and_eq_true, bne_iff_ne] at skips
          exact (inductionHypothesis ends).cons skips.1.2 line
      dsimp only at ends
      split at ends
      · next onward =>
          simp only [goesOn, Bool.and_eq_true, bne_iff_ne] at onward
          exact (inductionHypothesis ends).cons onward.1.2 line
      · obtain rfl := Option.some.inj ends
        exact ⟨Nat.le_refl _, Nat.le_add_right _ _, by simp, by simp, state, rfl⟩

/-! ## What a signature spans -/

/-- The lines above the brace that opens a body below are blank. -/
theorem blank_of_openerBelow {next number : Nat} {place : Place}
    (opens : openerBelow next lines = some place) (lower : next ≤ number)
    (above : number < place.line) :
    ∃ line, lines[number - next]? = some line ∧ Text.isBlankText line = true := by
  induction lines generalizing next with
  | nil => cases opens
  | cons line later inductionHypothesis =>
      rw [openerBelow] at opens
      split at opens
      · next blank =>
          rcases Nat.eq_or_lt_of_le lower with rfl | below
          · exact ⟨line, by simp, blank⟩
          · obtain ⟨found, there, isBlank⟩ := inductionHypothesis opens below
            exact ⟨found, getElem?_cons_of_later below there line, isBlank⟩
      · obtain ⟨-, same⟩ := Option.ite_none_right_eq_some.mp opens
        obtain rfl := Option.some.inj same
        exact absurd lower (Nat.not_le_of_lt above)

/-- The window between two columns of a line, of which the second one counts from the end of the
line if it is negative. -/
def Window.ofColumns (line : Text) (start : Nat) (stop : Option Int) : Window where
  start := start
  stop := stop.map fun column => if column < 0 then line.length - column.natAbs else column.toNat

/-- What can be relied on of a signature for which a search has scanned lines down to a last one. -/
structure Spans (lines : List Text) (start limit last : Nat) (signature : Signature) : Prop where
  firstLine : signature.firstLine = start
  lower : start ≤ signature.lastLine
  upper : signature.lastLine < lines.length
  /-- A body opens at a brace of the last line. -/
  opens : ∀ place, signature.body = some place →
    place.line = signature.lastLine ∧ OpensAt lines place
  /-- Without a body the last line is one of the lines that may be gathered. -/
  bare : signature.body = none → signature.lastLine ≤ start + limit - 1
  /-- A body that opens beyond these lines opens behind nothing but blank ones. -/
  near : ∀ place, signature.body = some place → place.line ≤ start + limit - 1 ∨
    ∀ number, last < number → number < place.line →
      ∃ line, lines[number]? = some line ∧ Text.isBlankText line = true
  singleSpaced : signature.text.SingleSpaced

theorem firstLine_signature (first : Nat) (ending : Ending) :
    (ending.signature first).firstLine = first := by
  rw [Ending.signature]
  split
  · split <;> rfl
  · rw [close]
    split <;> rfl

/-- Where the body of a signature opens, if it has one: on the last line that is scanned, or on
the first line below that is not blank. -/
theorem near_signature (first : Nat) (ending : Ending) :
    ((ending.signature first).body = none → (ending.signature first).lastLine = ending.index) ∧
      ∀ place, (ending.signature first).body = some place → place.line = ending.index ∨
        openerBelow (ending.index + 1) ending.later = some place := by
  rw [Ending.signature]
  split
  · split
    · exact ⟨fun bodiless => (by cases bodiless), fun place opens => Or.inl (by cases opens; rfl)⟩
    · exact ⟨fun _ => rfl, fun place opens => by cases opens⟩
  · rw [close]
    split
    · next opener found =>
        refine ⟨fun bodiless => (by cases bodiless), fun place opens => Or.inr ?_⟩
        obtain rfl := Option.some.inj opens
        exact (Option.ite_none_left_eq_some.mp found).2
    · exact ⟨fun _ => rfl, fun place opens => by cases opens⟩

theorem Window.drop_clipFirst (window : Window) (lines : List Text) (count : Nat) :
    (window.clipFirst lines).drop (count + 1) = lines.drop (count + 1) := by
  cases lines <;> rfl

/-- The last line that is scanned for a declaration, as a line of the text. -/
theorem endsIn_of_search? (searched : search? lines start window limit words = some ending) :
    start ≤ ending.index ∧
      ending.index ≤ start + (min (lines.length - 1) (start + limit - 1) - start) ∧
      ending.later = lines.drop (ending.index + 1) := by
  obtain ⟨lower, upper, -, below, -⟩ := endsIn_of_ending? searched
  refine ⟨lower, upper, ?_⟩
  rw [below, Window.drop_clipFirst, List.drop_drop]
  congr 1
  omega

/-- For every line of a text, every window and every positive number of lines that may be gathered
there is a signature, and it spans lines of the text as the walks through bodies expect. -/
theorem find?_spans {lines : List Text} {start limit : Nat} (inside : start < lines.length)
    (positive : 1 ≤ limit) (column : Nat) (stop : Option Int) (words : List Text) :
    let window := Window.ofColumns lines[start] column stop
    ∃ ending, search? lines start window limit words = some ending ∧
      find? lines start window limit words = some (ending.signature start) ∧
      start ≤ ending.index ∧ ending.index ≤ start + limit - 1 ∧
      (ending.signature start).Spans lines start limit ending.index := by
  intro window
  obtain ⟨signature, found⟩ := Option.isSome_iff_exists.mp (find?_isSome inside window limit words)
  obtain ⟨ending, searched, rfl⟩ := Option.map_eq_some_iff.mp (find?_eq_search?.symm.trans found)
  obtain ⟨lower, upper, below⟩ := endsIn_of_search? searched
  obtain ⟨bare, near⟩ := near_signature start ending
  have within : ending.index ≤ start + limit - 1 := by omega
  refine ⟨ending, searched, found, lower, within, firstLine_signature start ending,
    (lastLine_find? found).1, (lastLine_find? found).2, fun place opens => ?_,
    fun bodiless => (bare bodiless).trans_le within, fun place opens => ?_, ?_⟩
  · obtain ⟨last, brace, -⟩ := opensAt_find? found opens
    exact ⟨last, brace⟩
  · rcases near place opens with here | further
    · exact Or.inl (here.trans_le within)
    · refine Or.inr fun number after before => ?_
      obtain ⟨line, there, blank⟩ := blank_of_openerBelow further after before
      rw [below, List.getElem?_drop, Nat.add_sub_cancel' after] at there
      exact ⟨line, there, blank⟩
  · obtain ⟨text, normalized⟩ := text_eq_normalizeBlanks_of_find? found
    rw [normalized]
    exact Text.singleSpaced_normalizeBlanks text

/-- The window leaves out the semicolon, and the body opens beyond the only line that may be
gathered. -/
theorem find?_spans_beyond_limit :
    let lines := ["void  f(int a);".toList, "".toList, "  \x7b".toList]
    find? lines 0 (.ofColumns lines[0] 0 (some (-1))) 1 [] =
        some ⟨"void f(int a)".toList, 0, 2, some ⟨2, 2⟩⟩ ∧
      Spans lines 0 1 0 ⟨"void f(int a)".toList, 0, 2, some ⟨2, 2⟩⟩ := by
  intro lines
  obtain ⟨ending, -, found, -, upper, spans⟩ :=
    find?_spans (show 0 < lines.length by decide) (Nat.le_refl 1) 0 (some (-1)) []
  have known : find? lines 0 (.ofColumns lines[0] 0 (some (-1))) 1 [] =
      some ⟨"void f(int a)".toList, 0, 2, some ⟨2, 2⟩⟩ := by decide +kernel
  rw [Option.some.inj (found.symm.trans known), Nat.le_zero.mp upper] at spans
  exact ⟨known, spans⟩

end Signature
end Codemap
