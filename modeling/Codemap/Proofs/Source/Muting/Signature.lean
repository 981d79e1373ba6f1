import Codemap.Proofs.Source.Extent

namespace Codemap

/-!
# A line that no search above reads

The search for a signature reads lines up to the one on which the signature ends.  If it has found
no body, it has also looked below for the next line that is not blank.  So a line is not read if
the signature ends above and, where there is no body, something stands between.  Such a line may
be emptied.  The same is true of a body set off by indentation: it ends where something stands at
the margin, and does not look further.
-/

/-- A line that is not blank stands between two lines of a text. -/
def VisibleBetween (lines : List Text) (above below : Nat) : Prop :=
  ∃ between line, above < between ∧ between < below ∧ lines[between]? = some line ∧
    Text.isBlankText line = false

/-- A line that is not blank is one of the first lines. -/
def VisibleWithin (lines : List Text) (count : Nat) : Prop :=
  ∃ number line, number < count ∧ lines[number]? = some line ∧ Text.isBlankText line = false

section Visible

variable {line : Text} {later lines : List Text} {count : Nat}

theorem VisibleWithin.of_cons (visible : VisibleWithin (line :: later) (count + 1))
    (blank : Text.isBlankText line = true) : VisibleWithin later count := by
  obtain ⟨number, found, less, there, isVisible⟩ := visible
  cases number with
  | zero =>
      obtain rfl := Option.some.inj there
      rw [blank] at isVisible
      cases isVisible
  | succ number => exact ⟨number, found, Nat.lt_of_succ_lt_succ less, there, isVisible⟩

theorem not_visibleWithin_zero : ¬ VisibleWithin lines 0 := by
  rintro ⟨number, line, less, -⟩
  cases less

/-- Behind a line that is not blank nothing matters for the first such line. -/
theorem head?_dropWhile_set (visible : VisibleWithin lines count) :
    ((lines.set count []).dropWhile Text.isBlankText).head? =
      (lines.dropWhile Text.isBlankText).head? := by
  induction lines generalizing count with
  | nil => rfl
  | cons line later inductionHypothesis =>
      cases count with
      | zero => exact absurd visible not_visibleWithin_zero
      | succ count =>
          rw [List.set_cons_succ, List.dropWhile_cons, List.dropWhile_cons]
          split
          · next blank => exact inductionHypothesis (visible.of_cons blank)
          · rfl

end Visible

namespace Signature

/-! ## The search for a signature -/

variable {words parts lines later : List Text} {line : Text} {first index budget offset further : Nat}
  {state : Delimiters} {signature : Signature} {skipping : Bool}

theorem openerBelow_set (visible : VisibleWithin lines further) :
    openerBelow index (lines.set further []) = openerBelow index lines := by
  induction lines generalizing index further with
  | nil => rfl
  | cons line later inductionHypothesis =>
      cases further with
      | zero => exact absurd visible not_visibleWithin_zero
      | succ further =>
          rw [List.set_cons_succ, openerBelow, openerBelow]
          split
          · next blank => exact inductionHypothesis (visible.of_cons blank)
          · rfl

theorem close_set (visible : VisibleWithin later further) :
    close first index state parts (later.set further []) = close first index state parts later := by
  rw [close, close, openerBelow_set visible]

theorem continuesWith_set (visible : VisibleWithin later further) :
    continuesWith words parts (later.set further []) = continuesWith words parts later := by
  have same := head?_dropWhile_set visible
  rw [continuesWith, continuesWith]
  cases rest : later.dropWhile Text.isBlankText with
  | nil =>
      rw [rest, List.head?_nil, List.head?_eq_none_iff] at same
      rw [same]
  | cons next others =>
      rw [rest, List.head?_cons] at same
      obtain ⟨others', split⟩ := List.head?_eq_some_iff.mp same
      rw [split]

/-- A signature in some lines that begin with a given number leaves a further line alone: it ends
above and, if it has no body, something stands between. -/
structure EndsAbove (signature : Signature) (index : Nat) (lines : List Text) (further : Nat) :
    Prop where
  above : signature.lastLine < index + further
  bare : signature.body = none → ∃ number line, signature.lastLine < index + number ∧
    number < further ∧ lines[number]? = some line ∧ Text.isBlankText line = false

theorem EndsAbove.tail (ends : signature.EndsAbove index (line :: later) (further + 1))
    (below : index < signature.lastLine) : signature.EndsAbove (index + 1) later further where
  above := by have := ends.above; omega
  bare := by
    intro bodiless
    obtain ⟨number, found, after, less, there, visible⟩ := ends.bare bodiless
    cases number with
    | zero => omega
    | succ number => exact ⟨number, found, by omega, by omega, there, visible⟩

/-- Where a search has gone beyond a line, it has found something below it. -/
theorem visible_of_within (within : signature.Within index 0 (line :: later))
    (beyond : ∀ place, signature.body = some place → index < place.line)
    (ends : signature.EndsAbove index (line :: later) (further + 1)) : VisibleWithin later further := by
  have above := ends.above
  cases opens : signature.body with
  | none =>
      obtain ⟨number, found, after, less, there, visible⟩ := ends.bare opens
      have lower := within.lower
      cases number with
      | zero => omega
      | succ number => exact ⟨number, found, by omega, there, visible⟩
  | some place =>
      obtain ⟨last, -, text, there, brace⟩ := within.opens place opens
      have lower := beyond place opens
      rw [show place.line - index = place.line - (index + 1) + 1 by omega] at there
      exact ⟨_, text, by omega, there, not_blank_of_brace brace⟩

theorem visible_of_close
    (ends : (close first index state parts later).EndsAbove index (line :: later) (further + 1)) :
    VisibleWithin later further :=
  visible_of_within (close_within line later) (fun _ => lt_of_close) ends

theorem gather_set (enough : budget < lines.length)
    (ends : (gather words first state parts index budget offset skipping lines).EndsAbove index lines
      further) :
    gather words first state parts index budget offset skipping (lines.set further []) =
      gather words first state parts index budget offset skipping lines := by
  induction lines generalizing state parts index budget offset skipping further with
  | nil => cases enough
  | cons line later inductionHypothesis =>
      cases further with
      | zero =>
          -- No signature ends above the first line that is searched for it.
          have within : (gather words first state parts index budget offset skipping
            (line :: later)).Within index offset (line :: later) := gather_within enough
          exact absurd ends.above (Nat.not_lt_of_le within.lower)
      | succ further =>
          rw [List.length_cons] at enough
          rw [List.set_cons_succ, gather, gather]
          rw [gather] at ends
          split at ends
          · next skips =>
              rw [if_pos skips, if_pos skips]
              have more : budget ≠ 0 := by simp at skips; exact skips.1.2
              have fewer : budget - 1 < later.length := by omega
              have within : (gather words first state parts (index + 1) (budget - 1) 0 true
                later).Within (index + 1) 0 later := gather_within fewer
              exact inductionHypothesis fewer (ends.tail within.lower)
          next takes =>
          rw [if_neg takes, if_neg takes]
          dsimp only at ends ⊢
          split at ends
          · rfl
          generalize (state.feed line offset { atTerminator := true }).state = state at ends ⊢
          generalize parts ++ [_] = gathered at ends ⊢
          split at ends
          · next exhausted =>
              rw [if_pos exhausted, if_pos exhausted]
              exact close_set (visible_of_close ends)
          next more =>
          rw [if_neg more, if_neg more]
          split at ends
          · next goesOn =>
              have fewer : budget - 1 < later.length := by omega
              have within : (gather words first state gathered (index + 1) (budget - 1) 0 true
                later).Within (index + 1) 0 later := gather_within fewer
              have visible : VisibleWithin later further :=
                visible_of_within (within.cons line) (fun _ => le_of_gather fewer) ends
              -- The next line that is not blank stands above, so it decides in the same way.
              rw [continuesWith_set visible, if_pos goesOn, if_pos goesOn]
              exact inductionHypothesis fewer (ends.tail within.lower)
          · next complete =>
              have visible := visible_of_close ends
              rw [continuesWith_set visible, if_neg complete, if_neg complete]
              exact close_set visible

/-- A signature leaves a line of the text alone. -/
structure Spares (signature : Signature) (lines : List Text) (number : Nat) : Prop where
  above : signature.lastLine < number
  bare : signature.body = none → VisibleBetween lines signature.lastLine number

variable {start limit number : Nat} {window : Window}

/-- A search that begins below a line does not read it. -/
theorem find?_set_of_lt (below : number < start) :
    find? (lines.set number []) start window limit words = find? lines start window limit words := by
  rw [find?, find?, List.drop_set_of_lt below, List.length_set]

/-- A search that ends above a line does not read it either. -/
theorem find?_set (found : find? lines start window limit words = some signature)
    (above : start < number) (spares : signature.Spares lines number) :
    find? (lines.set number []) start window limit words = some signature := by
  have lower := (lastLine_find? found).1
  rw [find?] at found ⊢
  rw [List.drop_set, if_neg (Nat.not_lt_of_le (Nat.le_of_lt above)), List.length_set]
  cases rest : lines.drop start with
  | nil =>
      rw [rest] at found
      cases found
  | cons line later =>
      rw [rest] at found
      have length := congrArg List.length rest
      rw [List.length_drop, List.length_cons] at length
      obtain ⟨further, distance⟩ : ∃ further, number - start = further + 1 :=
        ⟨number - start - 1, by omega⟩
      have gathered : gather words start {} [] start (min (lines.length - 1) (start + limit - 1) - start)
          window.start false (window.clip line :: later) = signature := Option.some.inj found
      have ends : signature.EndsAbove start (window.clip line :: later) (further + 1) := by
        refine ⟨by have := spares.above; omega, fun bodiless => ?_⟩
        obtain ⟨between, other, after, below, there, visible⟩ := spares.bare bodiless
        obtain ⟨number, distance⟩ : ∃ number, between - start = number + 1 :=
          ⟨between - start - 1, by omega⟩
        refine ⟨number + 1, other, by omega, by omega, ?_, visible⟩
        have same := congrArg (fun lines => lines[number + 1]?) rest
        rw [List.getElem?_drop, show start + (number + 1) = between by omega, there] at same
        exact same.symm
      rw [distance, List.set_cons_succ]
      have same := gather_set (by rw [List.length_cons]; omega) (gathered.symm ▸ ends)
      exact congrArg some (same.trans gathered)

/-- So a line may be emptied if every search from above leaves it alone. -/
theorem find?_set_of_spares (inside : start < lines.length) (elsewhere : start ≠ number)
    (spares : start < number → ∀ signature, find? lines start window limit words = some signature →
      signature.Spares lines number) :
    find? (lines.set number []) start window limit words = find? lines start window limit words := by
  rcases Nat.lt_or_gt_of_ne elsewhere with above | below
  · obtain ⟨signature, found⟩ := Option.isSome_iff_exists.mp (find?_isSome inside window limit words)
    rw [found, find?_set found above (spares above signature found)]
  · exact find?_set_of_lt below

end Signature

/-! ## Bodies set off by indentation -/

namespace Body

/-- A body that ends above something that stands at the margin does not reach further. -/
theorem indentedFrom_set {base last index further : Nat} {level : Option Nat} {lines : List Text}
    (before : last < index)
    (ends : ∃ number line, (indentedFrom base level index last lines).lastLine < index + number ∧
      number < further ∧ lines[number]? = some line ∧ Text.isBlankText line = false) :
    indentedFrom base level index last (lines.set further []) =
      indentedFrom base level index last lines := by
  induction lines generalizing level index last further with
  | nil => rfl
  | cons line later inductionHypothesis =>
      obtain ⟨number, found, after, less, there, visible⟩ := ends
      obtain ⟨further, rfl⟩ : ∃ more, further = more + 1 := ⟨further - 1, by omega⟩
      rw [List.set_cons_succ, indentedFrom, indentedFrom]
      rw [indentedFrom] at after
      split at after
      · next blank =>
          rw [if_pos blank, if_pos blank]
          cases number with
          | zero =>
              obtain rfl := Option.some.inj there
              rw [blank] at visible
              cases visible
          | succ number =>
              exact inductionHypothesis (Nat.lt_add_right 1 before)
                ⟨number, found, by omega, by omega, there, visible⟩
      next code =>
      rw [if_neg code, if_neg code]
      dsimp only at after ⊢
      split at after
      · next outside => rw [if_pos outside, if_pos outside]
      · next inside =>
          rw [if_neg inside, if_neg inside]
          dsimp only at after
          have lower := (indentedFrom_within base (some (level.getD (indent line)))
            (Nat.lt_add_one index) later).1
          cases number with
          | zero => omega
          | succ number =>
              rw [inductionHypothesis (Nat.lt_add_one index)
                ⟨number, found, by omega, by omega, there, visible⟩]

/-- A body after a line above reads neither the line nor what is below. -/
theorem indented_set {lines : List Text} {index header number : Nat} (first : index < number)
    (above : header < number)
    (ends : VisibleBetween lines (indented lines index header).lastLine number) :
    indented (lines.set number []) index header = indented lines index header := by
  rw [indented] at ends
  rw [indented, indented, List.drop_set, if_neg (Nat.not_lt_of_le above), List.getD_eq_getElem?_getD,
    List.getElem?_set_ne (Nat.ne_of_gt first), ← List.getD_eq_getElem?_getD]
  refine indentedFrom_set (Nat.lt_add_one header) ?_
  obtain ⟨between, line, after, below, there, visible⟩ := ends
  have lower := (indentedFrom_within (indent (lines.getD index [])) none (Nat.lt_add_one header)
    (lines.drop (header + 1))).1
  refine ⟨between - (header + 1), line, by omega, by omega, ?_, visible⟩
  rw [List.getElem?_drop, ← there]
  congr 1
  omega

end Body
end Codemap
