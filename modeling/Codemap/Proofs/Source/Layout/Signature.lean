import Codemap.Proofs.Source.Extent
import Codemap.Proofs.Source.Shift
import Mathlib.Data.List.Forall2
import Mathlib.Data.List.TakeWhile

namespace Codemap

/-!
# Lines under another layout

Two runs of the search are compared, on lines that differ in their margins alone.  Columns
of the two runs correspond if they lie behind the margins at the same distance, and line
numbers are the same as long as a line with code follows.  Signatures, bodies and their
segments correspond in this sense, whatever is open where a line begins.
-/

/-- Two texts, given by their lines, differ in the margins alone: each line of the one is
the line of the other, but for the blanks at its beginning.  Beyond the last line of
either the other has only lines that are all margin.

A carriage return and the line feed after it end one line, so taking away the blanks
between the two changes no margin: it takes away the line between them. -/
def Relaid (lines others : List Text) : Prop :=
  ∀ index, Text.trimStart (lines.getD index []) = Text.trimStart (others.getD index [])

theorem relaid_iff {lines others : List Text} :
    (∀ index < max lines.length others.length,
      Text.trimStart (lines.getD index []) = Text.trimStart (others.getD index [])) ↔
        Relaid lines others := by
  refine ⟨fun bounded index => ?_, fun relaid index _ => relaid index⟩
  by_cases inside : index < max lines.length others.length
  · exact bounded index inside
  · rw [List.getD_eq_getElem?_getD, List.getD_eq_getElem?_getD, List.getElem?_eq_none (by omega),
      List.getElem?_eq_none (by omega)]

instance (lines others : List Text) : Decidable (Relaid lines others) :=
  decidable_of_iff _ relaid_iff

/-- From a line on there are only lines that are all margin. -/
def Ended (lines : List Text) (index : Nat) : Prop :=
  ∀ line ∈ lines.drop index, Text.trimStart line = []

/-- The next line is the same, or no code follows. -/
def SameNext (lines others : List Text) (next next' : Nat) : Prop :=
  next = next' ∨ Ended lines next ∧ Ended others next'

/-- Two columns lie at the same distance behind the margins of a line. -/
def SameColumn (lines others : List Text) (line column column' : Nat) : Prop :=
  ∃ place, column = (Text.margin (lines.getD line [])).length + place ∧
    column' = (Text.margin (others.getD line [])).length + place

/-- From two columns a scan of a line begins alike. -/
def SameStart (lines others : List Text) (line column column' : Nat) : Prop :=
  ∃ place, Text.At (lines.getD line []) column place ∧ Text.At (others.getD line []) column' place

/-- Two places correspond. -/
structure SamePlace (lines others : List Text) (place place' : Place) : Prop where
  line : place.line = place'.line
  column : SameColumn lines others place.line place.column place'.column

/-- Two signatures correspond. -/
structure SameSignature (lines others : List Text) (signature signature' : Signature) : Prop where
  text : signature.text = signature'.text
  firstLine : signature.firstLine = signature'.firstLine
  next : SameNext lines others (signature.lastLine + 1) (signature'.lastLine + 1)
  body : Option.Rel (SamePlace lines others) signature.body signature'.body

variable {lines others : List Text}

/-! ## Related options -/

section Related

variable {α β : Type} {related : α → β → Prop} {first : Option α} {second : Option β}

theorem eq_none_of_rel (same : Option.Rel related first second) (none : first = .none) :
    second = .none := by
  subst none
  cases same
  rfl

theorem exists_of_rel (same : Option.Rel related first second) {value : α}
    (some : first = .some value) : ∃ other, second = .some other ∧ related value other := by
  subst some
  cases same with
  | some here => exact ⟨_, rfl, here⟩

end Related

/-! ## Lines of both texts -/

theorem getElem?_of_drop {index : Nat} {line : Text} {later : List Text}
    (drops : lines.drop index = line :: later) : lines[index]? = some line := by
  have there := congrArg List.head? drops
  rwa [List.head?_drop, List.head?_cons] at there

theorem getD_of_drop {index : Nat} {line : Text} {later : List Text}
    (drops : lines.drop index = line :: later) : lines.getD index [] = line :=
  getD_of_getElem? (getElem?_of_drop drops)

theorem lt_length_of_drop {index : Nat} {line : Text} {later : List Text}
    (drops : lines.drop index = line :: later) : index < lines.length :=
  (List.getElem?_eq_some_iff.mp (getElem?_of_drop drops)).1

theorem drop_succ_of_drop {index : Nat} {line : Text} {later : List Text}
    (drops : lines.drop index = line :: later) : lines.drop (index + 1) = later := by
  rw [← List.drop_drop, drops, List.drop_succ_cons, List.drop_zero]

theorem Ended.of_length_le {index : Nat} (beyond : lines.length ≤ index) : Ended lines index := by
  intro line member
  rw [List.drop_eq_nil_of_le beyond] at member
  cases member

theorem Ended.mono {index later : Nat} (ended : Ended lines index) (le : index ≤ later) :
    Ended lines later := by
  intro line member
  rw [← Nat.add_sub_cancel' le, ← List.drop_drop] at member
  exact ended line (List.mem_of_mem_drop member)

/-- Beyond the end of the code a line has no code. -/
theorem Ended.trimStart_getD {index line : Nat} (ended : Ended lines index) (le : index ≤ line) :
    Text.trimStart (lines.getD line []) = [] := by
  cases drops : lines.drop line with
  | nil =>
      rw [List.drop_eq_nil_iff] at drops
      rw [List.getD_eq_getElem?_getD, List.getElem?_eq_none drops]
      rfl
  | cons first later =>
      rw [getD_of_drop drops]
      refine ended.mono le first ?_
      rw [drops]
      exact List.mem_cons_self

theorem Ended.trimStart_getElem? {index : Nat} {line : Text} (ended : Ended lines index)
    (there : lines[index]? = some line) : Text.trimStart line = [] := by
  rw [← getD_of_getElem? there]
  exact ended.trimStart_getD (Nat.le_refl index)

namespace Relaid

theorem symm (relaid : Relaid lines others) : Relaid others lines :=
  fun index => (relaid index).symm

theorem ended {index : Nat} (relaid : Relaid lines others) (ended : Ended lines index) :
    Ended others index := by
  intro line member
  obtain ⟨further, there⟩ := List.mem_iff_getElem?.mp member
  rw [List.getElem?_drop] at there
  rw [← getD_of_getElem? there, ← relaid (index + further)]
  exact ended.trimStart_getD (Nat.le_add_right _ _)

/-- From a line on there is no code in either text, or the line stands in both. -/
theorem ended_or (relaid : Relaid lines others) (index : Nat) :
    Ended lines index ∧ Ended others index ∨ ¬ Ended lines index ∧ ∃ line other,
      lines.drop index = line :: lines.drop (index + 1) ∧
        others.drop index = other :: others.drop (index + 1) ∧
          Text.trimStart line = Text.trimStart other := by
  by_cases ended : Ended lines index
  · exact Or.inl ⟨ended, relaid.ended ended⟩
  refine Or.inr ⟨ended, ?_⟩
  cases here : lines.drop index with
  | nil => exact absurd (Ended.of_length_le (List.drop_eq_nil_iff.mp here)) ended
  | cons line later =>
      cases there : others.drop index with
      | nil =>
          have beyond := Ended.of_length_le (List.drop_eq_nil_iff.mp there)
          exact absurd (relaid.symm.ended beyond) ended
      | cons other otherLater =>
          have same := relaid index
          rw [getD_of_drop here, getD_of_drop there] at same
          rw [drop_succ_of_drop here, drop_succ_of_drop there]
          exact ⟨line, other, rfl, rfl, same⟩

/-- A line that is followed by code stands in both texts. -/
theorem inside (relaid : Relaid lines others) {index : Nat} (code : ¬ Ended lines index) :
    index < lines.length ∧ index < others.length := by
  rcases relaid.ended_or index with ⟨ended, -⟩ | ⟨-, line, other, here, there, -⟩
  · exact absurd ended code
  · exact ⟨lt_length_of_drop here, lt_length_of_drop there⟩

/-- Induction over the lines of both texts: what holds where the code has ended, and on
each line before that if it holds from the next one on, holds from every line on. -/
theorem induction {motive : Nat → Prop} (relaid : Relaid lines others)
    (ended : ∀ index, Ended lines index → Ended others index → motive index)
    (step : ∀ index line other, ¬ Ended lines index →
      lines.drop index = line :: lines.drop (index + 1) →
      others.drop index = other :: others.drop (index + 1) →
      Text.trimStart line = Text.trimStart other → motive (index + 1) → motive index)
    (index : Nat) : motive index := by
  induction left : lines.length - index generalizing index with
  | zero =>
      have beyond := Ended.of_length_le (show lines.length ≤ index by omega)
      exact ended index beyond (relaid.ended beyond)
  | succ count inductionHypothesis =>
      rcases relaid.ended_or index with both | ⟨code, line, other, here, there, same⟩
      · exact ended index both.1 both.2
      · exact step index line other code here there same
          (inductionHypothesis (index + 1) (by omega))

end Relaid

theorem SameColumn.start {line column column' : Nat}
    (same : SameColumn lines others line column column') :
    SameStart lines others line (column + 1) (column' + 1) := by
  obtain ⟨place, rfl, rfl⟩ := same
  exact ⟨place + 1, Or.inr ⟨place, rfl, rfl⟩, Or.inr ⟨place, rfl, rfl⟩⟩

theorem sameStart_zero (line : Nat) : SameStart lines others line 0 0 :=
  ⟨0, Or.inl ⟨rfl, rfl⟩, Or.inl ⟨rfl, rfl⟩⟩

theorem SameSignature.hasBody {signature signature' : Signature}
    (same : SameSignature lines others signature signature') :
    signature.hasBody = signature'.hasBody := by
  have bodies := same.body
  rw [Signature.hasBody, Signature.hasBody]
  generalize signature.body = body at bodies
  generalize signature'.body = body' at bodies
  cases bodies <;> rfl

/-! ## Two lines -/

section Pair

variable {line other : Text}

theorem trim_of_blank (blank : Text.trimStart line = []) : Text.trim line = [] := by
  rw [Text.trim, blank]
  rfl

theorem trim_eq_of_trimStart (same : Text.trimStart line = Text.trimStart other) :
    Text.trim line = Text.trim other := by
  rw [Text.trim, Text.trim, same]

theorem isBlankText_eq_of_trimStart (same : Text.trimStart line = Text.trimStart other) :
    Text.isBlankText line = Text.isBlankText other := by
  rw [← Text.isBlankText_trimStart line, same, Text.isBlankText_trimStart]

theorem words_slice {start place : Nat} (at' : Text.At line start place) (k : Nat) :
    Text.words (line.slice start ((Text.margin line).length + k)) =
      Text.words ((Text.trimStart line).slice place k) := by
  obtain ⟨blanks, blank, piece⟩ := Text.slice_trimStart at' k
  rw [piece, Text.words_append_of_blank blank]

/-- A line that is all margin does nothing to the scanner. -/
theorem feed_of_blank {state : Delimiters} (proper : state.Proper) (empty : Text.trimStart line = [])
    (stops : Stops) : state.feed line 0 stops = { state } := by
  rw [Delimiters.feed_trimStart proper (Or.inl ⟨rfl, rfl⟩), empty]
  rfl

/-- Two lines under their margins are scanned alike. -/
theorem feed_pair {state : Delimiters} {start start' place : Nat} (proper : state.Proper)
    (same : Text.trimStart line = Text.trimStart other) (at' : Text.At line start place)
    (at'' : Text.At other start' place) (stops : Stops) :
    ∃ scan : Scan, state.feed line start stops = scan.shift (Text.margin line).length ∧
      state.feed other start' stops = scan.shift (Text.margin other).length ∧
      scan.state.Proper := by
  refine ⟨state.feed (Text.trimStart line) place stops, Delimiters.feed_trimStart proper at', ?_,
    Delimiters.proper_feedFrom proper⟩
  rw [same]
  exact Delimiters.feed_trimStart proper at''

theorem length_sub_trimStart (line : Text) :
    line.length - (Text.trimStart line).length = (Text.margin line).length + 0 := by
  rw [Text.length_eq_margin_add, Nat.add_sub_cancel, Nat.add_zero]

end Pair

namespace Signature

/-! ## Signatures -/

section Parts

variable {parts parts' : List Text}

theorem words_joined (same : parts.flatMap Text.words = parts'.flatMap Text.words) :
    Text.words (joined parts) = Text.words (joined parts') := by
  rw [joined, joined, Text.words_intercalate, Text.words_intercalate, same]

theorem normalizeBlanks_joined (same : parts.flatMap Text.words = parts'.flatMap Text.words) :
    (joined parts).normalizeBlanks = (joined parts').normalizeBlanks := by
  rw [Text.normalizeBlanks, Text.normalizeBlanks, words_joined same]

/-- Parts of the same words, joined with a space between neighbours, announce a further line alike. -/
theorem needsMore_eq (same : parts.flatMap Text.words = parts'.flatMap Text.words)
    (state : Delimiters) : needsMore state parts = needsMore state parts' := by
  rw [needsMore, needsMore, Text.endsWithAny_trimEnd (words_joined same) rfl]

/-- They are continued alike. -/
theorem continuesWith_eq (relaid : Relaid lines others)
    (same : parts.flatMap Text.words = parts'.flatMap Text.words) (words : List Text) (next : Nat) :
    continuesWith words parts (lines.drop next) = continuesWith words parts' (others.drop next) := by
  refine relaid.induction (motive := fun next =>
    continuesWith words parts (lines.drop next) = continuesWith words parts' (others.drop next))
    (fun next ended ended' => ?_) (fun next line other _ here there same' below => ?_) next
  · rw [continuesWith, continuesWith,
      List.dropWhile_eq_nil_iff.mpr fun line member => Text.isBlankText_iff.mpr (ended line member),
      List.dropWhile_eq_nil_iff.mpr fun line member => Text.isBlankText_iff.mpr (ended' line member),
      Bool.and_false, Bool.and_false]
  · rw [continuesWith, continuesWith] at below
    rw [here, there, continuesWith, continuesWith, List.dropWhile_cons, List.dropWhile_cons,
      isBlankText_eq_of_trimStart same']
    by_cases blank : Text.isBlankText other = true
    · rw [if_pos blank, if_pos blank]
      exact below
    · rw [if_neg blank, if_neg blank]
      dsimp only
      rw [startsWithWord, startsWithWord, same',
        Text.endsWithAny_trimEnd (words_joined same) rfl]

end Parts

/-! ## Where a body opens below -/

theorem openerBelow_of_ended {next : Nat} {rest : List Text}
    (ended : ∀ line ∈ rest, Text.trimStart line = []) : openerBelow next rest = none := by
  induction rest generalizing next with
  | nil => rfl
  | cons line later inductionHypothesis =>
      obtain ⟨here, below⟩ := List.forall_mem_cons.mp ended
      rw [openerBelow, if_pos (Text.isBlankText_iff.mpr here), inductionHypothesis below]

theorem openerBelow_same (relaid : Relaid lines others) (next : Nat) :
    Option.Rel (SamePlace lines others) (openerBelow next (lines.drop next))
      (openerBelow next (others.drop next)) := by
  refine relaid.induction (motive := fun next =>
    Option.Rel (SamePlace lines others) (openerBelow next (lines.drop next))
      (openerBelow next (others.drop next)))
    (fun next ended ended' => ?_) (fun next line other _ here there same below => ?_) next
  · rw [openerBelow_of_ended ended, openerBelow_of_ended ended']
    exact .none
  · rw [here, there, openerBelow, openerBelow, isBlankText_eq_of_trimStart same]
    split
    · exact below
    dsimp only
    rw [length_sub_trimStart line, length_sub_trimStart other, same]
    split
    · refine .some ⟨rfl, 0, ?_, ?_⟩
      · rw [getD_of_drop here]
      · rw [getD_of_drop there]
    · exact .none

/-- Signatures that go no further correspond. -/
theorem close_same (relaid : Relaid lines others) {parts parts' : List Text}
    (same : parts.flatMap Text.words = parts'.flatMap Text.words) (first index : Nat)
    (state : Delimiters) :
    SameSignature lines others (close first index state parts (lines.drop (index + 1)))
      (close first index state parts' (others.drop (index + 1))) := by
  have opener : Option.Rel (SamePlace lines others)
      (if state.inString then none else openerBelow (index + 1) (lines.drop (index + 1)))
      (if state.inString then none else openerBelow (index + 1) (others.drop (index + 1))) := by
    split
    · exact .none
    · exact openerBelow_same relaid (index + 1)
  rw [close, close, normalizeBlanks_joined same]
  generalize (if state.inString then none
    else openerBelow (index + 1) (lines.drop (index + 1))) = place at opener
  generalize (if state.inString then none
    else openerBelow (index + 1) (others.drop (index + 1))) = place' at opener
  cases opener with
  | none => exact ⟨rfl, rfl, Or.inl rfl, .none⟩
  | some place => exact ⟨rfl, rfl, Or.inl (congrArg _ place.line), .some place⟩

/-- What follows after a line that is scanned to its end. -/
def onward (words : List Text) (first : Nat) (state : Delimiters) (parts : List Text)
    (index budget : Nat) (later : List Text) : Signature :=
  if budget = 0 then close first index state parts later
  else if needsMore state parts || continuesWith words parts later then
    gather words first state parts (index + 1) (budget - 1) 0 true later
  else close first index state parts later

/-- A signature that ends at a line or later in the margins below, without a body. -/
structure EndsAfter (signature : Signature) (index : Nat) (first : Nat) (parts : List Text) :
    Prop where
  text : signature.text = List.intercalate [' '] (parts.flatMap Text.words)
  firstLine : signature.firstLine = first
  lastLine : index ≤ signature.lastLine
  body : signature.body = none

theorem close_of_ended {first index : Nat} {state : Delimiters} {parts rest : List Text}
    (ended : ∀ line ∈ rest, Text.trimStart line = []) :
    (close first index state parts rest).EndsAfter index first parts := by
  rw [close, openerBelow_of_ended ended, ite_self, Text.normalizeBlanks, joined,
    Text.words_intercalate]
  exact ⟨rfl, rfl, Nat.le_refl index, rfl⟩

theorem gather_of_ended {words : List Text} {first : Nat} {state : Delimiters} {parts : List Text}
    {index budget : Nat} {skipping : Bool} {rest : List Text} (proper : state.Proper)
    (ended : ∀ line ∈ rest, Text.trimStart line = []) :
    (gather words first state parts index budget 0 skipping rest).EndsAfter index first parts := by
  induction rest generalizing parts index budget skipping with
  | nil => exact close_of_ended ended
  | cons line later inductionHypothesis =>
      obtain ⟨here, below⟩ := List.forall_mem_cons.mp ended
      have nothing : (parts ++ [line.slice 0 line.length]).flatMap Text.words =
          parts.flatMap Text.words := by
        have whole : line.slice 0 line.length = line := by simp [Text.slice]
        rw [whole, List.flatMap_append, List.flatMap_singleton, ← Text.words_trimStart, here]
        exact List.append_nil _
      have closed := @close_of_ended first index state (parts ++ [line.slice 0 line.length]) later below
      rw [gather]
      split
      · have next := @inductionHypothesis parts (index + 1) (budget - 1) true below
        exact ⟨next.text, next.firstLine, Nat.le_of_succ_le next.lastLine, next.body⟩
      · rw [feed_of_blank proper here]
        dsimp only [Option.getD_none]
        split
        · exact ⟨nothing ▸ closed.text, closed.firstLine, closed.lastLine, closed.body⟩
        split
        · have next := @inductionHypothesis (parts ++ [line.slice 0 line.length]) (index + 1)
            (budget - 1) true below
          exact ⟨nothing ▸ next.text, next.firstLine, Nat.le_of_succ_le next.lastLine, next.body⟩
        · exact ⟨nothing ▸ closed.text, closed.firstLine, closed.lastLine, closed.body⟩

theorem onward_of_ended {words : List Text} {first : Nat} {state : Delimiters} {parts : List Text}
    {index budget : Nat} {rest : List Text} (proper : state.Proper)
    (ended : ∀ line ∈ rest, Text.trimStart line = []) :
    (onward words first state parts index budget rest).EndsAfter index first parts := by
  rw [onward]
  split
  · exact close_of_ended ended
  split
  · have next := @gather_of_ended words first state parts (index + 1) (budget - 1) true rest proper
      ended
    exact ⟨next.text, next.firstLine, Nat.le_of_succ_le next.lastLine, next.body⟩
  · exact close_of_ended ended

section Skipping

variable {words : List Text} {first : Nat} {state : Delimiters} {parts : List Text}
  {index budget : Nat} {line : Text} {later : List Text}

theorem gather_true_of_blank (more : budget ≠ 0) (blank : Text.isBlankText line = true) :
    gather words first state parts index budget 0 true (line :: later) =
      gather words first state parts (index + 1) (budget - 1) 0 true later := by
  rw [gather, if_pos]
  simp [more, blank]

theorem gather_true_of_zero :
    gather words first state parts index 0 0 true (line :: later) =
      gather words first state parts index 0 0 false (line :: later) := by
  rw [gather, gather, if_neg (by simp), if_neg (by simp)]

theorem gather_true_of_code (code : ¬ Text.isBlankText line = true) :
    gather words first state parts index budget 0 true (line :: later) =
      gather words first state parts index budget 0 false (line :: later) := by
  rw [gather, gather, if_neg (by simp [code]), if_neg (by simp)]

end Skipping

/-- What is still to be gathered from a line on corresponds. -/
def GatheredAlike (lines others words : List Text) (first index : Nat) : Prop :=
  ∀ (limit : Nat) (state : Delimiters) (parts parts' : List Text), state.Proper →
    parts.flatMap Text.words = parts'.flatMap Text.words →
    SameSignature lines others
      (gather words first state parts index (min (lines.length - 1 - index) limit) 0 true
        (lines.drop index))
      (gather words first state parts' index (min (others.length - 1 - index) limit) 0 true
        (others.drop index))

/-- What follows after a line corresponds if what is gathered from the next one on does. -/
theorem onward_same {words : List Text} {first index : Nat} (relaid : Relaid lines others)
    (later : GatheredAlike lines others words first (index + 1)) (limit : Nat) {state : Delimiters}
    (proper : state.Proper) {parts parts' : List Text}
    (wording : parts.flatMap Text.words = parts'.flatMap Text.words) :
    SameSignature lines others
      (onward words first state parts index (min (lines.length - 1 - index) limit)
        (lines.drop (index + 1)))
      (onward words first state parts' index (min (others.length - 1 - index) limit)
        (others.drop (index + 1))) := by
  rcases relaid.ended_or (index + 1) with ⟨ended, ended'⟩ | ⟨-, line, other, here, there, -⟩
  · have one := @onward_of_ended words first state parts index (min (lines.length - 1 - index) limit)
      _ proper ended
    have two := @onward_of_ended words first state parts' index
      (min (others.length - 1 - index) limit) _ proper ended'
    refine ⟨by rw [one.text, two.text, wording], by rw [one.firstLine, two.firstLine], Or.inr ?_, ?_⟩
    · exact ⟨ended.mono (Nat.succ_le_succ one.lastLine), ended'.mono (Nat.succ_le_succ two.lastLine)⟩
    · rw [one.body, two.body]
      exact .none
  · have more := lt_length_of_drop here
    have more' := lt_length_of_drop there
    rw [onward, onward, needsMore_eq wording, continuesWith_eq relaid wording]
    by_cases last : limit = 0
    · rw [last, Nat.min_zero, Nat.min_zero, if_pos rfl, if_pos rfl]
      exact close_same relaid wording first index state
    · have left : min (lines.length - 1 - index) limit ≠ 0 := by omega
      have left' : min (others.length - 1 - index) limit ≠ 0 := by omega
      rw [if_neg left, if_neg left']
      split
      · have next := later (limit - 1) state parts parts' proper wording
        rwa [show min (lines.length - 1 - (index + 1)) (limit - 1) =
          min (lines.length - 1 - index) limit - 1 by omega,
          show min (others.length - 1 - (index + 1)) (limit - 1) =
          min (others.length - 1 - index) limit - 1 by omega] at next
      · exact close_same relaid wording first index state

/-- What is gathered from a line of code on corresponds if what is gathered from the next
line on does. -/
theorem gather_line {words : List Text} {first index : Nat} {line other : Text}
    (relaid : Relaid lines others) (same : Text.trimStart line = Text.trimStart other)
    (margin : Text.margin (lines.getD index []) = Text.margin line)
    (margin' : Text.margin (others.getD index []) = Text.margin other)
    (later : GatheredAlike lines others words first (index + 1)) (limit : Nat) {state : Delimiters}
    (proper : state.Proper) {parts parts' : List Text}
    (wording : parts.flatMap Text.words = parts'.flatMap Text.words) {start start' place : Nat}
    (at' : Text.At line start place) (at'' : Text.At other start' place) :
    SameSignature lines others
      (gather words first state parts index (min (lines.length - 1 - index) limit) start false
        (line :: lines.drop (index + 1)))
      (gather words first state parts' index (min (others.length - 1 - index) limit) start' false
        (other :: others.drop (index + 1))) := by
  have gathered (stop : Nat) :
      (parts ++ [line.slice start ((Text.margin line).length + stop)]).flatMap Text.words =
        (parts' ++ [other.slice start' ((Text.margin other).length + stop)]).flatMap Text.words := by
    rw [List.flatMap_append, List.flatMap_append, wording, List.flatMap_singleton,
      List.flatMap_singleton, words_slice at', words_slice at'', same]
  obtain ⟨scan, fed, fed', proper⟩ := feed_pair proper same at' at'' { atTerminator := true }
  rw [gather, gather, fed, fed']
  simp only [Bool.false_and, Bool.false_eq_true, if_false, Scan.shift]
  cases scan.halt with
  | some halted =>
      obtain ⟨c, column⟩ := halted
      dsimp only [Option.map_some]
      split
      · rw [normalizeBlanks_joined (gathered column)]
        refine ⟨rfl, rfl, Or.inl rfl, .some ⟨rfl, column, ?_, ?_⟩⟩
        · rw [margin]
        · rw [margin']
      · rw [Nat.add_assoc, Nat.add_assoc, normalizeBlanks_joined (gathered (column + 1))]
        exact ⟨rfl, rfl, Or.inl rfl, .none⟩
  | none =>
      have ends (line : Text) (same : Text.trimStart line = Text.trimStart other) :
          (scan.commentStart.map ((Text.margin line).length + ·)).getD line.length =
            (Text.margin line).length + scan.commentStart.getD (Text.trimStart other).length := by
        cases scan.commentStart with
        | none => exact same ▸ Text.length_eq_margin_add line
        | some column => rfl
      simp only [Option.map_none, ends line same, ends other rfl]
      exact onward_same relaid later limit proper (gathered _)

theorem gather_same {words : List Text} (first : Nat) (relaid : Relaid lines others) (index : Nat) :
    GatheredAlike lines others words first index := by
  refine relaid.induction (fun index ended ended' => ?_)
    (fun index line other code here there same later => ?_) index
  · intro limit state parts parts' proper wording
    have one := @gather_of_ended words first state parts index
      (min (lines.length - 1 - index) limit) true _ proper ended
    have two := @gather_of_ended words first state parts' index
      (min (others.length - 1 - index) limit) true _ proper ended'
    refine ⟨by rw [one.text, two.text, wording], by rw [one.firstLine, two.firstLine], Or.inr ?_, ?_⟩
    · exact ⟨ended.mono (Nat.le_succ_of_le one.lastLine), ended'.mono (Nat.le_succ_of_le two.lastLine)⟩
    · rw [one.body, two.body]
      exact .none
  · intro limit state parts parts' proper wording
    have go := @gather_line lines others words first index line other relaid same
      (by rw [getD_of_drop here]) (by rw [getD_of_drop there]) later limit
      state proper parts parts' wording 0 0 0 (Or.inl ⟨rfl, rfl⟩) (Or.inl ⟨rfl, rfl⟩)
    rw [here, there]
    by_cases blank : Text.isBlankText line = true
    · rcases relaid.ended_or (index + 1) with ⟨ended, -⟩ | ⟨-, next, next', below, below', -⟩
      · refine absurd ?_ code
        rw [Ended, here]
        exact List.forall_mem_cons.mpr ⟨Text.isBlankText_iff.mp blank, ended⟩
      · have more := lt_length_of_drop below
        have more' := lt_length_of_drop below'
        by_cases last : limit = 0
        · rw [last, Nat.min_zero, Nat.min_zero] at go ⊢
          rwa [gather_true_of_zero, gather_true_of_zero]
        · have left : min (lines.length - 1 - index) limit ≠ 0 := by omega
          have left' : min (others.length - 1 - index) limit ≠ 0 := by omega
          rw [gather_true_of_blank left blank,
            gather_true_of_blank left' (isBlankText_eq_of_trimStart same ▸ blank)]
          have skipped := later (limit - 1) state parts parts' proper wording
          rwa [show min (lines.length - 1 - (index + 1)) (limit - 1) =
            min (lines.length - 1 - index) limit - 1 by omega,
            show min (others.length - 1 - (index + 1)) (limit - 1) =
            min (others.length - 1 - index) limit - 1 by omega] at skipped
    · rwa [gather_true_of_code blank, gather_true_of_code (isBlankText_eq_of_trimStart same ▸ blank)]

/-- Two lines that are cut at the same place are still alike. -/
theorem Window.clip_same {line other : Text} (same : Text.trimStart line = Text.trimStart other)
    {window window' : Window} {index : Nat} (here : lines.getD index [] = line)
    (there : others.getD index [] = other)
    (stops : Option.Rel (SameColumn lines others index) window.stop window'.stop) :
    Text.trimStart (window.clip line) = Text.trimStart (window'.clip other) ∧
      Text.margin (window.clip line) = Text.margin line ∧
      Text.margin (window'.clip other) = Text.margin other := by
  obtain ⟨start, stop⟩ := window
  obtain ⟨start', stop'⟩ := window'
  dsimp only at stops
  cases stops with
  | none => exact ⟨same, rfl, rfl⟩
  | some column =>
      obtain ⟨place, rfl, rfl⟩ := column
      rw [here, there]
      obtain ⟨cut, kept⟩ := Text.trimStart_take line place
      obtain ⟨cut', kept'⟩ := Text.trimStart_take other place
      refine ⟨?_, kept, kept'⟩
      rw [Window.clip, Window.clip, cut, cut', same]

/-- The signatures of a declaration in both texts correspond. -/
theorem find?_same (relaid : Relaid lines others) {start : Nat} (code : ¬ Ended lines start)
    (window window' : Window) (starts : SameStart lines others start window.start window'.start)
    (stops : Option.Rel (SameColumn lines others start) window.stop window'.stop) (limit : Nat)
    (words : List Text) :
    Option.Rel (SameSignature lines others) (find? lines start window limit words)
      (find? others start window' limit words) := by
  rcases relaid.ended_or start with ⟨ended, -⟩ | ⟨-, line, other, here, there, same⟩
  · exact absurd ended code
  have inside := lt_length_of_drop here
  have inside' := lt_length_of_drop there
  have first := getD_of_drop here
  have first' := getD_of_drop there
  obtain ⟨clipped, kept, kept'⟩ := Window.clip_same same first first' stops
  obtain ⟨place, at', at''⟩ := starts
  rw [Text.At, first, ← kept] at at'
  rw [Text.At, first', ← kept'] at at''
  have go := @gather_line lines others words start start _ _ relaid clipped (by rw [first, kept])
    (by rw [first', kept']) (gather_same start relaid (start + 1)) (limit - 1) {}
    (Delimiters.proper_braces 0) [] [] rfl _ _ place at' at''
  rw [find?, find?, here, there]
  refine .some ?_
  rwa [show min (lines.length - 1 - start) (limit - 1) =
    min (lines.length - 1) (start + limit - 1) - start by omega,
    show min (others.length - 1 - start) (limit - 1) =
    min (others.length - 1) (start + limit - 1) - start by omega] at go

end Signature

end Codemap
