import Codemap.Source.Outline
import Codemap.Proofs.Source.Scan
import Mathlib.Data.List.Basic

namespace Codemap

/-!
# What lies within the text

A signature ends on a line of the text at or after the line of its declaration, and its
body opens at a brace of that line.  A body ends on a line of the text at or after the
one it opens on, and its segments are pieces of lines of the text.  So a class and a
function span lines of the text that begin with their own, and what is found on a line
leaves a shorter rest of it.
-/

/-- The line at an index that the text has. -/
theorem getD_of_getElem? {lines : List Text} {index : Nat} {line : Text}
    (there : lines[index]? = some line) : lines.getD index [] = line := by
  rw [List.getD_eq_getElem?_getD, there, Option.getD_some]

/-- A line among later ones, by its number in the text. -/
theorem getElem?_cons_of_later {later : List Text} {index number : Nat} {found : Text}
    (below : index + 1 ≤ number) (there : later[number - (index + 1)]? = some found) (line : Text) :
    (line :: later)[number - index]? = some found := by
  rw [show number - index = number - (index + 1) + 1 by omega]
  simpa using there

/-! ## Signatures -/

namespace Signature

/-- A place holds the brace that opens a body. -/
def OpensAt (lines : List Text) (place : Place) : Prop :=
  ∃ text, lines[place.line]? = some text ∧ text[place.column]? = some '{'

/-- The line of a brace is not blank. -/
theorem not_blank_of_brace {text : Text} {column : Nat} (brace : text[column]? = some '{') :
    Text.isBlankText text = false := by
  rw [Bool.eq_false_iff]
  intro blank
  exact absurd (List.all_eq_true.mp blank '{' (List.mem_of_getElem? brace)) (by decide)

/-- A signature lies in some lines that begin with a given number; its body opens on its
last line, on the first of the lines not before a column. -/
structure Within (signature : Signature) (index offset : Nat) (lines : List Text) : Prop where
  lower : index ≤ signature.lastLine
  upper : signature.lastLine < index + lines.length
  opens : ∀ place, signature.body = some place →
    place.line = signature.lastLine ∧ (place.line = index → offset ≤ place.column) ∧
      ∃ text, lines[place.line - index]? = some text ∧ text[place.column]? = some '{'

theorem openerBelow_within {next : Nat} {lines : List Text} {place : Place}
    (opens : openerBelow next lines = some place) :
    next ≤ place.line ∧ ∃ text, lines[place.line - next]? = some text ∧
      text[place.column]? = some '{' := by
  induction lines generalizing next with
  | nil => cases opens
  | cons line later inductionHypothesis =>
      rw [openerBelow] at opens
      split at opens
      · obtain ⟨lower, found, there, brace⟩ := inductionHypothesis opens
        exact ⟨by omega, found, getElem?_cons_of_later lower there line, brace⟩
      · dsimp only at opens
        split at opens
        · next brace =>
            cases opens
            refine ⟨Nat.le_refl next, line, by simp, ?_⟩
            have tail := List.suffix_iff_eq_drop.mp (List.dropWhile_suffix isBlank (l := line))
            rw [Text.trimStart, tail, List.head?_drop] at brace
            exact brace
        · cases opens

/-- The line after which no further line is gathered is the last, unless a body opens
below. -/
theorem close_within {first index offset : Nat} {state : Delimiters} {parts : List Text}
    (line : Text) (later : List Text) :
    (close first index state parts later).Within index offset (line :: later) := by
  rw [close]
  split
  · next place opens =>
      have below : openerBelow (index + 1) later = some place := by
        split at opens
        · cases opens
        · exact opens
      obtain ⟨lower, found, there, brace⟩ := openerBelow_within below
      have inside := (List.getElem?_eq_some_iff.mp there).1
      refine ⟨by dsimp only; omega, by dsimp only; rw [List.length_cons]; omega, ?_⟩
      rintro _ ⟨⟩
      exact ⟨rfl, fun here => by omega, found, getElem?_cons_of_later lower there line, brace⟩
  · exact ⟨Nat.le_refl index, by simp, fun place opens => by cases opens⟩

/-- What lies in the later lines lies in all of them. -/
theorem Within.cons {signature : Signature} {index offset : Nat} {later : List Text}
    (within : signature.Within (index + 1) 0 later) (line : Text) :
    signature.Within index offset (line :: later) where
  lower := by have := within.lower; omega
  upper := by have := within.upper; rw [List.length_cons]; omega
  opens := by
    intro place opens
    obtain ⟨last, _, found, there, brace⟩ := within.opens place opens
    have lower := within.lower
    exact ⟨last, fun here => by omega, found, getElem?_cons_of_later (by omega) there line, brace⟩

/-- A gathered signature lies in the lines, if fewer may be gathered than there are. -/
theorem gather_within {words : List Text} {first : Nat} {state : Delimiters} {parts : List Text}
    {index budget offset : Nat} {skipping : Bool} {lines : List Text}
    (enough : budget < lines.length) :
    (gather words first state parts index budget offset skipping lines).Within index offset
      lines := by
  induction lines generalizing state parts index budget offset skipping with
  | nil => cases enough
  | cons line later inductionHypothesis =>
      rw [List.length_cons] at enough
      rw [gather]
      split
      · next skips =>
          have some : budget ≠ 0 := by simp at skips; exact skips.1.2
          exact (inductionHypothesis (by omega)).cons line
      dsimp only
      split
      · next c column halted =>
          obtain ⟨-, lower, -, there⟩ := Delimiters.halt_feed halted
          split
          · next brace =>
              subst brace
              refine ⟨Nat.le_refl index, by simp, ?_⟩
              rintro _ ⟨⟩
              exact ⟨rfl, fun _ => lower, line, by simp, there⟩
          · exact ⟨Nat.le_refl index, by simp, fun place opens => by cases opens⟩
      · split
        · exact close_within line later
        split
        · exact (inductionHypothesis (by omega)).cons line
        · exact close_within line later

/-- A body that opens after the last gathered line opens on a later one. -/
theorem lt_of_close {first index : Nat} {state : Delimiters} {parts later : List Text} {place : Place}
    (opens : (close first index state parts later).body = some place) : index < place.line := by
  rw [close] at opens
  split at opens
  · next opener found =>
      cases opens
      split at found
      · cases found
      · exact (openerBelow_within found).1
  · cases opens

theorem le_of_gather {words : List Text} {first : Nat} {state : Delimiters} {parts : List Text}
    {index budget offset : Nat} {skipping : Bool} {lines : List Text} {place : Place}
    (enough : budget < lines.length)
    (opens : (gather words first state parts index budget offset skipping lines).body = some place) :
    index ≤ place.line := by
  have within : (gather words first state parts index budget offset skipping lines).Within index
      offset lines := gather_within enough
  rw [(within.opens place opens).1]
  exact within.lower

/-- A body opens on the first line where the scan of that line stops. -/
theorem halt_of_gather {words : List Text} {first : Nat} {state : Delimiters} {parts : List Text}
    {index budget offset : Nat} {line : Text} {later : List Text} {place : Place}
    (enough : budget < (line :: later).length)
    (opens : (gather words first state parts index budget offset false (line :: later)).body =
      some place) (here : place.line = index) :
    (state.feed line offset { atTerminator := true }).halt = some ('{', place.column) := by
  rw [gather] at opens
  simp only [Bool.false_and, Bool.false_eq_true, if_false] at opens
  split at opens
  · next c column halted =>
      split at opens
      · next brace =>
          subst brace
          cases opens
          exact halted
      · cases opens
  · split at opens
    · exact absurd here (Nat.ne_of_gt (lt_of_close opens))
    next more =>
      split at opens
      · rw [List.length_cons] at enough
        exact absurd here (Nat.ne_of_gt (le_of_gather (by omega) opens))
      · exact absurd here (Nat.ne_of_gt (lt_of_close opens))

variable {lines words : List Text} {start limit : Nat} {window : Window} {signature : Signature}

/-- There is a signature for every line. -/
theorem find?_isSome (inside : start < lines.length) (window : Window) (limit : Nat)
    (words : List Text) : (find? lines start window limit words).isSome = true := by
  rw [find?]
  cases rest : lines.drop start with
  | nil =>
      rw [List.drop_eq_nil_iff] at rest
      omega
  | cons line later => rfl

/-- A line without what lies beyond a window. -/
def Window.clip (window : Window) (line : Text) : Text :=
  match window.stop with
  | some stop => line.take stop
  | none => line

/-- A character of the clipped line is one of the line, within the window. -/
theorem getElem?_clip {text : Text} {column : Nat} {c : Char}
    (there : (window.clip text)[column]? = some c) :
    text[column]? = some c ∧ ∀ stop ∈ window.stop, column < stop := by
  rw [Window.clip] at there
  cases stops : window.stop with
  | none =>
      rw [stops] at there
      exact ⟨there, fun stop within => by cases within⟩
  | some stop =>
      rw [stops] at there
      rw [List.getElem?_take] at there
      split at there
      · next inside =>
          refine ⟨there, ?_⟩
          rintro _ ⟨⟩
          exact inside
      · cases there

/-- A body opens on the line of the declaration where the scan of the clipped line stops. -/
theorem halt_of_find? {line : Text} (there : lines[start]? = some line)
    (found : find? lines start window limit words = some signature) {place : Place}
    (opens : signature.body = some place) (here : place.line = start) :
    (Delimiters.feed {} (window.clip line) window.start { atTerminator := true }).halt =
      some ('{', place.column) := by
  have length := (List.getElem?_eq_some_iff.mp there).1
  rw [find?, drop_eq_cons there] at found
  obtain rfl := Option.some.inj found
  refine halt_of_gather ?_ opens here
  rw [List.length_cons, List.length_drop]
  omega

/-- A signature lies in the lines from its first one on, which is clipped. -/
theorem find?_within (found : find? lines start window limit words = some signature) :
    ∃ line later, lines.drop start = line :: later ∧
      signature.Within start window.start (window.clip line :: later) := by
  rw [find?] at found
  cases rest : lines.drop start with
  | nil =>
      rw [rest] at found
      cases found
  | cons line later =>
      rw [rest] at found
      have length := congrArg List.length rest
      rw [List.length_drop, List.length_cons] at length
      obtain rfl := Option.some.inj found
      exact ⟨line, later, rfl, gather_within (by rw [List.length_cons]; omega)⟩

/-- A signature ends on a line of the text, not before its first. -/
theorem lastLine_find? (found : find? lines start window limit words = some signature) :
    start ≤ signature.lastLine ∧ signature.lastLine < lines.length := by
  obtain ⟨line, later, rest, within⟩ := find?_within found
  have length := congrArg List.length rest
  rw [List.length_drop, List.length_cons] at length
  have upper := within.upper
  rw [List.length_cons] at upper
  exact ⟨within.lower, by omega⟩

/-- The body of a signature opens at a brace on its last line; on the first line that
brace lies in the window. -/
theorem opensAt_find? (found : find? lines start window limit words = some signature)
    {place : Place} (opens : signature.body = some place) :
    place.line = signature.lastLine ∧ OpensAt lines place ∧
      (place.line = start → window.start ≤ place.column ∧
        ∀ stop ∈ window.stop, place.column < stop) := by
  obtain ⟨line, later, rest, within⟩ := find?_within found
  obtain ⟨last, column, text, there, brace⟩ := within.opens place opens
  have lower := within.lower
  refine ⟨last, ?_⟩
  by_cases here : place.line = start
  · rw [here, Nat.sub_self, List.getElem?_cons_zero, Option.some.injEq] at there
    subst there
    obtain ⟨brace, inside⟩ := getElem?_clip brace
    refine ⟨⟨line, ?_, brace⟩, fun _ => ⟨column here, inside⟩⟩
    have first := congrArg (fun lines => lines[0]?) rest
    simpa [here] using first
  · refine ⟨⟨text, ?_, brace⟩, fun same => absurd same here⟩
    have further := congrArg (fun lines => lines[place.line - start]?) rest
    rw [show place.line - start = place.line - start - 1 + 1 by omega] at there further
    rw [List.getElem?_cons_succ] at there
    simp only [List.getElem?_drop, List.getElem?_cons_succ, there] at further
    rw [← further]
    congr 1
    omega

end Signature

/-! ## Bodies -/

/-- A segment is a piece of a line. -/
structure Segment.PieceOf (segment : Segment) (line : Text) : Prop where
  stop : ∀ stop ∈ segment.stop, stop ≤ line.length
  text : segment.text = line.slice segment.start (segment.stop.getD line.length)

theorem Segment.clip_eq (segment : Segment) (line : Text) :
    Signature.Window.clip ⟨segment.start, segment.stop⟩ line =
      line.take (segment.stop.getD line.length) := by
  rw [Signature.Window.clip]
  cases segment.stop with
  | none => exact List.take_length.symm
  | some stop => rfl

/-- A segment is a piece of a line of the text. -/
def Segment.In (segment : Segment) (lines : List Text) : Prop :=
  ∃ line, lines[segment.line]? = some line ∧ segment.PieceOf line

namespace Body

/-- The segments of a body are pieces of some lines that begin with a given number. -/
def Pieces (body : Body) (index : Nat) (lines : List Text) : Prop :=
  ∀ segment ∈ body.segments, index ≤ segment.line ∧ ∃ line,
    lines[segment.line - index]? = some line ∧ segment.PieceOf line

theorem Pieces.cons {body : Body} {index : Nat} {later : List Text}
    (pieces : body.Pieces (index + 1) later) (line : Text) : body.Pieces index (line :: later) := by
  intro segment member
  obtain ⟨lower, found, there, piece⟩ := pieces segment member
  exact ⟨by omega, found, getElem?_cons_of_later lower there line, piece⟩

theorem Pieces.append {segments others : List Segment} {lastLine index : Nat} {lines : List Text}
    (first : (Body.mk segments lastLine).Pieces index lines)
    (second : (Body.mk others lastLine).Pieces index lines) :
    (Body.mk (segments ++ others) lastLine).Pieces index lines := by
  intro segment member
  rcases List.mem_append.mp member with here | there
  · exact first segment here
  · exact second segment there

theorem Pieces.of_getElem? {body : Body} {index : Nat} {lines rest : List Text}
    (pieces : body.Pieces index rest) (drops : lines.drop index = rest) :
    ∀ segment ∈ body.segments, segment.In lines := by
  intro segment member
  obtain ⟨lower, line, there, piece⟩ := pieces segment member
  refine ⟨line, ?_, piece⟩
  rw [← drops, List.getElem?_drop] at there
  rwa [show index + (segment.line - index) = segment.line by omega] at there

/-- The piece of a line up to where the scan stops. -/
theorem pieces_here (state : Delimiters) (index offset : Nat) (line : Text) (later : List Text)
    (lastLine : Nat) (shown : Bool) :
    let stop := (state.feed line offset { atClose := true }).halt.map Prod.snd
    (Body.mk (if shown then [⟨index, offset, stop, line.slice offset (stop.getD line.length)⟩] else [])
      lastLine).Pieces index (line :: later) := by
  intro stop segment member
  cases shown with
  | false => cases member
  | true =>
      obtain rfl := List.mem_singleton.mp member
      refine ⟨Nat.le_refl index, line, by simp, ?_, rfl⟩
      intro column stops
      obtain ⟨⟨c, _⟩, halted, rfl⟩ := Option.map_eq_some_iff.mp stops
      exact Nat.le_of_lt (Delimiters.halt_feed halted).2.2.1

/-- A body in braces ends on one of the lines, and its segments are pieces of them. -/
theorem bracedFrom_within (state : Delimiters) (index offset : Nat) {lines : List Text}
    (nonempty : lines ≠ []) :
    let body := bracedFrom state index offset lines
    index ≤ body.lastLine ∧ body.lastLine < index + lines.length ∧ body.Pieces index lines := by
  induction lines generalizing state index offset with
  | nil => exact absurd rfl nonempty
  | cons line later inductionHypothesis =>
      have here := pieces_here state index offset line later
      rw [bracedFrom]
      dsimp only at here ⊢
      split
      · exact ⟨Nat.le_refl index, by simp, here _ _⟩
      · by_cases more : later = []
        · subst more
          exact ⟨Nat.le_refl index, by simp [bracedFrom], (here _ _).append fun _ member => by
            cases member⟩
        · obtain ⟨lower, upper, pieces⟩ := inductionHypothesis
            (state.feed line offset { atClose := true }).state (index + 1) 0 more
          refine ⟨by dsimp only; omega, by dsimp only; rw [List.length_cons]; omega, ?_⟩
          exact (here _ _).append (pieces.cons line)

/-- A body set off by indentation ends on one of the lines or has none of them. -/
theorem indentedFrom_within (base : Nat) (level : Option Nat) {index last : Nat} (before : last < index)
    (lines : List Text) :
    let body := indentedFrom base level index last lines
    last ≤ body.lastLine ∧ (body.lastLine = last ∨ body.lastLine < index + lines.length) ∧
      body.Pieces index lines := by
  induction lines generalizing level index last with
  | nil => exact ⟨Nat.le_refl last, Or.inl rfl, fun _ member => by cases member⟩
  | cons line later inductionHypothesis =>
      rw [indentedFrom]
      split
      · obtain ⟨lower, upper, pieces⟩ := inductionHypothesis level (Nat.lt_add_right 1 before)
        refine ⟨lower, upper.imp_right fun below => ?_, pieces.cons line⟩
        rw [List.length_cons]
        omega
      dsimp only
      split
      · exact ⟨Nat.le_refl last, Or.inl rfl, fun _ member => by cases member⟩
      · obtain ⟨lower, upper, pieces⟩ := inductionHypothesis (some (level.getD (indent line)))
          (Nat.lt_add_one index)
        refine ⟨by dsimp only; omega, Or.inr ?_, ?_⟩
        · dsimp only
          rw [List.length_cons]
          omega
        refine Pieces.append ?_ (pieces.cons line)
        intro segment member
        split at member
        · obtain rfl := List.mem_singleton.mp member
          refine ⟨Nat.le_refl index, line, by simp, ?_, by simp [Text.slice]⟩
          exact fun _ stops => by cases stops
        · cases member

end Body

namespace Outline

variable {lines : List Text} {index : Nat} {signature : Signature}

/-! ## What is found on a line -/

theorem classLead_nil : Lead.classLead.matchStart? [] = none := by
  decide

/-- Nothing is found on a line of blanks. -/
theorem classAt?_of_blank {line : Text} (there : lines[index]? = some line)
    (blank : Text.trim line = []) : classAt? lines index = none := by
  rw [classAt?, there]
  simp only [Option.bind_eq_bind, Option.bind_some, blank, classLead_nil, Option.bind_none, ite_self]

theorem functionAt?_of_blank {whole : List Text} {line : Text} (there : lines[index]? = some line)
    (blank : Text.trim line = []) : functionAt? whole lines index = none := by
  rw [functionAt?, there]
  simp only [Option.bind_eq_bind, Option.bind_some, blank, List.isEmpty_nil, Bool.true_or, if_true]

/-- The body after a signature ends on a line of the text, not before the signature, and
its segments are pieces of lines. -/
theorem classBody_within (inside : signature.lastLine < lines.length)
    (opens : ∀ place, signature.body = some place →
      place.line = signature.lastLine ∧ Signature.OpensAt lines place) :
    let body := classBody lines index signature
    signature.lastLine ≤ body.lastLine ∧ body.lastLine < lines.length ∧
      ∀ segment ∈ body.segments, segment.In lines := by
  rw [classBody]
  split
  · next place opener =>
      obtain ⟨last, -⟩ := opens place opener
      have nonempty : lines.drop place.line ≠ [] := by
        rw [ne_eq, List.drop_eq_nil_iff]
        omega
      obtain ⟨lower, upper, pieces⟩ := Body.bracedFrom_within { braces := 1 } place.line
        (place.column + 1) nonempty
      rw [List.length_drop] at upper
      exact ⟨by rw [← last]; exact lower, by rw [Body.braced]; omega, pieces.of_getElem? rfl⟩
  split
  · obtain ⟨lower, upper, pieces⟩ := Body.indentedFrom_within (Body.indent (lines.getD index [])) none
      (Nat.lt_add_one signature.lastLine) (lines.drop (signature.lastLine + 1))
    rw [List.length_drop] at upper
    exact ⟨lower, by rw [Body.indented]; omega, pieces.of_getElem? rfl⟩
  · exact ⟨Nat.le_refl _, inside, fun _ member => by cases member⟩

/-- The segments of a body are pieces of lines. -/
theorem segments_in {start limit : Nat} {window : Signature.Window} {words : List Text}
    (complete : Signature.find? lines start window limit words = some signature) :
    ∀ segment ∈ (classBody lines index signature).segments, segment.In lines := by
  refine (classBody_within (Signature.lastLine_find? complete).2 fun place opens => ?_).2.2
  exact ⟨(Signature.opensAt_find? complete opens).1, (Signature.opensAt_find? complete opens).2.1⟩

/-- A class begins on its line and ends on a line of the text. -/
theorem classAt?_within {found : Located ClassDeclaration} (at? : classAt? lines index = some found) :
    found.firstLine = index ∧ index ≤ found.lastLine ∧ found.lastLine < lines.length := by
  simp only [classAt?, Option.bind_eq_bind, Option.bind_eq_some_iff, Option.ite_none_left_eq_some,
    Option.some.injEq] at at?
  obtain ⟨line, there, -, lead, -, name, -, signature, complete, rfl⟩ := at?
  obtain ⟨lower, upper⟩ := Signature.lastLine_find? complete
  obtain ⟨after, inside, -⟩ := @classBody_within lines index signature upper fun place opens =>
    have opener := Signature.opensAt_find? complete opens
    ⟨opener.1, opener.2.1⟩
  exact ⟨rfl, Nat.le_trans lower after, inside⟩

/-- So does a function, and its line is not empty. -/
theorem functionAt?_within {whole : List Text} {found : Located Declaration}
    (at? : functionAt? whole lines index = some found) :
    found.firstLine = index ∧ index ≤ found.lastLine ∧ found.lastLine < lines.length ∧
      lines[index]? ≠ some [] := by
  simp only [functionAt?, Option.bind_eq_bind, Option.bind_eq_some_iff, Option.ite_none_left_eq_some,
    Option.ite_none_right_eq_some, Option.some.injEq] at at?
  obtain ⟨line, there, code, candidate, -, signature, complete, -, rfl⟩ := at?
  obtain ⟨lower, upper⟩ := Signature.lastLine_find? complete
  obtain ⟨after, inside, -⟩ := @classBody_within lines index signature upper fun place opens =>
    have opener := Signature.opensAt_find? complete opens
    ⟨opener.1, opener.2.1⟩
  refine ⟨rfl, Nat.le_trans lower after, inside, ?_⟩
  rw [there]
  rintro ⟨⟩
  exact code rfl

/-! ## The lines that are spanned -/

deriving instance DecidableEq for Located

/-- What is located spans lines one after another, from a line on and below a number of
lines. -/
inductive Ascending {α : Type} (count : Nat) : Nat → List (Located α) → Prop
  | nil {next : Nat} : Ascending count next []
  | cons {next : Nat} {found : Located α} {others : List (Located α)} (after : next ≤ found.firstLine)
      (span : found.firstLine ≤ found.lastLine) (inside : found.lastLine < count)
      (rest : Ascending count (found.lastLine + 1) others) : Ascending count next (found :: others)

namespace Ascending

variable {α : Type} {count next : Nat} {located : List (Located α)}

theorem of_le {earlier : Nat} (ascending : Ascending count next located) (le : earlier ≤ next) :
    Ascending count earlier located := by
  cases ascending with
  | nil => exact .nil
  | cons after span inside rest => exact .cons (Nat.le_trans le after) span inside rest

theorem mem (ascending : Ascending count next located) {found : Located α}
    (member : found ∈ located) :
    next ≤ found.firstLine ∧ found.firstLine ≤ found.lastLine ∧ found.lastLine < count := by
  induction ascending with
  | nil => cases member
  | cons after span inside _ inductionHypothesis =>
      rcases List.mem_cons.mp member with rfl | later
      · exact ⟨after, span, inside⟩
      · have below := inductionHypothesis later
        omega

theorem pairwise (ascending : Ascending count next located) :
    located.Pairwise fun early late => early.lastLine < late.firstLine := by
  induction ascending with
  | nil => exact .nil
  | cons _ _ _ rest inductionHypothesis =>
      refine .cons (fun late member => ?_) inductionHypothesis
      exact (rest.mem member).1

end Ascending

/-- What is located spans lines of a text, each below those of all before it. -/
structure Spans {α : Type} (count : Nat) (located : List (Located α)) : Prop where
  within : ∀ found ∈ located, found.firstLine ≤ found.lastLine ∧ found.lastLine < count
  apart : located.Pairwise fun early late => early.lastLine < late.firstLine
  increasing : (located.map Located.firstLine).Pairwise (· < ·)

theorem Ascending.spans {α : Type} {count next : Nat} {located : List (Located α)}
    (ascending : Ascending count next located) : Spans count located where
  within := fun _ member => (ascending.mem member).2
  apart := ascending.pairwise
  increasing := by
    refine List.pairwise_map.mpr (ascending.pairwise.imp_of_mem ?_)
    intro early late member _ apart
    exact Nat.lt_of_le_of_lt (ascending.mem member).2.1 apart

/-- A class of the outline has been found on a line. -/
theorem exists_of_mem_classesFrom {found : Located ClassDeclaration} {fuel index : Nat}
    (member : found ∈ classesFrom lines fuel index) : ∃ start, classAt? lines start = some found := by
  induction fuel generalizing index with
  | zero => cases member
  | succ fuel inductionHypothesis =>
      rw [classesFrom] at member
      split at member
      · cases member
      split at member
      · exact inductionHypothesis member
      · next first at? =>
          rcases List.mem_cons.mp member with rfl | later
          · exact ⟨index, at?⟩
          · exact inductionHypothesis later

/-- The classes span lines one after another. -/
theorem classesFrom_ascending (lines : List Text) (fuel index : Nat) :
    Ascending lines.length index (classesFrom lines fuel index) := by
  induction fuel generalizing index with
  | zero => exact .nil
  | succ fuel inductionHypothesis =>
      rw [classesFrom]
      split
      · exact .nil
      split
      · exact (inductionHypothesis (index + 1)).of_le (Nat.le_succ index)
      · next found at? =>
          obtain ⟨rfl, span, inside⟩ := classAt?_within at?
          rw [Nat.max_eq_left span]
          exact .cons (Nat.le_refl _) span inside (inductionHypothesis _)

/-- So do the functions, and none begins on an empty line. -/
theorem functionsFrom_ascending (whole lines : List Text) (fuel index : Nat) :
    Ascending lines.length index (functionsFrom whole lines fuel index) ∧
      ∀ found ∈ functionsFrom whole lines fuel index, lines[found.firstLine]? ≠ some [] := by
  induction fuel generalizing index with
  | zero => exact ⟨.nil, fun _ member => by cases member⟩
  | succ fuel inductionHypothesis =>
      rw [functionsFrom]
      split
      · exact ⟨.nil, fun _ member => by cases member⟩
      split
      · exact ⟨(inductionHypothesis (index + 1)).1.of_le (Nat.le_succ index),
          (inductionHypothesis (index + 1)).2⟩
      · next found at? =>
          obtain ⟨rfl, span, inside, code⟩ := functionAt?_within at?
          have later := inductionHypothesis (found.lastLine + 1)
          exact ⟨.cons (Nat.le_refl _) span inside later.1, List.forall_mem_cons.mpr ⟨code, later.2⟩⟩

/-- A function of the outline has been found on a line. -/
theorem exists_of_mem_functionsFrom {whole : List Text} {found : Located Declaration} {fuel index : Nat}
    (member : found ∈ functionsFrom whole lines fuel index) :
    ∃ start, functionAt? whole lines start = some found := by
  induction fuel generalizing index with
  | zero => cases member
  | succ fuel inductionHypothesis =>
      rw [functionsFrom] at member
      split at member
      · cases member
      split at member
      · exact inductionHypothesis member
      · next first at? =>
          rcases List.mem_cons.mp member with rfl | later
          · exact ⟨index, at?⟩
          · exact inductionHypothesis later

@[simp] theorem length_withoutClasses (lines : List Text)
    (classes : List (Located ClassDeclaration)) :
    (withoutClasses lines classes).length = lines.length := by
  simp [withoutClasses]

/-- The lines of a class are empty for the second pass. -/
theorem withoutClasses_of_covers {lines : List Text} {classes : List (Located ClassDeclaration)}
    {found : Located ClassDeclaration} (member : found ∈ classes) {index : Nat}
    (covers : Located.covers found index = true) (inside : index < lines.length) :
    (withoutClasses lines classes)[index]? = some [] := by
  have covered : (classes.any fun found => Located.covers found index) = true :=
    List.any_eq_true.mpr ⟨found, member, covers⟩
  rw [withoutClasses, List.getElem?_mapIdx, List.getElem?_eq_getElem inside, Option.map_some,
    if_pos covered]

/-- The other lines stay. -/
theorem getElem?_of_withoutClasses {lines : List Text} {classes : List (Located ClassDeclaration)}
    {index : Nat} {line : Text} (there : (withoutClasses lines classes)[index]? = some line)
    (code : line ≠ []) : lines[index]? = some line := by
  rw [withoutClasses, List.getElem?_mapIdx, Option.map_eq_some_iff] at there
  obtain ⟨original, there, kept⟩ := there
  split at kept
  · exact absurd kept.symm code
  · rw [there, kept]

/-- No function begins on a line of a class. -/
theorem not_covers_function (lines : List Text) {found : Located Declaration}
    (member : found ∈ locatedFunctions lines) {other : Located ClassDeclaration}
    (isClass : other ∈ locatedClasses lines) : Located.covers other found.firstLine = false := by
  rw [locatedFunctions] at member
  obtain ⟨ascending, code⟩ := functionsFrom_ascending lines
    (withoutClasses lines (locatedClasses lines)) lines.length 0
  obtain ⟨-, span, inside⟩ := ascending.mem member
  rw [length_withoutClasses] at inside
  rw [← Bool.not_eq_true]
  intro covers
  exact code found member (withoutClasses_of_covers isClass covers (by omega))

/-! ## Several members on a line -/

/-- What is left of a segment after a member whose body opens on its line. -/
theorem restOfSegment_eq {segment : Segment} {place : Place} {line : Text}
    (opens : signature.body = some place) (here : place.line = segment.line)
    (there : lines[segment.line]? = some line) :
    restOfSegment lines segment signature =
      (Delimiters.feed { braces := 1 } (line.take (segment.stop.getD line.length))
        (place.column + 1) { atClose := true }).halt.bind fun (_, column) =>
          let text := (line.take (segment.stop.getD line.length)).drop (column + 1)
          if Text.isBlankText text then none else some { segment with start := column + 1, text } := by
  rw [restOfSegment, opens]
  simp only [here, ne_eq, not_true_eq_false, if_false, getD_of_getElem? there]
  cases segment.stop with
  | none =>
      simp only [Option.getD_none, List.take_length]
      cases (Delimiters.feed { braces := 1 } line (place.column + 1) { atClose := true }).halt <;> rfl
  | some stop =>
      simp only [Option.getD_some]
      cases (Delimiters.feed { braces := 1 } (line.take stop) (place.column + 1)
        { atClose := true }).halt <;> rfl

/-- Something is left of a segment only behind a body that opens and closes on its line. -/
theorem restOfSegment_eq_some {segment rest : Segment} {line : Text}
    (there : lines[segment.line]? = some line)
    (left : restOfSegment lines segment signature = some rest) :
    ∃ place c column, signature.body = some place ∧ place.line = segment.line ∧
      (Delimiters.feed { braces := 1 } (line.take (segment.stop.getD line.length))
        (place.column + 1) { atClose := true }).halt = some (c, column) ∧
      rest = { segment with
        start := column + 1, text := line.slice (column + 1) (segment.stop.getD line.length) } := by
  cases opens : signature.body with
  | none =>
      rw [restOfSegment, opens] at left
      cases left
  | some place =>
      by_cases here : place.line = segment.line
      · rw [restOfSegment_eq opens here there] at left
        obtain ⟨⟨c, column⟩, halted, left⟩ := Option.bind_eq_some_iff.mp left
        obtain ⟨-, same⟩ := Option.ite_none_left_eq_some.mp left
        obtain rfl := Option.some.inj same
        exact ⟨place, c, column, rfl, here, halted, rfl⟩
      · rw [restOfSegment, opens] at left
        simp [here] at left

/-- What is left of a segment after a member begins further on and is shorter. -/
theorem restOfSegment_shorter {segment rest : Segment} (piece : segment.In lines)
    {limit : Nat} {words : List Text}
    (complete : Signature.find? lines segment.line ⟨segment.start, segment.stop⟩ limit words =
      some signature)
    (left : restOfSegment lines segment signature = some rest) :
    rest.line = segment.line ∧ segment.start < rest.start ∧ rest.In lines ∧
      rest.text.length < segment.text.length := by
  obtain ⟨line, there, stops, text⟩ := piece
  obtain ⟨place, c, column, opens, here, halted, rfl⟩ := restOfSegment_eq_some there left
  obtain ⟨start, -⟩ := (Signature.opensAt_find? complete opens).2.2 here
  obtain ⟨-, after, inside, -⟩ := Delimiters.halt_feed halted
  refine ⟨rfl, by dsimp only at start ⊢; omega, ⟨line, there, stops, rfl⟩, ?_⟩
  rw [text, Text.slice, Text.slice, List.length_drop, List.length_drop]
  dsimp only at start
  omega

/-- A member is declared where a segment begins: its name and its signature are read there, and
its documentation above that line. -/
structure Declares (lines : List Text) (className : Text) (segment : Segment) (member : Declaration)
    (signature : Signature) : Prop where
  named : memberName? className (Text.trim segment.text) = some member.name
  complete : Signature.find? lines segment.line ⟨segment.start, segment.stop⟩
    Signature.defaultLineLimit [] = some signature
  signature : member.signature = signature.text
  documentation : member.documentation = Documentation.above lines segment.line

/-- A segment with members begins with one. -/
theorem named_of_mem_segment {className : Text} {fuel : Nat} {segment : Segment}
    {found : Located Declaration} (member : found ∈ membersOfSegment lines className fuel segment) :
    ∃ name, memberName? className (Text.trim segment.text) = some name := by
  cases fuel with
  | zero => cases member
  | succ fuel =>
      rw [membersOfSegment] at member
      cases named : memberName? className (Text.trim segment.text) with
      | none =>
          rw [named] at member
          cases member
      | some name => exact ⟨name, rfl⟩

/-- Every member of a segment is declared in a piece of its line. -/
theorem exists_declares_of_mem_segment {className : Text} {fuel : Nat} {segment : Segment}
    (whole : segment.In lines) {found : Located Declaration}
    (member : found ∈ membersOfSegment lines className fuel segment) :
    ∃ (piece : Segment) (signature : Signature), piece.In lines ∧
      Declares lines className piece found.item signature ∧
      piece.line = segment.line ∧ found.firstLine = segment.line := by
  induction fuel generalizing segment with
  | zero => cases member
  | succ fuel inductionHypothesis =>
      rw [membersOfSegment] at member
      split at member
      · cases member
      · next name named =>
          split at member
          · cases member
          · next signature complete =>
              have here : Declares lines className segment
                  { name, signature := signature.text
                    documentation := Documentation.above lines segment.line } signature :=
                ⟨named, complete, rfl, rfl⟩
              dsimp only at member
              split at member
              · obtain rfl := List.mem_singleton.mp member
                exact ⟨segment, signature, whole, here, rfl, rfl⟩
              · next rest left =>
                  rcases List.mem_cons.mp member with rfl | later
                  · exact ⟨segment, signature, whole, here, rfl, rfl⟩
                  · obtain ⟨sameLine, -, onwards, -⟩ := restOfSegment_shorter whole complete left
                    rw [← sameLine]
                    exact inductionHypothesis onwards later

/-- Every member of a body is one of a segment. -/
theorem exists_of_mem_membersFrom {className : Text} {next : Nat} {segments : List Segment}
    {found : Located Declaration} (member : found ∈ membersFrom lines className next segments) :
    ∃ segment ∈ segments, found ∈ membersOfSegment lines className (segment.text.length + 1) segment := by
  induction segments generalizing next with
  | nil => cases member
  | cons segment later inductionHypothesis =>
      rw [membersFrom] at member
      have below {next : Nat} (member : found ∈ membersFrom lines className next later) :
          ∃ other ∈ segment :: later,
            found ∈ membersOfSegment lines className (other.text.length + 1) other := by
        obtain ⟨other, listed, found⟩ := inductionHypothesis member
        exact ⟨other, List.mem_cons_of_mem segment listed, found⟩
      split at member
      · exact below member
      · rcases List.mem_append.mp member with here | other
        · exact ⟨segment, List.mem_cons_self, here⟩
        · exact below other

/-- So every member of a body is declared in a piece of a line. -/
theorem exists_declares_of_mem {className : Text} {next : Nat} {segments : List Segment}
    (pieces : ∀ segment ∈ segments, segment.In lines) {found : Located Declaration}
    (member : found ∈ membersFrom lines className next segments) :
    ∃ (segment : Segment) (signature : Signature), segment.In lines ∧
      Declares lines className segment found.item signature := by
  obtain ⟨segment, listed, inside⟩ := exists_of_mem_membersFrom member
  obtain ⟨piece, signature, within, declares, -⟩ :=
    exists_declares_of_mem_segment (pieces segment listed) inside
  exact ⟨piece, signature, within, declares⟩

/-- Whatever is found on a line, the search goes on at a later one, which is at most one
beyond the text; and whatever is found in a piece of a line, it goes on in a shorter piece
of that line, further to the right. -/
structure Advances (lines : List Text) : Prop where
  afterClass : ∀ index found, classAt? lines index = some found →
    index < max found.lastLine index + 1 ∧ max found.lastLine index + 1 ≤ lines.length
  afterFunction : ∀ whole index found, functionAt? whole lines index = some found →
    index < found.lastLine + 1 ∧ found.lastLine + 1 ≤ lines.length
  bodies : ∀ index window limit words signature,
    Signature.find? lines index window limit words = some signature →
      ∀ segment ∈ (classBody lines index signature).segments, segment.In lines
  afterMember : ∀ segment signature rest, segment.In lines →
    Signature.find? lines segment.line ⟨segment.start, segment.stop⟩ Signature.defaultLineLimit [] =
      some signature → restOfSegment lines segment signature = some rest →
    rest.line = segment.line ∧ segment.start < rest.start ∧ rest.In lines ∧
      rest.text.length < segment.text.length

theorem advances (lines : List Text) : Advances lines where
  afterClass := by
    intro index found at?
    obtain ⟨-, span, inside⟩ := classAt?_within at?
    omega
  afterFunction := by
    intro whole index found at?
    obtain ⟨-, span, inside, -⟩ := functionAt?_within at?
    omega
  bodies := fun _ _ _ _ _ complete => segments_in complete
  afterMember := fun _ _ _ piece complete left => restOfSegment_shorter piece complete left

end Outline

end Codemap
