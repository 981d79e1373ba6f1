import Codemap.Proofs.Source.Extent
import Codemap.Proofs.Source.Readings

namespace Codemap

/-!
# The brace that opens a body

The search for a signature finds the body of a declaration in one of two ways.  Either the scan
stops at a brace, or it comes to its end and a brace is the first character below.  In the first
case the scan has taken every character before the brace for what it is, and nothing is left
open.  In the second case the search has looked at the literals only: it may have come to its end
because no further line is gathered, whatever is open, and the brace may stand in a comment that
goes on below.  Apart from these two exceptions the brace is code behind balanced delimiters.

That delimiters balance means that as many are closed as are opened.  It means that each of them
is closed if no closing one comes before its opening one.
-/

namespace Reading

/-! ## Delimiters that are closed -/

/-- Along some characters no delimiter of a kind is closed that is not open. -/
def NoStray (kind : Bracket) (readings : List Reading) : Prop :=
  ∀ early, early <+: readings → 0 ≤ surplus kind early

/-- Behind an opening delimiter comes the one that closes it: those between the two are closed
before. -/
def ClosedIn (kind : Bracket) (later : List Reading) : Prop :=
  ∃ inner closing outer, later = inner ++ closing :: outer ∧ closing.role = .code ∧
    closing.char = kind.closer ∧ NoStray kind inner ∧ surplus kind inner = 0

/-- Every delimiter of a kind that is opened along some characters is closed. -/
def AllClosed (kind : Bracket) (readings : List Reading) : Prop :=
  ∀ early opening later, readings = early ++ opening :: later → opening.role = .code →
    opening.char = kind.opener → ClosedIn kind later

variable {kind : Bracket} {readings : List Reading} {reading : Reading}

theorem tally_of_opener (code : reading.role = .code) (opens : reading.char = kind.opener) :
    reading.tally kind = 1 := by
  rw [tally, code]
  exact if_pos opens

/-- Only a closing delimiter counts against the depth, and only by one. -/
theorem closes_of_tally_neg (negative : reading.tally kind < 0) :
    reading.role = .code ∧ reading.char = kind.closer ∧ reading.tally kind = -1 := by
  unfold tally at negative ⊢
  split at negative
  · next code =>
      split at negative
      · cases negative
      split at negative
      · next closes =>
          have notOpener : kind.closer ≠ kind.opener := by cases kind <;> decide
          exact ⟨code, closes, by rw [closes, if_neg notOpener, if_pos rfl]⟩
      · cases negative
  · cases negative

/-- Where a depth falls below zero there is a first closing delimiter without an opening one. -/
theorem exists_closing {depth : Int} (open' : 0 ≤ depth) (falls : depth + surplus kind readings < 0) :
    ∃ inner closing outer, readings = inner ++ closing :: outer ∧ closing.role = .code ∧
      closing.char = kind.closer ∧ (∀ early, early <+: inner → 0 ≤ depth + surplus kind early) ∧
      depth + surplus kind inner = 0 := by
  induction readings generalizing depth with
  | nil =>
      rw [surplus_nil] at falls
      omega
  | cons first rest inductionHypothesis =>
      rw [surplus_cons, ← Int.add_assoc] at falls
      by_cases below : depth + first.tally kind < 0
      · obtain ⟨code, closes, one⟩ := closes_of_tally_neg (show first.tally kind < 0 by omega)
        refine ⟨[], first, rest, rfl, code, closes, fun early isPrefix => ?_, ?_⟩
        · rw [List.prefix_nil.mp isPrefix, surplus_nil]
          omega
        · rw [surplus_nil]
          omega
      · obtain ⟨inner, closing, outer, rfl, code, closes, noStray, balanced⟩ :=
          inductionHypothesis (by omega) falls
        refine ⟨first :: inner, closing, outer, rfl, code, closes, fun early isPrefix => ?_, ?_⟩
        · cases early with
          | nil =>
              rw [surplus_nil]
              omega
          | cons other early =>
              obtain ⟨rfl, onwards⟩ := List.cons_prefix_cons.mp isPrefix
              have further := noStray early onwards
              rw [surplus_cons]
              omega
        · rw [surplus_cons]
          omega

/-- Where none is left over, and none is closed that is not open, all delimiters are closed. -/
theorem allClosed_of_noStray (noStray : NoStray kind readings) (balanced : surplus kind readings ≤ 0) :
    AllClosed kind readings := by
  rintro early opening later rfl code opens
  have before := noStray early (List.prefix_append _ _)
  rw [surplus_append, surplus_cons, tally_of_opener code opens] at balanced
  obtain ⟨inner, closing, outer, split, code, closes, inside, zero⟩ :=
    exists_closing (Int.le_refl 0) (show 0 + surplus kind later < 0 by omega)
  refine ⟨inner, closing, outer, split, code, closes, fun part isPrefix => ?_, by omega⟩
  have further := inside part isPrefix
  omega

/-! ## Lines below -/

/-- Among the characters of some lines stands an opening brace, behind others.  It is code, or
its line begins in a comment. -/
def ComesTo (index : Nat) (mode : Mode) (column : Nat) (lines : List Text) (place : Place)
    (early : List Reading) : Prop :=
  ∃ role late, ofLines index mode column lines = early ++ ⟨place, '{', role⟩ :: late ∧
    (role = .code ∨ role = .comment ∧
      (endOfLines mode column (lines.take (place.line - index))).inBlockComment = true)

variable {index column : Nat} {mode : Mode} {line : Text} {later : List Text} {place : Place}
  {early : List Reading}

/-- A place on a later line is come to behind the first one. -/
theorem ComesTo.cons (below : index + 1 ≤ place.line)
    (comes : ComesTo (index + 1) (endOfLine mode line column) 0 later place early) :
    ComesTo index mode column (line :: later) place (ofLine index mode line column ++ early) := by
  obtain ⟨role, late, split, kind⟩ := comes
  refine ⟨role, late, by rw [ofLines, split, List.append_assoc], kind.imp_right fun comment => ?_⟩
  rw [show place.line - index = place.line - (index + 1) + 1 by omega, List.take_succ_cons]
  exact comment

/-- A blank line counts for nothing and leaves the scanner where it is. -/
theorem ofLine_of_blank (index column : Nat) (awake : mode.inert = false) (proper : mode.Proper)
    (blank : Text.isBlankText line = true) :
    (∀ kind, surplus kind (ofLine index mode line column) = 0) ∧
      endOfLine mode line column = mode := by
  have rest : (line.drop column).all isBlank = true :=
    List.all_eq_true.mpr fun c member =>
      List.all_eq_true.mp blank c (List.mem_of_mem_drop member)
  obtain ⟨early, before, split, ends, -, still⟩ :=
    ofRest_blanks index column awake proper rest (beforeColumn line column) []
  rw [List.append_nil] at split ends
  rw [ofLine, split, endOfLine, ends, ofRest, List.append_nil]
  refine ⟨still, ?_⟩
  obtain ⟨quote, inBlockComment, inert⟩ := mode
  obtain rfl : inert = false := awake
  rfl

end Reading

namespace Signature

open Reading

/-! ## The brace that a search finds -/

variable {words : List Text} {first index budget offset : Nat} {state : Delimiters}
  {parts lines : List Text} {place : Place}

/-- The brace that is the first character below stands behind blanks; it is code unless the
lines above it end in a comment. -/
theorem comesTo_openerBelow {mode : Mode} (awake : mode.inert = false) (outside : mode.quote = none)
    (opens : openerBelow index lines = some place) :
    ∃ early, ComesTo index mode 0 lines place early ∧ ∀ kind, surplus kind early = 0 := by
  have proper : mode.Proper := by
    rw [Mode.Proper, outside]
    exact fun _ member => by cases member
  induction lines generalizing index with
  | nil => cases opens
  | cons line later inductionHypothesis =>
      rw [openerBelow] at opens
      by_cases blank : Text.isBlankText line = true
      · rw [if_pos blank] at opens
        obtain ⟨still, stays⟩ := ofLine_of_blank index 0 awake proper blank
        obtain ⟨early, comes, level⟩ := inductionHypothesis opens
        refine ⟨_, .cons (openerBelow_within opens).1 (stays.symm ▸ comes), fun kind => ?_⟩
        rw [surplus_append, still, level]
        rfl
      · rw [if_neg blank] at opens
        obtain ⟨brace, same⟩ := Option.ite_none_right_eq_some.mp opens
        obtain rfl := Option.some.inj same
        obtain ⟨rest, stripped⟩ := List.head?_eq_some_iff.mp brace
        obtain ⟨early, before, split, -, -, still⟩ := ofRest_blanks index 0 awake proper
          (Text.all_isBlank_margin line) none ('{' :: rest)
        rw [← stripped, Text.margin_append_trimStart] at split
        have column : line.length - (Text.trimStart line).length = 0 + (Text.margin line).length := by
          have length := Text.length_eq_margin_add line
          omega
        -- Outside a comment the brace is code; inside one it is a part of it.
        obtain ⟨role, next, step, kind⟩ : ∃ role next, mode.step? before '{' rest = some (role, next) ∧
            (role = .code ∨ role = .comment ∧ mode.inBlockComment = true) := by
          obtain ⟨quote, inBlockComment, inert⟩ := mode
          obtain rfl : inert = false := awake
          obtain rfl : quote = none := outside
          cases inBlockComment with
          | false => exact ⟨_, _, Mode.step?_of_plain rfl (by decide) (by decide) before rest, Or.inl rfl⟩
          | true => exact ⟨.comment, _, rfl, Or.inr ⟨rfl, rfl⟩⟩
        refine ⟨early, ⟨role, ofRest index next (some '{') (0 + (Text.margin line).length + 1) rest ++
          ofLines (index + 1) (endOfLine mode line 0) 0 later, ?_, ?_⟩, still⟩
        · rw [ofLines, ofLine, List.drop_zero, show beforeColumn line 0 = none from rfl, split, stripped,
            ofRest, step, List.append_assoc, ← stripped, column]
          rfl
        · rw [Nat.sub_self]
          exact kind

/-- What is open where no further line is gathered, unless a limit is reached. -/
theorem depth_of_not_needsMore (complete : needsMore state parts = false) (kind : Bracket) :
    state.depth kind ≤ 0 := by
  simp only [needsMore, Bool.or_eq_false_iff, decide_eq_false_iff_not, Int.not_lt] at complete
  cases kind
  · exact complete.1.1.1.1
  · exact complete.1.1.1.2
  · exact complete.1.1.2

theorem depth_of_balanced (balanced : state.balanced = true) (kind : Bracket) :
    state.depth kind ≤ 0 := by
  simp only [Delimiters.balanced, Bool.and_eq_true, decide_eq_true_eq] at balanced
  cases kind
  · exact balanced.1.1.1
  · exact balanced.1.1.2
  · exact balanced.1.2

/-- A body that opens below a line opens at a brace with nothing before it. -/
theorem comesTo_close (opens : (close first index state parts lines).body = some place) :
    index < place.line ∧ ∃ early, ComesTo (index + 1) (state.mode false) 0 lines place early ∧
      ∀ kind, surplus kind early = 0 := by
  refine ⟨lt_of_close opens, ?_⟩
  rw [close] at opens
  split at opens
  · next found below =>
      obtain rfl := Option.some.inj opens
      obtain ⟨outside, below⟩ := Option.ite_none_left_eq_some.mp below
      rw [Delimiters.inString, Option.not_isSome_iff_eq_none] at outside
      exact comesTo_openerBelow rfl outside below
  · cases opens

/-- The brace of a body is come to with nothing open, unless it stands beyond the lines that
may be gathered. -/
def OpensBody (state : Delimiters) (offset index budget : Nat) (lines : List Text) (place : Place) :
    Prop :=
  ∃ early, ComesTo index (state.mode false) offset lines place early ∧
    (place.line ≤ index + budget → ∀ kind, state.depth kind + surplus kind early ≤ 0)

/-- The characters of a line that is scanned to its end are counted in the state behind it. -/
theorem OpensBody.cons {line : Text} {later : List Text} {next : Delimiters} {further : Nat}
    {stops : Stops} (ends : Delimiters.EndsAs stops state next
      (endOfLine (state.mode false) line offset) (ofLine index (state.mode false) line offset))
    (below : index + 1 ≤ place.line) (near : place.line ≤ index + budget → place.line ≤ index + 1 + further)
    (opens : OpensBody next 0 (index + 1) further later place) :
    OpensBody state offset index budget (line :: later) place := by
  obtain ⟨early, comes, level⟩ := opens
  rw [ends.mode] at comes
  refine ⟨_, comes.cons below, fun within kind => ?_⟩
  have depth := level (near within) kind
  rw [ends.depths] at depth
  rw [surplus_append]
  omega

theorem opensBody_gather (enough : budget < lines.length) (proper : state.Proper) {skipping : Bool}
    (opens : (gather words first state parts index budget offset skipping lines).body = some place) :
    OpensBody state offset index budget lines place := by
  induction lines generalizing state parts index budget offset skipping with
  | nil => cases enough
  | cons line later inductionHypothesis =>
      rw [List.length_cons] at enough
      rw [gather] at opens
      split at opens
      · next skips =>
          simp only [Bool.and_eq_true, bne_iff_ne, ne_eq] at skips
          obtain ⟨⟨-, more⟩, blank⟩ := skips
          have fewer : budget - 1 < later.length := by omega
          have awake : (state.mode false).inert = false := rfl
          obtain ⟨still, stays⟩ := ofLine_of_blank index offset awake proper blank
          obtain ⟨early, comes, level⟩ := inductionHypothesis fewer proper opens
          refine ⟨_, .cons (le_of_gather fewer opens) (stays.symm ▸ comes), fun within kind => ?_⟩
          rw [surplus_append, still, Int.zero_add]
          exact level (by omega) kind
      · dsimp only at opens
        split at opens
        · next c column halted =>
            split at opens
            · next brace =>
                subst brace
                obtain rfl := Option.some.inj opens
                obtain ⟨early, rest, -, stopped⟩ := Delimiters.stopsAt_feed index halted
                obtain ⟨last, counted, halts⟩ := stopped.halts
                obtain ⟨-, -, balanced⟩ | ⟨other, -⟩ := halts
                · refine ⟨early, ⟨.code, ofRest index {} (some '{') (column + 1) rest ++
                    ofLines (index + 1) (endOfLine (state.mode false) line offset) 0 later, ?_,
                    Or.inl rfl⟩, fun _ kind => ?_⟩
                  · rw [ofLines, stopped.split, List.append_assoc]
                    rfl
                  · rw [← counted]
                    exact depth_of_balanced balanced kind
                · cases other
            · cases opens
        · next ended =>
            have ends := Delimiters.endsAs_feed index ended
            split at opens
            · next exhausted =>
                -- No further line may be gathered: the brace stands too far down for the counts.
                obtain ⟨below, early, comes, level⟩ := comesTo_close opens
                rw [ends.mode] at comes
                exact ⟨_, comes.cons below, fun within => absurd within (by omega)⟩
            split at opens
            · next more =>
                have fewer : budget - 1 < later.length := by omega
                exact OpensBody.cons ends (le_of_gather fewer opens) (by omega)
                  (inductionHypothesis fewer (Delimiters.proper_feedFrom proper) opens)
            · next complete =>
                rw [Bool.not_eq_true, Bool.or_eq_false_iff] at complete
                obtain ⟨below, early, comes, level⟩ := comesTo_close opens
                rw [ends.mode] at comes
                refine ⟨_, comes.cons below, fun _ kind => ?_⟩
                have depth := depth_of_not_needsMore complete.1 kind
                rw [ends.depths] at depth
                rw [surplus_append, level]
                omega

/-- The brace that opens a body is code with nothing open before it.  There are two exceptions: a
brace that is the first character below the signature may be a part of a comment that goes on
there, and behind the last line that may be gathered anything may be open. -/
theorem body_opens_in_code {lines words : List Text} {start limit : Nat} {window : Window}
    {signature : Signature} {place : Place}
    (found : find? lines start window limit words = some signature)
    (opens : signature.body = some place) :
    ∃ line later early role late, lines.drop start = line :: later ∧
      ofLines start {} window.start (window.clip line :: later) =
        early ++ ⟨place, '{', role⟩ :: late ∧
      (role = .code ∨ role = .comment ∧ (endOfLines {} window.start
        ((window.clip line :: later).take (place.line - start))).inBlockComment = true) ∧
      (place.line < start + limit →
        ∀ kind, surplus kind early ≤ 0 ∧ (NoStray kind early → AllClosed kind early)) := by
  obtain ⟨-, ⟨text, there, -⟩, -⟩ := opensAt_find? found opens
  have inside := (List.getElem?_eq_some_iff.mp there).1
  rw [find?] at found
  cases rest : lines.drop start with
  | nil =>
      rw [rest] at found
      cases found
  | cons line later =>
      rw [rest] at found
      have length := congrArg List.length rest
      rw [List.length_drop, List.length_cons] at length
      obtain rfl := Option.some.inj found
      obtain ⟨early, ⟨role, late, split, kind⟩, level⟩ :=
        opensBody_gather (by rw [List.length_cons]; omega) (Delimiters.proper_braces 0) opens
      refine ⟨line, later, early, role, late, rfl, split, kind, fun near kind => ?_⟩
      have closed : surplus kind early ≤ 0 := by
        have depth := level (by omega) kind
        cases kind <;> simpa [Delimiters.depth] using depth
      exact ⟨closed, fun noStray => allClosed_of_noStray noStray closed⟩

theorem body_opens_in_code_below_parameters :
    let lines := ["void f(int a,".toList, "  int b)".toList, "\x7b".toList]
    ∃ line later early role late, lines.drop 0 = line :: later ∧
      ofLines 0 {} 0 (line :: later) = early ++ ⟨⟨2, 0⟩, '{', role⟩ :: late ∧
      (role = .code ∨ role = .comment ∧
        (endOfLines {} 0 ((line :: later).take 2)).inBlockComment = true) ∧
      (2 < 0 + defaultLineLimit →
        ∀ kind, surplus kind early ≤ 0 ∧ (NoStray kind early → AllClosed kind early)) := by
  intro lines
  have found : find? lines 0 {} defaultLineLimit [] =
      some ⟨"void f(int a, int b)".toList, 0, 2, some ⟨2, 0⟩⟩ := by decide +kernel
  exact body_opens_in_code found rfl

/-- A comment that is open at the end of a signature is not seen: its next line is searched for
the body. -/
theorem body_opens_in_comment :
    let lines := ["void f() /* old:".toList, "\x7b */".toList]
    ((find? lines 0 {} defaultLineLimit []).bind Signature.body = some ⟨1, 0⟩) ∧
      (ofLines 0 {} 0 lines).find? (fun reading => reading.place = ⟨1, 0⟩) =
        some ⟨⟨1, 0⟩, '{', .comment⟩ := by
  decide +kernel

end Signature
end Codemap
