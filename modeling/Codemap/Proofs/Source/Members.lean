import Codemap.Proofs.Source.Extent
import Codemap.Proofs.Source.Leads
import Codemap.Proofs.Source.Readings
import Codemap.Proofs.Source.Shift

namespace Codemap

/-!
# Members of a body in braces

The body of a class in braces ends with the brace that matches the opening one, where braces in
literals and comments do not count.  Its members are found by three scanners: one walks the body,
one looks for the end of a member's signature, and one for the end of a member's body on the same
line.  Each begins with counts of its own, but all of them read the characters alike.  So every
member begins directly inside the body of the class: in code, where the braces of the class and
no others are open.
-/

namespace Reading

/-! ## The brace that closes a body -/

/-- Of some readings that begin at a depth these ones stand before the brace that brings the
depth to zero; all of them do if there is no such brace. -/
inductive Encloses (depth : Int) (readings : List Reading) : List Reading → Option Reading → Prop
  | closed {inside after : List Reading} {brace : Reading} (split : readings = inside ++ brace :: after)
      (code : brace.role = .code) (char : brace.char = '}') (deep : Deep depth inside)
      (closes : depth + net inside + brace.weight = 0) : Encloses depth readings inside (some brace)
  | unclosed (deep : Deep depth readings) : Encloses depth readings readings none

theorem Encloses.deep {depth : Int} {readings inside : List Reading} {closer : Option Reading}
    (encloses : Encloses depth readings inside closer) : Deep depth inside := by
  cases encloses with
  | closed _ _ _ deep _ => exact deep
  | unclosed deep => exact deep

/-- What is enclosed behind some further characters. -/
theorem Encloses.append {depth : Int} {first readings inside : List Reading} {closer : Option Reading}
    (deep : Deep depth first) (encloses : Encloses (depth + net first) readings inside closer) :
    Encloses depth (first ++ readings) (first ++ inside) closer := by
  cases encloses with
  | @closed _ after brace split code char inner closes =>
      have whole : first ++ readings = (first ++ inside) ++ brace :: after := by
        rw [split, List.append_assoc]
      refine .closed whole code char (deep.append inner) ?_
      rw [net_append]
      omega
  | unclosed inner => exact .unclosed (deep.append inner)

/-! ## Pieces of a line -/

variable {line column : Nat} {mode : Mode} {before : Option Char} {text : Text}

theorem length_remark (line column : Nat) (text : Text) :
    (remark line column text).length = text.length := by
  induction text generalizing column with
  | nil => rfl
  | cons c rest inductionHypothesis =>
      rw [remark, List.length_cons, List.length_cons, inductionHypothesis]

theorem length_ofRest (line column : Nat) (mode : Mode) (before : Option Char) (text : Text) :
    (ofRest line mode before column text).length = text.length := by
  induction text generalizing mode before column with
  | nil => rfl
  | cons c rest inductionHypothesis =>
      rw [ofRest]
      split
      · rw [List.length_cons, List.length_cons, inductionHypothesis]
      · exact length_remark line column (c :: rest)

theorem length_ofLine (line : Nat) (mode : Mode) (text : Text) (column : Nat) :
    (ofLine line mode text column).length = text.length - column := by
  rw [ofLine, length_ofRest, List.length_drop]

theorem slice_append_drop {text : Text} {start stop : Nat} (inside : start ≤ (text.take stop).length) :
    text.slice start stop ++ text.drop stop = text.drop start := by
  rw [Text.slice, ← List.drop_append_of_le_length inside, List.take_append_drop]

/-- The readings of a piece of a line that begins in code. -/
def ofPiece (line : Nat) (text : Text) (start stop : Nat) : List Reading :=
  (ofLine line {} text start).take (stop - start)

/-- A scan of the piece that stops has read the characters before the place where it stops. -/
theorem ofPiece_of_halt {stops : Stops} {state : Delimiters} (code : state.mode false = {})
    (line : Nat) {text : Text} {start stop : Nat} {c : Char} {column : Nat}
    (halted : (state.feed (text.take stop) start stops).halt = some (c, column)) :
    ∃ early, ofPiece line text start stop =
        early ++ ⟨⟨line, column⟩, c, .code⟩ :: ofPiece line text (column + 1) stop ∧
      state.StaysDeep stops early ∧
      ∃ last : Delimiters, last.braces = state.braces + net early ∧ last.Halts stops c := by
  obtain ⟨-, after, inside, there⟩ := Delimiters.halt_feed halted
  have whole := slice_append_drop (Nat.le_trans after (Nat.le_of_lt inside))
  rw [Text.slice] at whole
  rw [Delimiters.feed_beforeColumn] at halted
  rw [List.length_take] at inside
  have before : beforeColumn (text.take stop) start = beforeColumn text start := by
    unfold beforeColumn
    split
    · rfl
    · rw [List.head?_drop, List.head?_drop, List.getElem?_take_of_lt (by omega)]
  obtain ⟨skipped, later, early, pieces, column_eq, length, stopped⟩ :=
    Delimiters.stopsAt line halted (text.drop stop)
  have split := stopped.split
  have rest : later ++ text.drop stop = text.drop (column + 1) := by
    rw [show column + 1 = start + (skipped.length + 1) by omega, ← List.drop_drop, ← whole, pieces,
      List.append_assoc, List.drop_length_add_append]
    rfl
  have next : beforeColumn text (column + 1) = some c := by
    rw [List.getElem?_take_of_lt (by omega)] at there
    exact beforeColumn_succ there
  refine ⟨early, ?_, stopped.deep, stopped.braces⟩
  rw [whole, rest, code] at split
  rw [ofPiece, ofLine, ← before, split, ofPiece, ofLine, next, List.take_append,
    List.take_of_length_le (by omega), show stop - start - early.length = stop - (column + 1) + 1 by omega, List.take_succ_cons]

/-- The first character of a piece that is not blank is code, if it opens neither a literal nor
a comment. -/
theorem ofPiece_of_plain (line : Nat) {text rest : Text} {start stop : Nat} {c : Char}
    (plain : Lead.isPlain c = true) (first : Text.trimStart (text.slice start stop) = c :: rest) :
    ∃ early late, ofPiece line text start stop =
        early ++ ⟨⟨line, start + (Text.margin (text.slice start stop)).length⟩, c, .code⟩ :: late ∧
      net early = 0 := by
  have split := Text.margin_append_trimStart (text.slice start stop)
  have blank := Text.all_isBlank_margin (text.slice start stop)
  rw [first] at split
  generalize Text.margin (text.slice start stop) = blanks at split blank ⊢
  have length := congrArg List.length split
  rw [List.length_append, List.length_cons, Text.slice, List.length_drop] at length
  have whole := slice_append_drop (show start ≤ (text.take stop).length by omega)
  rw [List.length_take] at length
  obtain ⟨early, before, scanned, -, counted, still⟩ := ofRest_blanks line start
    (show ({} : Mode).inert = false from rfl) (fun _ member => by cases member) blank
    (beforeColumn text start) (c :: (rest ++ text.drop stop))
  simp only [Lead.isPlain, Bool.and_eq_true, Bool.not_eq_true', bne_iff_ne] at plain
  rw [← split, List.append_assoc, List.cons_append] at whole
  rw [ofRest, Mode.step?_of_plain plain.1.1 plain.1.2 plain.2] at scanned
  obtain ⟨more, enough⟩ : ∃ more, stop - start - early.length = more + 1 :=
    ⟨stop - start - early.length - 1, by omega⟩
  refine ⟨early, (ofRest line {} (some c) (start + blanks.length + 1) (rest ++ text.drop stop)).take
    more, ?_, by rw [← surplus_brace, still]⟩
  rw [ofPiece, ofLine, ← whole, scanned, List.take_append, List.take_of_length_le (by omega), enough,
    List.take_succ_cons]

end Reading

/-! ## Segments of a body -/

open Reading

namespace Segment

/-- The readings of a segment. -/
def readings (segment : Segment) (line : Text) : List Reading :=
  ofPiece segment.line line segment.start (segment.stop.getD line.length)

/-- A segment of a line begins directly inside the braces that enclose some characters. -/
structure AtLevel (depth : Int) (inside : List Reading) (line : Text) (segment : Segment) : Prop where
  piece : segment.PieceOf line
  level : ∃ early late, inside = early ++ (segment.readings line ++ late) ∧ depth + net early = 1

theorem AtLevel.append {depth : Int} {first inside : List Reading} {line : Text} {segment : Segment}
    (at' : AtLevel (depth + net first) inside line segment) :
    AtLevel depth (first ++ inside) line segment where
  piece := at'.piece
  level := by
    obtain ⟨early, late, rfl, level⟩ := at'.level
    refine ⟨first ++ early, late, by rw [List.append_assoc], ?_⟩
    rw [net_append]
    omega

end Segment

namespace Body

/-- What the walk of a body finds: the line of the brace that closes it, and one below another
the segments directly inside. -/
structure Reads (body : Body) (depth : Int) (index : Nat) (lines : List Text)
    (inside : List Reading) (closer : Option Reading) : Prop where
  lastLine : body.lastLine = (closer.map fun brace => brace.place.line).getD (index + lines.length - 1)
  increasing : body.segments.Pairwise fun above below => above.line < below.line
  segments : ∀ segment ∈ body.segments, index ≤ segment.line ∧
    ∃ line, lines[segment.line - index]? = some line ∧ segment.AtLevel depth inside line

/-- At the level of the members a scanner is in code. -/
theorem code_of_atMemberLevel {state : Delimiters} (level : atMemberLevel state = true) :
    state.braces = 1 ∧ state.mode false = {} := by
  obtain ⟨braces, parens, brackets, quote, inBlockComment⟩ := state
  simp only [atMemberLevel, Bool.and_eq_true, beq_iff_eq, Bool.not_eq_true', Delimiters.inString,
    Option.isSome_eq_false_iff, Option.isNone_iff_eq_none] at level
  obtain ⟨⟨⟨⟨rfl, -⟩, -⟩, rfl⟩, rfl⟩ := level
  exact ⟨rfl, rfl⟩

/-- The segment of a line that a walk shows. -/
def shown (state : Delimiters) (index offset : Nat) (stop : Option Nat) (line : Text) : List Segment :=
  let text := line.slice offset (stop.getD line.length)
  if atMemberLevel state && !Text.isBlankText text then [⟨index, offset, stop, text⟩] else []

variable {state : Delimiters} {index offset : Nat} {line : Text}

theorem bracedFrom_of_halt {later : List Text} {c : Char} {column : Nat}
    (halted : (state.feed line offset { atClose := true }).halt = some (c, column)) :
    bracedFrom state index offset (line :: later) =
      { segments := shown state index offset (some column) line, lastLine := index } := by
  rw [bracedFrom, halted]
  rfl

theorem bracedFrom_of_end {later : List Text}
    (ended : (state.feed line offset { atClose := true }).halt = none) :
    bracedFrom state index offset (line :: later) =
      let below := bracedFrom (state.feed line offset { atClose := true }).state (index + 1) 0 later
      { segments := shown state index offset none line ++ below.segments
        lastLine := below.lastLine } := by
  rw [bracedFrom, ended]
  rfl

/-- The segment stands on the line, where the walk begins. -/
theorem of_mem_shown {stop : Option Nat} {segment : Segment}
    (member : segment ∈ shown state index offset stop line)
    (within : ∀ column ∈ stop, column ≤ line.length) {late inside : List Reading}
    (first : inside = (ofLine index (state.mode false) line offset).take
      (stop.getD line.length - offset) ++ late) :
    segment.line = index ∧ segment.AtLevel state.braces inside line := by
  rw [shown] at member
  split at member
  · next level =>
      obtain ⟨one, code⟩ := code_of_atMemberLevel (Bool.and_eq_true_iff.mp level).1
      obtain rfl := List.mem_singleton.mp member
      rw [code] at first
      exact ⟨rfl, ⟨within, rfl⟩, [], late, first, by rw [one]; rfl⟩
  · cases member

theorem pairwise_shown (state : Delimiters) (index offset : Nat) (stop : Option Nat) (line : Text) :
    (shown state index offset stop line).Pairwise fun above below => above.line < below.line := by
  rw [shown]
  split
  · exact List.pairwise_singleton _ _
  · exact .nil

variable {later : List Text} {inside : List Reading} {closer : Option Reading}

/-- A body ends on the line where the walk stops. -/
theorem reads_of_halt (positive : 0 < state.braces) {c : Char} {column : Nat}
    (halted : (state.feed line offset { atClose := true }).halt = some (c, column)) :
    ∃ inside closer,
      Encloses state.braces (ofLines index (state.mode false) offset (line :: later)) inside closer ∧
      (bracedFrom state index offset (line :: later)).Reads state.braces index (line :: later) inside
        closer := by
  obtain ⟨-, -, within, -⟩ := Delimiters.halt_feed halted
  obtain ⟨early, rest, stop, stopped⟩ := Delimiters.stopsAt_feed index halted
  have split := stopped.split
  obtain ⟨last, counted, halts⟩ := stopped.braces
  obtain ⟨rfl, one⟩ := halts.close
  rw [bracedFrom_of_halt halted]
  refine ⟨early, some ⟨⟨index, column⟩, '}', .code⟩, ?_, rfl,
    pairwise_shown state index offset (some column) line, fun segment member => ?_⟩
  · refine .closed (by rw [ofLines, split, List.append_assoc, List.cons_append]) rfl rfl
      (stopped.deep rfl positive) ?_
    change state.braces + net early + -1 = 0
    omega
  · have first : early =
        (ofLine index (state.mode false) line offset).take (column - offset) ++ [] := by
      rw [split, List.take_left' (by omega), List.append_nil]
    obtain ⟨rfl, level⟩ := of_mem_shown member
      (fun _ stops => by cases stops; exact Nat.le_of_lt within) first
    exact ⟨Nat.le_refl _, line, by simp, level⟩

/-- If the walk does not stop on a line, the body goes on below. -/
theorem reads_of_end (ended : (state.feed line offset { atClose := true }).halt = none)
    (deep : Deep state.braces (ofLine index (state.mode false) line offset))
    (encloses : Encloses (state.braces + net (ofLine index (state.mode false) line offset))
      (ofLines (index + 1) (endOfLine (state.mode false) line offset) 0 later) inside closer)
    (reads : (bracedFrom (state.feed line offset { atClose := true }).state (index + 1) 0 later).Reads
      (state.braces + net (ofLine index (state.mode false) line offset)) (index + 1) later inside
        closer) :
    ∃ inside closer,
      Encloses state.braces (ofLines index (state.mode false) offset (line :: later)) inside closer ∧
      (bracedFrom state index offset (line :: later)).Reads state.braces index (line :: later) inside
        closer := by
  have first : ofLine index (state.mode false) line offset ++ inside =
      (ofLine index (state.mode false) line offset).take (line.length - offset) ++ inside := by
    rw [List.take_of_length_le (Nat.le_of_eq (length_ofLine _ _ _ _))]
  have above (segment : Segment) (member : segment ∈ shown state index offset none line) :=
    of_mem_shown member (fun _ stops => by cases stops) first
  rw [bracedFrom_of_end ended]
  refine ⟨_, closer, encloses.append deep, ?_, ?_, fun segment member => ?_⟩
  · rw [reads.lastLine, List.length_cons]
    congr 1
    omega
  · refine List.pairwise_append.mpr
      ⟨pairwise_shown state index offset none line, reads.increasing, ?_⟩
    intro first here second below
    have := (above first here).1
    have := (reads.segments second below).1
    omega
  · rcases List.mem_append.mp member with here | below
    · obtain ⟨rfl, level⟩ := above segment here
      exact ⟨Nat.le_refl _, line, by simp, level⟩
    · obtain ⟨lower, found, there, level⟩ := reads.segments segment below
      exact ⟨by omega, found, getElem?_cons_of_later lower there line, level.append⟩

/-- The walk of a body finds the brace that closes it and the segments directly inside. -/
theorem reads_bracedFrom (positive : 0 < state.braces) (index offset : Nat) (lines : List Text) :
    ∃ inside closer,
      Encloses state.braces (ofLines index (state.mode false) offset lines) inside closer ∧
      (bracedFrom state index offset lines).Reads state.braces index lines inside closer := by
  induction lines generalizing state index offset with
  | nil =>
      exact ⟨[], none, .unclosed (deep_nil.mpr positive), rfl, .nil, fun _ member => by cases member⟩
  | cons line later inductionHypothesis =>
      cases halted : (state.feed line offset { atClose := true }).halt with
      | some pair => exact reads_of_halt positive halted
      | none =>
          have ends := Delimiters.endsAs_feed index halted
          have still : 0 < (state.feed line offset { atClose := true }).state.braces :=
            ends.braces ▸ ends.deep rfl positive _ (List.prefix_refl _)
          obtain ⟨inside, closer, encloses, reads⟩ := inductionHypothesis still (index + 1) 0
          rw [ends.braces, ends.mode] at encloses
          rw [ends.braces] at reads
          exact reads_of_end halted (ends.deep rfl positive) encloses reads

end Body

/-! ## Members of a segment -/

/-- A place is above another one, or on the same line to the left. -/
def Place.Before (first second : Place) : Prop :=
  first.line < second.line ∨ first.line = second.line ∧ first.column < second.column

namespace Outline

variable {lines : List Text} {depth : Int} {inside : List Reading} {line : Text} {segment : Segment}
  {signature : Signature}

/-- What is left of a segment after a member is directly inside the braces too: neither the
member's signature nor its body leaves a brace open. -/
theorem atLevel_restOfSegment {rest : Segment} (deep : Deep depth inside)
    (level : segment.AtLevel depth inside line) (there : lines[segment.line]? = some line)
    {limit : Nat} {words : List Text}
    (complete : Signature.find? lines segment.line ⟨segment.start, segment.stop⟩ limit words =
      some signature)
    (left : restOfSegment lines segment signature = some rest) : rest.AtLevel depth inside line := by
  obtain ⟨piece, early, late, split, level⟩ := level
  obtain ⟨place, c, column, opens, here, closer, rfl⟩ := restOfSegment_eq_some there left
  have opener := Signature.halt_of_find? there complete opens here
  rw [Segment.clip_eq] at opener
  obtain ⟨lead, first, -, last, counted, halts⟩ := ofPiece_of_halt rfl segment.line opener
  obtain ⟨body, second, -, inner, counted', halts'⟩ := ofPiece_of_halt rfl segment.line closer
  rw [Segment.readings, first, second] at split
  -- The signature ends where its own count is balanced, and the braces of the body are not closed
  -- before: so the signature leaves the depth as it is.
  have noneLeft : last.braces ≤ 0 := halts.braces_le
  have noneClosed : 0 < depth + net (early ++ lead) := deep _ (by rw [split]; simp)
  obtain ⟨rfl, one⟩ := halts'.close
  refine ⟨⟨piece.stop, rfl⟩, early ++ (lead ++ ⟨place, '{', .code⟩ ::
    (body ++ [⟨⟨segment.line, column⟩, '}', .code⟩])), late, ?_, ?_⟩
  · rw [split]
    simp [Segment.readings, ← here]
  · simp only [net_append, net_cons, net_nil] at noneClosed ⊢
    change depth + (net early + (net lead + (1 + (net body + (-1 + 0))))) = 1
    change last.braces = 0 + net lead at counted
    change inner.braces = 1 + net body at counted'
    omega

/-- It begins behind the character with which the member begins. -/
theorem margin_lt_start {rest : Segment} (piece : segment.PieceOf line)
    (there : lines[segment.line]? = some line) {limit : Nat} {words : List Text}
    (complete : Signature.find? lines segment.line ⟨segment.start, segment.stop⟩ limit words =
      some signature)
    (left : restOfSegment lines segment signature = some rest) :
    segment.start + (Text.margin segment.text).length < rest.start := by
  obtain ⟨place, c, column, opens, here, closer, rfl⟩ := restOfSegment_eq_some there left
  have opener := Signature.halt_of_find? there complete opens here
  rw [Segment.clip_eq] at opener
  obtain ⟨-, first, -, brace⟩ := Delimiters.halt_feed opener
  obtain ⟨-, second, -, -⟩ := Delimiters.halt_feed closer
  dsimp only at first ⊢
  have shown : segment.text[place.column - segment.start]? = some '{' := by
    rw [piece.text, Text.slice, List.getElem?_drop, Nat.add_sub_cancel' first]
    exact brace
  have margin := Text.length_margin_le shown rfl
  omega

/-- A member is declared in a piece of a line and begins there with the first character that is
not blank. -/
def DeclaredAt (lines : List Text) (className : Text) (member : Declaration) (start : Reading) : Prop :=
  ∃ (segment : Segment) (signature : Signature), segment.In lines ∧
    Declares lines className segment member signature ∧
    start.place = ⟨segment.line, segment.start + (Text.margin segment.text).length⟩ ∧
    (Text.trim segment.text).head? = some start.char

/-- A character is code directly inside the braces that enclose some characters. -/
structure Direct (depth : Int) (inside : List Reading) (start : Reading) : Prop where
  code : start.role = .code
  level : ∃ early late, inside = early ++ start :: late ∧ depth + net early = 1

/-- What begins in a segment with a plain character begins directly inside the braces. -/
theorem direct_of_plain (level : segment.AtLevel depth inside line)
    (plain : Lead.Opens Lead.isPlain (Text.trim segment.text)) :
    ∃ start : Reading, start.place = ⟨segment.line, segment.start + (Text.margin segment.text).length⟩ ∧
      (Text.trim segment.text).head? = some start.char ∧ Direct depth inside start := by
  obtain ⟨⟨-, text⟩, early, late, rfl, level⟩ := level
  cases trimmed : Text.trim segment.text with
  | nil =>
      rw [trimmed] at plain
      cases plain
  | cons c rest =>
      rw [trimmed] at plain
      have isPrefix : c :: rest <+: Text.trimStart segment.text := trimmed ▸ Text.trimEnd_prefix _
      obtain ⟨more, whole⟩ := isPrefix
      rw [text] at whole ⊢
      obtain ⟨before, after, split, still⟩ := ofPiece_of_plain segment.line plain whole.symm
      refine ⟨⟨_, c, .code⟩, rfl, rfl, ⟨rfl,  early ++ before, after ++ late, ?_, ?_⟩⟩
      · rw [Segment.readings, split]
        simp
      · rw [net_append]
        omega

/-- Members stand where they are declared, each directly inside the braces and before the next. -/
structure Stand (lines : List Text) (className : Text) (depth : Int) (inside : List Reading)
    (members : List Declaration) (starts : List Reading) : Prop where
  declared : List.Forall₂ (DeclaredAt lines className) members starts
  direct : ∀ start ∈ starts, Direct depth inside start
  ordered : starts.Pairwise fun first second => first.place.Before second.place

variable {className : Text}

theorem Stand.nil : Stand lines className depth inside [] [] where
  declared := .nil
  direct := fun _ member => by cases member
  ordered := .nil

theorem Stand.append {members others : List Declaration} {starts further : List Reading}
    (first : Stand lines className depth inside members starts)
    (second : Stand lines className depth inside others further)
    (before : ∀ start ∈ starts, ∀ other ∈ further, start.place.Before other.place) :
    Stand lines className depth inside (members ++ others) (starts ++ further) where
  declared := List.rel_append first.declared second.declared
  direct := fun start member =>
    (List.mem_append.mp member).elim (first.direct start) (second.direct start)
  ordered := List.pairwise_append.mpr ⟨first.ordered, second.ordered, before⟩

/-- The members that begin in a segment. -/
theorem stand_membersOfSegment (opens : Lead.Opens Lead.isOpening className) (deep : Deep depth inside)
    (fuel : Nat) (there : lines[segment.line]? = some line)
    (level : segment.AtLevel depth inside line) :
    ∃ starts, Stand lines className depth inside
        ((membersOfSegment lines className fuel segment).map Located.item) starts ∧
      ∀ start ∈ starts, start.place.line = segment.line ∧ segment.start ≤ start.place.column := by
  induction fuel generalizing segment with
  | zero => exact ⟨[], .nil, fun _ member => by cases member⟩
  | succ fuel inductionHypothesis =>
      rw [membersOfSegment]
      split
      · exact ⟨[], .nil, fun _ member => by cases member⟩
      · next name named =>
          split
          · exact ⟨[], .nil, fun _ member => by cases member⟩
          · next signature complete =>
              obtain ⟨start, place, char, direct⟩ := direct_of_plain level
                (Lead.opens_of_memberName? opens named).plain
              have declared : DeclaredAt lines className
                  { name, signature := signature.text
                    documentation := Documentation.above lines segment.line } start :=
                ⟨segment, signature, ⟨line, there, level.piece⟩, ⟨named, complete, rfl, rfl⟩, place,
                  char⟩
              have first := Stand.mk (.cons declared .nil) (by simpa using direct)
                (List.pairwise_singleton _ start)
              have here : ∀ other ∈ [start], other.place.line = segment.line ∧
                  segment.start ≤ other.place.column := by
                intro other member
                rw [List.mem_singleton.mp member, place]
                exact ⟨rfl, Nat.le_add_right _ _⟩
              dsimp only
              split
              · exact ⟨[start], first, here⟩
              · next rest left =>
                  obtain ⟨sameLine, further, -⟩ :=
                    restOfSegment_shorter ⟨line, there, level.piece⟩ complete left
                  have beyond := margin_lt_start level.piece there complete left
                  obtain ⟨starts, stand, places⟩ := inductionHypothesis (sameLine ▸ there)
                    (atLevel_restOfSegment deep level there complete left)
                  refine ⟨start :: starts, first.append stand ?_, ?_⟩
                  · intro other member next later
                    obtain ⟨lower, right⟩ := places next later
                    rw [List.mem_singleton.mp member, place]
                    exact Or.inr ⟨(lower.trans sameLine).symm, Nat.lt_of_lt_of_le beyond right⟩
                  · intro other member
                    rcases List.mem_cons.mp member with rfl | later
                    · exact here other (List.mem_singleton_self other)
                    · obtain ⟨lower, right⟩ := places other later
                      exact ⟨lower.trans sameLine, by omega⟩

/-- The members of a body. -/
theorem stand_membersFrom (opens : Lead.Opens Lead.isOpening className) (deep : Deep depth inside)
    (next : Nat) {segments : List Segment}
    (increasing : segments.Pairwise fun above below => above.line < below.line)
    (levels : ∀ segment ∈ segments, ∃ line, lines[segment.line]? = some line ∧
      segment.AtLevel depth inside line) :
    ∃ starts, Stand lines className depth inside
        ((membersFrom lines className next segments).map Located.item) starts ∧
      ∀ start ∈ starts, ∃ segment ∈ segments, start.place.line = segment.line := by
  induction segments generalizing next with
  | nil => exact ⟨[], .nil, fun _ member => by cases member⟩
  | cons segment later inductionHypothesis =>
      obtain ⟨below, increasing⟩ := List.pairwise_cons.mp increasing
      have others := fun next => inductionHypothesis next increasing fun other member =>
        levels other (List.mem_cons_of_mem segment member)
      rw [membersFrom]
      split
      · obtain ⟨starts, stand, places⟩ := others next
        refine ⟨starts, stand, fun start member => ?_⟩
        obtain ⟨other, listed, line⟩ := places start member
        exact ⟨other, List.mem_cons_of_mem segment listed, line⟩
      · obtain ⟨line, there, level⟩ := levels segment List.mem_cons_self
        obtain ⟨starts, stand, places⟩ := stand_membersOfSegment opens deep (segment.text.length + 1)
          there level
        dsimp only
        generalize membersOfSegment lines className (segment.text.length + 1) segment = found at stand ⊢
        -- On which line the search goes on is of no consequence.
        have onwards (onward : Nat) : ∃ starts, Stand lines className depth inside
            ((found ++ membersFrom lines className onward later).map Located.item) starts ∧
              ∀ start ∈ starts, ∃ other ∈ segment :: later, start.place.line = other.line := by
          obtain ⟨further, rest, places'⟩ := others onward
          refine ⟨starts ++ further, ?_, ?_⟩
          · rw [List.map_append]
            refine stand.append rest fun start member other listed => ?_
            obtain ⟨lower, among, line⟩ := places' other listed
            have above := below lower among
            exact Or.inl (by rw [(places start member).1, line]; exact above)
          · intro start member
            rcases List.mem_append.mp member with first | second
            · exact ⟨segment, List.mem_cons_self, (places start first).1⟩
            · obtain ⟨other, listed, line⟩ := places' start second
              exact ⟨other, List.mem_cons_of_mem segment listed, line⟩
        exact onwards _

/-! ## Classes in braces -/

/-- A class whose body is in braces ends on the line of the brace that matches the opening one, or
on the last line if there is none; and each of its members begins in code where of the braces
opened since the class itself only its own is open. -/
theorem members_directly_inside (text : Text) {found : Located ClassDeclaration}
    (member : found ∈ locatedClasses text.lines)
    (complete : Signature.find? text.lines found.firstLine {} Signature.defaultLineLimit
      Lead.classContinuations = some signature)
    {opener : Place} (opens : signature.body = some opener) :
    Signature.OpensAt text.lines opener ∧ ∃ inside closer starts,
      Encloses 1 (ofLines opener.line {} (opener.column + 1) (text.lines.drop opener.line))
        inside closer ∧
      found.lastLine = (closer.map fun brace => brace.place.line).getD (text.lines.length - 1) ∧
      Stand text.lines found.item.name 1 inside found.item.methods starts := by
  obtain ⟨start, at?⟩ := exists_of_mem_classesFrom member
  obtain ⟨last, brace, -⟩ := Signature.opensAt_find? complete opens
  have upper := (Signature.lastLine_find? complete).2
  simp only [classAt?, Option.bind_eq_bind, Option.bind_eq_some_iff, Option.ite_none_left_eq_some,
    Option.some.injEq] at at?
  obtain ⟨line, -, -, lead, matched, name, named, signature', complete', rfl⟩ := at?
  obtain rfl : signature' = signature := Option.some.inj (complete'.symm.trans complete)
  obtain ⟨inside, closer, encloses, reads⟩ := Body.reads_bracedFrom
    (show 0 < ({ braces := 1 } : Delimiters).braces by decide) opener.line (opener.column + 1)
    (text.lines.drop opener.line)
  have levels (segment : Segment) (listed : segment ∈ (Body.braced text.lines opener).segments) :
      ∃ line, text.lines[segment.line]? = some line ∧ segment.AtLevel 1 inside line := by
    obtain ⟨lower, line, there, level⟩ := reads.segments segment listed
    rw [List.getElem?_drop, Nat.add_sub_cancel' lower] at there
    exact ⟨line, there, level⟩
  obtain ⟨starts, stand, -⟩ := stand_membersFrom (Lead.opens_className matched named) encloses.deep 0
    reads.increasing levels
  have body : classBody text.lines start signature' = Body.braced text.lines opener := by
    rw [classBody, opens]
  refine ⟨brace, inside, closer, starts, encloses, ?_, ?_⟩
  · rw [body, Body.braced, reads.lastLine, List.length_drop,
      Nat.add_sub_cancel' (by rw [last]; exact Nat.le_of_lt upper)]
  · rw [body]
    exact stand

/-- The braces in the literal and in the comment do not count, and the call is no member. -/
theorem members_directly_inside_of_line :
    let text : Text := "class A \x7b f(x) \x7b g(\"\x7d\"); /* \x7d */ \x7d h() \x7b\x7d \x7d".toList
    ∃ found ∈ locatedClasses text.lines,
      found.item.methods.map Declaration.name = ["f".toList, "h".toList] ∧ found.lastLine = 0 ∧
      Signature.OpensAt text.lines ⟨0, 8⟩ ∧ ∃ inside closer starts,
        Encloses 1 (ofLines 0 {} 9 (text.lines.drop 0)) inside closer ∧
        found.lastLine = (closer.map fun brace => brace.place.line).getD (text.lines.length - 1) ∧
        Stand text.lines "A".toList 1 inside found.item.methods starts := by
  intro text
  let methods : List Declaration :=
    [{ name := "f".toList, signature := "f(x)".toList },
      { name := "h".toList, signature := "h()".toList }]
  let found : Located ClassDeclaration :=
    ⟨{ name := "A".toList, signature := "class A".toList, methods }, 0, 0⟩
  have member : found ∈ locatedClasses text.lines := by decide +kernel
  have complete : Signature.find? text.lines found.firstLine {} Signature.defaultLineLimit
      Lead.classContinuations = some ⟨"class A".toList, 0, 0, some ⟨0, 8⟩⟩ := by decide +kernel
  exact ⟨found, member, rfl, rfl, members_directly_inside text member complete rfl⟩

end Outline
end Codemap
