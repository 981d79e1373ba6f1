import Codemap.Proofs.Source.Layout.Signature

namespace Codemap

/-!
# The outline under another layout

The bodies of two corresponding signatures have corresponding segments, so the members
found in them are the same, and so are the classes and the functions of two texts that
differ in the margins of their lines alone.  Only a body that is set off by indentation
depends on how wide the margins are, and on no more than which of two is wider.
-/

variable {lines others : List Text}

/-- The margins of any two lines with code compare in one text as in the other. -/
def SameOrder (lines others : List Text) : Prop :=
  ∀ first second, Text.isBlankText (lines.getD first []) = false →
    Text.isBlankText (lines.getD second []) = false →
    compare (Body.indent (lines.getD first [])) (Body.indent (lines.getD second [])) =
      compare (Body.indent (others.getD first [])) (Body.indent (others.getD second []))

theorem sameOrder_iff {lines others : List Text} :
    (∀ first < lines.length, ∀ second < lines.length,
      Text.isBlankText (lines.getD first []) = false →
      Text.isBlankText (lines.getD second []) = false →
      compare (Body.indent (lines.getD first [])) (Body.indent (lines.getD second [])) =
        compare (Body.indent (others.getD first [])) (Body.indent (others.getD second []))) ↔
      SameOrder lines others := by
  have inside {index : Nat} (code : Text.isBlankText (lines.getD index []) = false) :
      index < lines.length := by
    by_contra beyond
    rw [List.getD_eq_getElem?_getD, List.getElem?_eq_none (Nat.le_of_not_lt beyond)] at code
    cases code
  exact ⟨fun bounded first second code code' => bounded first (inside code) second (inside code') code code',
    fun order first _ second _ => order first second⟩

instance (lines others : List Text) : Decidable (SameOrder lines others) :=
  decidable_of_iff _ sameOrder_iff

/-- Two segments correspond. -/
structure SameSegment (lines others : List Text) (segment segment' : Segment) : Prop where
  line : segment.line = segment'.line
  start : SameStart lines others segment.line segment.start segment'.start
  stop : Option.Rel (SameColumn lines others segment.line) segment.stop segment'.stop
  piece : segment.In lines
  piece' : segment'.In others
  code : Text.isBlankText segment.text = false

/-- Two bodies correspond. -/
structure SameBody (lines others : List Text) (body body' : Body) : Prop where
  segments : List.Forall₂ (SameSegment lines others) body.segments body'.segments
  next : SameNext lines others (body.lastLine + 1) (body'.lastLine + 1)

/-- The same is found on the same line. -/
structure SameFound {α : Type} (lines others : List Text) (found found' : Located α) : Prop where
  item : found.item = found'.item
  firstLine : found.firstLine = found'.firstLine
  next : SameNext lines others (found.lastLine + 1) (found'.lastLine + 1)

/-- Lines with code lie before the next line alike. -/
theorem SameNext.lt_iff {next next' line : Nat} (nexts : SameNext lines others next next')
    (relaid : Relaid lines others) (code : ¬ Ended lines line) : line < next ↔ line < next' := by
  rcases nexts with rfl | ⟨ended, ended'⟩
  · exact Iff.rfl
  · refine ⟨fun _ => Nat.lt_of_not_le fun le => ?_, fun _ => Nat.lt_of_not_le fun le => ?_⟩
    · exact code (relaid.symm.ended (ended'.mono le))
    · exact code (ended.mono le)

/-- A column behind the margin, or the end of the line. -/
theorem stop_eq {line other : Text} {index : Nat} {stop stop' : Option Nat}
    (here : lines.getD index [] = line) (there : others.getD index [] = other)
    (same : Text.trimStart line = Text.trimStart other)
    (stops : Option.Rel (SameColumn lines others index) stop stop') :
    ∃ place, stop.getD line.length = (Text.margin line).length + place ∧
      stop'.getD other.length = (Text.margin other).length + place := by
  cases stops with
  | none =>
      refine ⟨(Text.trimStart line).length, Text.length_eq_margin_add line, ?_⟩
      rw [same]
      exact Text.length_eq_margin_add other
  | some column =>
      obtain ⟨place, rfl, rfl⟩ := column
      exact ⟨place, by rw [here]; rfl, by rw [there]; rfl⟩

/-- Pieces of corresponding lines between corresponding columns differ in the blanks at
their beginning alone. -/
theorem slice_same {line other : Text} {index start start' : Nat} {stop stop' : Option Nat}
    (here : lines.getD index [] = line) (there : others.getD index [] = other)
    (same : Text.trimStart line = Text.trimStart other)
    (starts : SameStart lines others index start start')
    (stops : Option.Rel (SameColumn lines others index) stop stop') :
    Text.trimStart (line.slice start (stop.getD line.length)) =
      Text.trimStart (other.slice start' (stop'.getD other.length)) := by
  obtain ⟨place, ends, ends'⟩ := stop_eq here there same stops
  obtain ⟨begin, at', at''⟩ := starts
  rw [here] at at'
  rw [there] at at''
  obtain ⟨blanks, blank, piece⟩ := Text.slice_trimStart at' place
  obtain ⟨blanks', blank', piece'⟩ := Text.slice_trimStart at'' place
  rw [ends, ends', piece, piece', Text.trimStart_append blank, Text.trimStart_append blank', same]

namespace SameSegment

variable {segment segment' : Segment}

/-- The texts of two segments differ in the blanks at their beginning alone. -/
theorem text (same : SameSegment lines others segment segment') (relaid : Relaid lines others) :
    Text.trimStart segment.text = Text.trimStart segment'.text := by
  obtain ⟨line, there, piece⟩ := same.piece
  obtain ⟨other, there', piece'⟩ := same.piece'
  have here := getD_of_getElem? there
  have here' := getD_of_getElem? there'
  rw [← same.line] at here'
  have alike := relaid segment.line
  rw [here, here'] at alike
  rw [piece.text, piece'.text]
  exact slice_same here here' alike same.start same.stop

/-- The line of a segment has code. -/
theorem not_ended (same : SameSegment lines others segment segment') : ¬ Ended lines segment.line := by
  intro ended
  obtain ⟨line, there, piece⟩ := same.piece
  have blank := ended.trimStart_getElem? there
  rw [← Text.isBlankText_iff, Text.isBlankText, List.all_eq_true] at blank
  have all : Text.isBlankText segment.text = true := by
    rw [piece.text, Text.isBlankText, List.all_eq_true]
    exact fun c member => blank c (List.mem_of_mem_take (List.mem_of_mem_drop member))
  rw [same.code] at all
  cases all

end SameSegment

/-! ## Bodies -/

namespace Body

/-- The segment that a line adds to a body in braces, if it adds one. -/
def segmentOn (state : Delimiters) (index offset : Nat) (line : Text) (stop : Option Nat) :
    List Segment :=
  if atMemberLevel state && !Text.isBlankText (line.slice offset (stop.getD line.length)) then
    [⟨index, offset, stop, line.slice offset (stop.getD line.length)⟩]
  else []

theorem bracedFrom_cons (state : Delimiters) (index offset : Nat) (line : Text) (later : List Text) :
    bracedFrom state index offset (line :: later) =
      let scan := state.feed line offset { atClose := true }
      match scan.halt with
      | some (_, column) => ⟨segmentOn state index offset line (some column), index⟩
      | none =>
          let below := bracedFrom scan.state (index + 1) 0 later
          ⟨segmentOn state index offset line none ++ below.segments, below.lastLine⟩ := by
  rw [bracedFrom]
  dsimp only
  cases (state.feed line offset { atClose := true }).halt <;> rfl

theorem segmentOn_same {index : Nat} {line other : Text}
    (here : lines.drop index = line :: lines.drop (index + 1))
    (there : others.drop index = other :: others.drop (index + 1))
    (same : Text.trimStart line = Text.trimStart other) (state : Delimiters)
    {start start' : Nat} (starts : SameStart lines others index start start')
    {stop stop' : Option Nat} (stops : Option.Rel (SameColumn lines others index) stop stop')
    (inside : ∀ column ∈ stop, column ≤ line.length)
    (inside' : ∀ column ∈ stop', column ≤ other.length) :
    List.Forall₂ (SameSegment lines others) (segmentOn state index start line stop)
      (segmentOn state index start' other stop') := by
  have pieces := slice_same (getD_of_drop here) (getD_of_drop there) same starts stops
  rw [segmentOn, segmentOn, isBlankText_eq_of_trimStart pieces]
  split
  · next code =>
      rw [Bool.and_eq_true, Bool.not_eq_true'] at code
      refine .cons ⟨rfl, starts, stops, ⟨line, getElem?_of_drop here, inside, rfl⟩,
        ⟨other, getElem?_of_drop there, inside', rfl⟩, ?_⟩ .nil
      rw [isBlankText_eq_of_trimStart pieces]
      exact code.2
  · exact .nil

theorem bracedFrom_of_ended {state : Delimiters} {index : Nat} {rest : List Text}
    (proper : state.Proper) (ended : ∀ line ∈ rest, Text.trimStart line = []) :
    (bracedFrom state index 0 rest).segments = [] ∧
      index ≤ (bracedFrom state index 0 rest).lastLine + 1 := by
  induction rest generalizing index with
  | nil => exact ⟨rfl, Nat.le_add_of_sub_le (Nat.le_refl (index - 1))⟩
  | cons line later inductionHypothesis =>
      obtain ⟨here, below⟩ := List.forall_mem_cons.mp ended
      obtain ⟨none, lower⟩ := @inductionHypothesis (index + 1) below
      have nothing : segmentOn state index 0 line .none = [] := by
        have whole : line.slice 0 line.length = line := by simp [Text.slice]
        simp [segmentOn, whole, Text.isBlankText_iff.mpr here]
      rw [bracedFrom_cons, feed_of_blank proper here]
      dsimp only
      rw [nothing, none]
      exact ⟨rfl, by omega⟩

/-- What is walked from a line on corresponds. -/
def BracedAlike (lines others : List Text) (index : Nat) : Prop :=
  ∀ state : Delimiters, state.Proper →
    SameBody lines others (bracedFrom state index 0 (lines.drop index))
      (bracedFrom state index 0 (others.drop index))

/-- What is walked from a column of a line on corresponds if what is walked from the next
line on does. -/
theorem bracedFrom_line {index : Nat} {line other : Text}
    (here : lines.drop index = line :: lines.drop (index + 1))
    (there : others.drop index = other :: others.drop (index + 1))
    (same : Text.trimStart line = Text.trimStart other)
    (later : BracedAlike lines others (index + 1)) {state : Delimiters} (proper : state.Proper)
    {start start' : Nat} (starts : SameStart lines others index start start') :
    SameBody lines others (bracedFrom state index start (lines.drop index))
      (bracedFrom state index start' (others.drop index)) := by
  have segments {stop stop' : Option Nat} :=
    @segmentOn_same lines others index line other here there same state start start' starts stop stop'
  obtain ⟨place, at', at''⟩ := starts
  rw [getD_of_drop here] at at'
  rw [getD_of_drop there] at at''
  obtain ⟨scan, fed, fed', proper⟩ := feed_pair proper same at' at'' { atClose := true }
  rw [here, there, bracedFrom_cons, bracedFrom_cons, fed, fed']
  cases halted : scan.halt with
  | none =>
      obtain ⟨below, next⟩ := later scan.state proper
      simp only [Scan.shift, halted, Option.map_none]
      refine ⟨List.rel_append (segments .none ?_ ?_) below, next⟩
      · exact fun column member => by cases member
      · exact fun column member => by cases member
  | some found =>
      obtain ⟨c, column⟩ := found
      have inside (line : Text) {start : Nat}
          (fed : state.feed line start { atClose := true } = scan.shift (Text.margin line).length) :
          (Text.margin line).length + column ≤ line.length := by
        have halt : (state.feed line start { atClose := true }).halt =
            some (c, (Text.margin line).length + column) := by
          rw [fed, Scan.shift, halted]
          rfl
        exact Nat.le_of_lt (Delimiters.halt_feed halt).2.2.1
      simp only [Scan.shift, halted, Option.map_some]
      refine ⟨segments (.some ⟨column, ?_, ?_⟩) ?_ ?_, Or.inl rfl⟩
      · rw [getD_of_drop here]
      · rw [getD_of_drop there]
      · rintro _ ⟨⟩
        exact inside line fed
      · rintro _ ⟨⟩
        exact inside other fed'

theorem bracedFrom_same (relaid : Relaid lines others) (index : Nat) :
    BracedAlike lines others index := by
  refine relaid.induction (fun index ended ended' state proper => ?_)
    (fun index line other _ here there same later state proper => ?_) index
  · obtain ⟨none, lower⟩ := @bracedFrom_of_ended state index _ proper ended
    obtain ⟨none', lower'⟩ := @bracedFrom_of_ended state index _ proper ended'
    refine ⟨?_, Or.inr ⟨ended.mono lower, ended'.mono lower'⟩⟩
    rw [none, none']
    exact .nil
  · exact bracedFrom_line here there same later proper (sameStart_zero index)

/-! ## Bodies set off by indentation -/

/-- The level of a body is that of a line with code, or not known yet. -/
def SameLevel (lines others : List Text) (level level' : Option Nat) : Prop :=
  level = none ∧ level' = none ∨ ∃ index, Text.isBlankText (lines.getD index []) = false ∧
    level = some (indent (lines.getD index [])) ∧ level' = some (indent (others.getD index []))

theorem indent_le_iff (order : SameOrder lines others) {first second : Nat}
    (code : Text.isBlankText (lines.getD first []) = false)
    (code' : Text.isBlankText (lines.getD second []) = false) :
    (indent (lines.getD first []) ≤ indent (lines.getD second []) ↔
      indent (others.getD first []) ≤ indent (others.getD second [])) ∧
    (indent (lines.getD first []) = indent (lines.getD second []) ↔
      indent (others.getD first []) = indent (others.getD second [])) := by
  have same := order first second code code'
  rw [← Nat.isLE_compare, ← Nat.isLE_compare, same, ← Nat.compare_eq_eq, ← Nat.compare_eq_eq, same]
  exact ⟨Iff.rfl, Iff.rfl⟩

/-- The level of a body once a line of it is known. -/
theorem SameLevel.getD {level level' : Option Nat} (same : SameLevel lines others level level')
    {index : Nat} (code : Text.isBlankText (lines.getD index []) = false) :
    ∃ first, Text.isBlankText (lines.getD first []) = false ∧
      level.getD (indent (lines.getD index [])) = indent (lines.getD first []) ∧
      level'.getD (indent (others.getD index [])) = indent (others.getD first []) := by
  rcases same with ⟨rfl, rfl⟩ | ⟨first, known, rfl, rfl⟩
  · exact ⟨index, code, rfl, rfl⟩
  · exact ⟨first, known, rfl, rfl⟩

theorem indentedFrom_of_ended {base : Nat} {level : Option Nat} {index last : Nat} {rest : List Text}
    (ended : ∀ line ∈ rest, Text.trimStart line = []) :
    indentedFrom base level index last rest = ⟨[], last⟩ := by
  induction rest generalizing index with
  | nil => rfl
  | cons line later inductionHypothesis =>
      obtain ⟨here, below⟩ := List.forall_mem_cons.mp ended
      rw [indentedFrom, if_pos (Text.isBlankText_iff.mpr here), inductionHypothesis below]

/-- What is walked from a line on below a declaration corresponds. -/
def IndentedAlike (lines others : List Text) (header index : Nat) : Prop :=
  ∀ level level' last, SameLevel lines others level level' →
    SameBody lines others
      (indentedFrom (indent (lines.getD header [])) level index last (lines.drop index))
      (indentedFrom (indent (others.getD header [])) level' index last (others.drop index))

/-- Two bodies set off by indentation correspond, if margins compare alike. -/
theorem indentedFrom_same (relaid : Relaid lines others) (order : SameOrder lines others)
    {header : Nat} (code : Text.isBlankText (lines.getD header []) = false) (index : Nat) :
    IndentedAlike lines others header index := by
  refine relaid.induction (fun index ended ended' level level' last _ => ?_)
    (fun index line other _ here there same below level level' last levels => ?_) index
  · rw [indentedFrom_of_ended ended, indentedFrom_of_ended ended']
    exact ⟨.nil, Or.inl rfl⟩
  · have first := getD_of_drop here
    have first' := getD_of_drop there
    rw [here, there, indentedFrom, indentedFrom, isBlankText_eq_of_trimStart same]
    by_cases blank : Text.isBlankText other = true
    · rw [if_pos blank, if_pos blank]
      exact below level level' last levels
    have visible : Text.isBlankText (lines.getD index []) = false := by
      rw [first, isBlankText_eq_of_trimStart same, Bool.eq_false_iff]
      exact blank
    rw [if_neg blank, if_neg blank, ← first, ← first']
    dsimp only
    by_cases left : indent (lines.getD index []) ≤ indent (lines.getD header [])
    · rw [if_pos left, if_pos ((indent_le_iff order visible code).1.mp left)]
      exact ⟨.nil, Or.inl rfl⟩
    rw [if_neg left, if_neg (mt (indent_le_iff order visible code).1.mpr left)]
    obtain ⟨member, known, level, level'⟩ := levels.getD visible
    rw [level, level']
    obtain ⟨segments, next⟩ := below (some (indent (lines.getD member [])))
      (some (indent (others.getD member []))) index (Or.inr ⟨member, known, rfl, rfl⟩)
    refine ⟨List.rel_append ?_ segments, next⟩
    have same := (indent_le_iff order visible known).2
    by_cases here' : indent (lines.getD index []) = indent (lines.getD member [])
    · rw [if_pos here', if_pos (same.mp here')]
      have piece {lines : List Text} {line : Text} (drops : lines.drop index = line :: lines.drop (index + 1)) :
          Segment.In ⟨index, 0, none, lines.getD index []⟩ lines := by
        refine ⟨line, getElem?_of_drop drops, ⟨fun column member => ?_, ?_⟩⟩
        · cases member
        rw [getD_of_drop drops]
        simp [Text.slice]
      exact .cons ⟨rfl, sameStart_zero index, .none, piece here, piece there, visible⟩ .nil
    · rw [if_neg here', if_neg (mt same.mpr here')]
      exact .nil

end Body

/-! ## Members -/

namespace Documentation

/-- The margins of the lines above a declaration do not matter. -/
theorem ofLinesAbove_map (above : List Text) :
    ofLinesAbove (above.map Text.trimStart) = ofLinesAbove above := by
  have collected (found : List Text) (above : List Text) :
      collect found (above.map Text.trimStart) = collect found above := by
    induction above generalizing found with
    | nil => rfl
    | cons line above inductionHypothesis =>
        rw [List.map_cons, collect, collect, Text.trim_trimStart, Text.isBlankText_trimStart]
        simp only [inductionHypothesis]
  have annotated : ((fun line => isAnnotation (Text.trim line)) ∘ Text.trimStart) =
      fun line => isAnnotation (Text.trim line) := by
    funext line
    exact congrArg isAnnotation (Text.trim_trimStart line)
  rw [ofLinesAbove, ofLinesAbove, List.dropWhile_map, annotated, collected]

theorem above_eq (relaid : Relaid lines others) {index : Nat} (inside : index ≤ lines.length)
    (inside' : index ≤ others.length) : above lines index = above others index := by
  have same : (lines.take index).map Text.trimStart = (others.take index).map Text.trimStart := by
    apply List.ext_getElem?
    intro line
    rw [List.getElem?_map, List.getElem?_map, List.getElem?_take, List.getElem?_take]
    split
    · next before =>
        have alike := relaid line
        rw [List.getD_eq_getElem?_getD, List.getD_eq_getElem?_getD, List.getElem?_eq_getElem (by omega),
          List.getElem?_eq_getElem (by omega)] at alike
        rw [List.getElem?_eq_getElem (by omega), List.getElem?_eq_getElem (by omega)]
        exact congrArg some alike
    · rfl
  rw [above, above, ← ofLinesAbove_map, ← ofLinesAbove_map (others.take index).reverse,
    List.map_reverse, List.map_reverse, same]

/-- The documentation above a line of both texts is the same. -/
theorem above_same (relaid : Relaid lines others) {index : Nat} (code : ¬ Ended lines index) :
    above lines index = above others index :=
  above_eq relaid (Nat.le_of_lt (relaid.inside code).1) (Nat.le_of_lt (relaid.inside code).2)

end Documentation

namespace Outline

/-- What is left of corresponding segments behind corresponding columns corresponds. -/
theorem rest_same (relaid : Relaid lines others) {segment segment' : Segment}
    (same : SameSegment lines others segment segment') {line other : Text}
    (there : lines[segment.line]? = some line) (there' : others[segment'.line]? = some other)
    {column column' : Nat} (columns : SameColumn lines others segment.line column column') :
    Option.Rel (SameSegment lines others)
      ((Delimiters.feed { braces := 1 } (line.take (segment.stop.getD line.length)) (column + 1)
        { atClose := true }).halt.bind fun (_, column) =>
          let text := (line.take (segment.stop.getD line.length)).drop (column + 1)
          if Text.isBlankText text then none else some { segment with start := column + 1, text })
      ((Delimiters.feed { braces := 1 } (other.take (segment'.stop.getD other.length)) (column' + 1)
        { atClose := true }).halt.bind fun (_, column) =>
          let text := (other.take (segment'.stop.getD other.length)).drop (column + 1)
          if Text.isBlankText text then none else some { segment' with start := column + 1, text }) := by
  have here := getD_of_getElem? there
  have here' := getD_of_getElem? there'
  rw [← same.line] at here'
  have alike := relaid segment.line
  rw [here, here'] at alike
  have stops : ∀ stop ∈ segment.stop, stop ≤ line.length := by
    rcases same.piece with ⟨whole, found, piece⟩
    rw [there, Option.some.injEq] at found
    exact found ▸ piece.stop
  have stops' : ∀ stop ∈ segment'.stop, stop ≤ other.length := by
    rcases same.piece' with ⟨whole, found, piece⟩
    rw [there', Option.some.injEq] at found
    exact found ▸ piece.stop
  obtain ⟨place, rfl, rfl⟩ := columns
  obtain ⟨cut, ends, ends'⟩ := stop_eq here here' alike same.stop
  obtain ⟨kept, margin⟩ := Text.trimStart_take line cut
  obtain ⟨kept', margin'⟩ := Text.trimStart_take other cut
  rw [← ends] at kept margin
  rw [← ends'] at kept' margin'
  rw [here, here']
  have begins : Text.At (line.take (segment.stop.getD line.length))
      ((Text.margin line).length + place + 1) (place + 1) := Or.inr ⟨place, by rw [margin]; rfl, rfl⟩
  have begins' : Text.At (other.take (segment'.stop.getD other.length))
      ((Text.margin other).length + place + 1) (place + 1) := Or.inr ⟨place, by rw [margin']; rfl, rfl⟩
  obtain ⟨scan, fed, fed', -⟩ := feed_pair (Delimiters.proper_braces 1)
    (by rw [kept, kept', alike]) begins begins'
    { atClose := true }
  rw [fed, fed', Scan.shift, Scan.shift, margin, margin']
  cases scan.halt with
  | none => exact .none
  | some halted =>
      obtain ⟨c, column⟩ := halted
      dsimp only [Option.map_some, Option.bind_some]
      have text : (line.take (segment.stop.getD line.length)).drop
          ((Text.margin line).length + column + 1) =
            (other.take (segment'.stop.getD other.length)).drop
              ((Text.margin other).length + column + 1) := by
        rw [Nat.add_assoc, Nat.add_assoc, ← margin, ← margin', Text.drop_margin_add,
          Text.drop_margin_add, kept, kept', alike]
      have columns : SameColumn lines others segment.line ((Text.margin line).length + column)
          ((Text.margin other).length + column) := ⟨column, by rw [here], by rw [here']⟩
      by_cases blank : Text.isBlankText ((line.take (segment.stop.getD line.length)).drop
          ((Text.margin line).length + column + 1)) = true
      · rw [if_pos blank, if_pos (text ▸ blank)]
        exact .none
      · rw [if_neg blank, if_neg (text ▸ blank)]
        refine .some ⟨same.line, columns.start, same.stop, ⟨line, there, stops, rfl⟩,
          ⟨other, there', stops', rfl⟩, ?_⟩
        exact Bool.eq_false_iff.mpr blank

/-- What is left of two corresponding segments after corresponding members corresponds. -/
theorem restOfSegment_same (relaid : Relaid lines others) {segment segment' : Segment}
    (same : SameSegment lines others segment segment') {signature signature' : Signature}
    (signatures : SameSignature lines others signature signature') :
    Option.Rel (SameSegment lines others) (restOfSegment lines segment signature)
      (restOfSegment others segment' signature') := by
  obtain ⟨line, there, -⟩ := same.piece
  obtain ⟨other, there', -⟩ := same.piece'
  cases opens : signature.body with
  | none =>
      rw [restOfSegment, restOfSegment, opens, eq_none_of_rel signatures.body opens]
      exact .none
  | some place =>
      obtain ⟨place', opens', places⟩ := exists_of_rel signatures.body opens
      by_cases here : place.line = segment.line
      · have here' : place'.line = segment'.line := by rw [← places.line, here, same.line]
        rw [restOfSegment_eq opens here there, restOfSegment_eq opens' here' there']
        exact rest_same relaid same there there' (here ▸ places.column)
      · have here' : ¬ place'.line = segment'.line := by rwa [← places.line, ← same.line]
        rw [restOfSegment, restOfSegment, opens, opens']
        simp only [ne_eq, here, here', not_false_eq_true, if_true]
        exact .none

/-- The members that begin in two corresponding segments are the same.  The lengths of the
two segments bound their numbers, and may differ. -/
theorem membersOfSegment_same (relaid : Relaid lines others) (className : Text) {fuel fuel' : Nat}
    {segment segment' : Segment} (same : SameSegment lines others segment segment')
    (enough : segment.text.length < fuel) (enough' : segment'.text.length < fuel') :
    List.Forall₂ (SameFound lines others) (membersOfSegment lines className fuel segment)
      (membersOfSegment others className fuel' segment') := by
  induction fuel generalizing fuel' segment segment' with
  | zero => cases enough
  | succ fuel inductionHypothesis =>
      cases fuel' with
      | zero => cases enough'
      | succ fuel' =>
          have code := same.not_ended
          have documented := Documentation.above_same relaid code
          have signatures := Signature.find?_same relaid code ⟨segment.start, segment.stop⟩
            ⟨segment'.start, segment'.stop⟩ same.start same.stop Signature.defaultLineLimit []
          rw [same.line] at documented
          rw [membersOfSegment, membersOfSegment, trim_eq_of_trimStart (same.text relaid)]
          cases memberName? className (Text.trim segment'.text) with
          | none => exact .nil
          | some name =>
              dsimp only
              cases complete : Signature.find? lines segment.line ⟨segment.start, segment.stop⟩
                  Signature.defaultLineLimit [] with
              | none =>
                  rw [← same.line, eq_none_of_rel signatures complete]
                  exact .nil
              | some signature =>
                  obtain ⟨signature', complete', signatures⟩ := exists_of_rel signatures complete
                  rw [same.line] at complete'
                  rw [complete', same.line, documented]
                  dsimp only
                  rw [signatures.text]
                  have rests := restOfSegment_same relaid same signatures
                  cases left : restOfSegment lines segment signature with
                  | none =>
                      rw [eq_none_of_rel rests left]
                      exact .cons ⟨rfl, rfl, signatures.next⟩ .nil
                  | some rest =>
                      obtain ⟨rest', left', rests⟩ := exists_of_rel rests left
                      obtain ⟨-, -, -, fewer⟩ := restOfSegment_shorter same.piece complete left
                      obtain ⟨-, -, -, fewer'⟩ := restOfSegment_shorter same.piece' complete' left'
                      rw [left']
                      exact .cons ⟨rfl, rfl, signatures.next⟩
                        (inductionHypothesis rests (by omega) (by omega))

theorem getLast?_forall₂ {α β : Type} {related : α → β → Prop} {first : List α} {second : List β}
    (same : List.Forall₂ related first second) : Option.Rel related first.getLast? second.getLast? := by
  rw [List.getLast?_eq_head?_reverse, List.getLast?_eq_head?_reverse]
  have reversed := List.forall₂_reverse_iff.mpr same
  generalize first.reverse = first at reversed
  generalize second.reverse = second at reversed
  cases reversed with
  | nil => exact .none
  | cons here _ => exact .some here

/-- The members of two corresponding bodies are the same. -/
theorem membersFrom_same (relaid : Relaid lines others) (className : Text) {next next' : Nat}
    (nexts : SameNext lines others next next') {segments segments' : List Segment}
    (same : List.Forall₂ (SameSegment lines others) segments segments') :
    List.Forall₂ (SameFound lines others) (membersFrom lines className next segments)
      (membersFrom others className next' segments') := by
  induction same generalizing next next' with
  | nil => exact .nil
  | @cons segment segment' later later' here below inductionHypothesis =>
      have skips : segment.line < next ↔ segment'.line < next' := by
        rw [← here.line]
        exact nexts.lt_iff relaid here.not_ended
      rw [membersFrom, membersFrom]
      by_cases skip : segment.line < next
      · rw [if_pos skip, if_pos (skips.mp skip)]
        exact inductionHypothesis nexts
      · rw [if_neg skip, if_neg (mt skips.mpr skip)]
        have found := membersOfSegment_same relaid className here (Nat.lt_add_one _) (Nat.lt_add_one _)
        refine List.rel_append found (inductionHypothesis ?_)
        have last := getLast?_forall₂ found
        generalize (membersOfSegment lines className _ segment).getLast? = reached at last
        generalize (membersOfSegment others className _ segment').getLast? = reached' at last
        cases last with
        | none => exact nexts
        | some last => exact last.next

/-- What is found alike is the same. -/
theorem items_eq {α : Type} {found found' : List (Located α)}
    (same : List.Forall₂ (SameFound lines others) found found') :
    found.map Located.item = found'.map Located.item := by
  induction same with
  | nil => rfl
  | cons here _ inductionHypothesis =>
      rw [List.map_cons, List.map_cons, here.item, inductionHypothesis]

/-! ## Bodies of declarations -/

/-- The line that holds a brace has code. -/
theorem not_ended_of_opensAt {place : Place} (opens : Signature.OpensAt lines place) :
    ¬ Ended lines place.line := by
  obtain ⟨line, there, brace⟩ := opens
  intro ended
  have blank := Text.isBlankText_iff.mpr (ended.trimStart_getElem? there)
  rw [Signature.not_blank_of_brace brace] at blank
  cases blank

/-- The bodies after two corresponding signatures correspond.  If the signatures end in a
colon, the margins of the two texts must compare alike. -/
theorem classBody_same (relaid : Relaid lines others) {index : Nat}
    (code : Text.isBlankText (lines.getD index []) = false) {signature signature' : Signature}
    (same : SameSignature lines others signature signature')
    (opens : ∀ place, signature.body = some place → Signature.OpensAt lines place)
    (steady : [':'].isSuffixOf signature.text = true → SameOrder lines others) :
    SameBody lines others (classBody lines index signature) (classBody others index signature') := by
  rw [classBody, classBody]
  cases opener : signature.body with
  | none =>
      rw [eq_none_of_rel same.body opener, ← same.text]
      dsimp only
      split
      · next colon =>
          rw [Body.indented, Body.indented]
          rcases same.next with last | ⟨ended, ended'⟩
          · rw [← Nat.succ.inj last]
            exact Body.indentedFrom_same relaid (steady colon) code _ none none _
              (Or.inl ⟨rfl, rfl⟩)
          · rw [Body.indentedFrom_of_ended ended, Body.indentedFrom_of_ended ended']
            exact ⟨.nil, same.next⟩
      · exact ⟨.nil, same.next⟩
  | some place =>
      obtain ⟨place', opener', places⟩ := exists_of_rel same.body opener
      rw [opener']
      dsimp only
      rcases relaid.ended_or place.line with ⟨ended, -⟩ | ⟨-, line, other, here, there, alike⟩
      · exact absurd ended (not_ended_of_opensAt (opens place opener))
      · rw [Body.braced, Body.braced, ← places.line]
        exact Body.bracedFrom_line here there alike (Body.bracedFrom_same relaid _)
          (Delimiters.proper_braces 1) places.column.start

/-! ## Classes -/

/-- A line whose trimmed text is not empty is not blank in the other text either. -/
theorem visible_of_trim {index : Nat} {line other : Text} {rest : List Text}
    (here : lines.drop index = line :: rest) (same : Text.trimStart line = Text.trimStart other)
    (visible : Text.trim other ≠ []) : Text.isBlankText (lines.getD index []) = false := by
  rw [getD_of_drop here, isBlankText_eq_of_trimStart same, Bool.eq_false_iff]
  intro blank
  exact visible (trim_of_blank (Text.isBlankText_iff.mp blank))

/-- The class on a line of both texts is the same. -/
theorem classAt?_same (relaid : Relaid lines others) {index : Nat} (code : ¬ Ended lines index)
    (steady : ∀ found, classAt? lines index = some found →
      [':'].isSuffixOf found.item.signature = true → SameOrder lines others) :
    Option.Rel (SameFound lines others) (classAt? lines index) (classAt? others index) := by
  rcases relaid.ended_or index with ⟨ended, -⟩ | ⟨-, line, other, here, there, same⟩
  · exact absurd ended code
  have documented := Documentation.above_same relaid code
  have signatures := Signature.find?_same relaid code {} {} (sameStart_zero index) .none
    Signature.defaultLineLimit Lead.classContinuations
  rw [classAt?, getElem?_of_drop here] at steady
  rw [classAt?, classAt?, getElem?_of_drop here, getElem?_of_drop there]
  simp only [Option.bind_eq_bind, Option.bind_some, trim_eq_of_trimStart same] at steady ⊢
  by_cases comment : Documentation.isCommentLine (Text.trim other) = true
  · rw [if_pos comment, if_pos comment]
    exact .none
  rw [if_neg comment] at steady
  rw [if_neg comment, if_neg comment]
  cases matched : Lead.classLead.matchStart? (Text.trim other) with
  | none => exact .none
  | some lead =>
      rw [matched] at steady
      simp only [Option.bind_some] at steady ⊢
      cases named : lead.group? Lead.nameGroup with
      | none => exact .none
      | some name =>
          rw [named] at steady
          simp only [Option.bind_some] at steady ⊢
          have visible : Text.isBlankText (lines.getD index []) = false := by
            refine visible_of_trim here same fun empty => ?_
            rw [empty, classLead_nil] at matched
            cases matched
          cases complete : Signature.find? lines index {} Signature.defaultLineLimit
              Lead.classContinuations with
          | none =>
              rw [eq_none_of_rel signatures complete]
              exact .none
          | some signature =>
              obtain ⟨signature', complete', signatures⟩ := exists_of_rel signatures complete
              rw [complete] at steady
              rw [complete']
              have body := classBody_same relaid visible signatures
                (fun place opens => (Signature.opensAt_find? complete opens).2.1)
                fun colon => steady _ rfl colon
              have members := membersFrom_same relaid name (Or.inl rfl : SameNext lines others 0 0)
                body.segments
              refine .some ⟨?_, rfl, body.next⟩
              simp only [signatures.text, documented, items_eq members]

theorem classAt?_of_ended {index : Nat} (ended : Ended lines index) : classAt? lines index = none := by
  cases there : lines[index]? with
  | none => rw [classAt?, there]; rfl
  | some line => exact classAt?_of_blank there (trim_of_blank (ended.trimStart_getElem? there))

theorem classesFrom_of_ended {fuel index : Nat} (ended : Ended lines index) :
    classesFrom lines fuel index = [] := by
  induction fuel generalizing index with
  | zero => rfl
  | succ fuel inductionHypothesis =>
      rw [classesFrom, classAt?_of_ended ended]
      split
      · rfl
      · exact inductionHypothesis (ended.mono (Nat.le_succ index))

/-- The classes from a line of both texts on are the same. -/
theorem classesFrom_same (relaid : Relaid lines others) {fuel fuel' index : Nat}
    (enough : lines.length ≤ index + fuel) (enough' : others.length ≤ index + fuel')
    (steady : ∀ found ∈ classesFrom lines fuel index,
      [':'].isSuffixOf found.item.signature = true → SameOrder lines others) :
    List.Forall₂ (SameFound lines others) (classesFrom lines fuel index)
      (classesFrom others fuel' index) := by
  induction fuel generalizing fuel' index with
  | zero =>
      have ended : Ended lines index := Ended.of_length_le enough
      rw [classesFrom_of_ended (relaid.ended ended)]
      exact .nil
  | succ fuel inductionHypothesis =>
      by_cases code : Ended lines index
      · rw [classesFrom_of_ended code, classesFrom_of_ended (relaid.ended code)]
        exact .nil
      obtain ⟨inside, inside'⟩ := relaid.inside code
      cases fuel' with
      | zero => omega
      | succ fuel' =>
          rw [classesFrom, if_neg (Nat.not_le_of_lt inside)] at steady
          rw [classesFrom, classesFrom, if_neg (Nat.not_le_of_lt inside),
            if_neg (Nat.not_le_of_lt inside')]
          have at? := classAt?_same relaid code fun found at? =>
            steady found (by rw [at?]; exact List.mem_cons_self)
          cases one : classAt? lines index with
          | none =>
              rw [one] at steady
              rw [eq_none_of_rel at? one]
              exact inductionHypothesis (by omega) (by omega) steady
          | some found =>
              obtain ⟨found', two, same⟩ := exists_of_rel at? one
              have span := (classAt?_within one).2.1
              have span' := (classAt?_within two).2.1
              rw [one] at steady
              dsimp only at steady
              rw [Nat.max_eq_left span] at steady
              obtain ⟨-, later⟩ := List.forall_mem_cons.mp steady
              rw [two]
              dsimp only
              rw [Nat.max_eq_left span, Nat.max_eq_left span']
              refine .cons same ?_
              rcases same.next with next | ⟨ended, ended'⟩
              · rw [← next]
                exact inductionHypothesis (by omega) (by omega) later
              · rw [classesFrom_of_ended ended, classesFrom_of_ended ended']
                exact .nil

/-! ## The lines without the classes -/

theorem getD_withoutClasses (lines : List Text) (classes : List (Located ClassDeclaration))
    (index : Nat) :
    (withoutClasses lines classes).getD index [] =
      if classes.any fun found => Located.covers found index then [] else lines.getD index [] := by
  rw [List.getD_eq_getElem?_getD, List.getD_eq_getElem?_getD, withoutClasses, List.getElem?_mapIdx]
  cases lines[index]? with
  | none => exact (ite_self _).symm
  | some line => rfl

/-- Lines with code belong to the same classes. -/
theorem covers_same (relaid : Relaid lines others) {classes classes' : List (Located ClassDeclaration)}
    (same : List.Forall₂ (SameFound lines others) classes classes') {index : Nat}
    (code : ¬ Ended lines index) :
    (classes.any fun found => Located.covers found index) =
      classes'.any fun found => Located.covers found index := by
  induction same with
  | nil => rfl
  | cons here _ inductionHypothesis =>
      have last := here.next.lt_iff relaid code
      rw [Nat.lt_add_one_iff, Nat.lt_add_one_iff] at last
      rw [List.any_cons, List.any_cons, inductionHypothesis, Located.covers, Located.covers,
        here.firstLine, decide_eq_decide.mpr last]

theorem not_ended_of_code {index : Nat} (code : Text.isBlankText (lines.getD index []) = false) :
    ¬ Ended lines index := by
  intro ended
  rw [Text.isBlankText_iff.mpr (ended.trimStart_getD (Nat.le_refl index))] at code
  cases code

theorem withoutClasses_same (relaid : Relaid lines others)
    {classes classes' : List (Located ClassDeclaration)}
    (same : List.Forall₂ (SameFound lines others) classes classes') :
    Relaid (withoutClasses lines classes) (withoutClasses others classes') := by
  intro index
  rw [getD_withoutClasses, getD_withoutClasses]
  cases code : Text.isBlankText (lines.getD index []) with
  | true =>
      have blank := Text.isBlankText_iff.mp code
      have blank' := (relaid index).symm.trans blank
      have empty (covered : Bool) {line : Text} (blank : Text.trimStart line = []) :
          Text.trimStart (if covered then [] else line) = [] := by
        cases covered
        · exact blank
        · rfl
      rw [empty _ blank, empty _ blank']
  | false =>
      rw [covers_same relaid same (not_ended_of_code code)]
      split
      · rfl
      · exact relaid index

theorem withoutClasses_order (relaid : Relaid lines others) (order : SameOrder lines others)
    {classes classes' : List (Located ClassDeclaration)}
    (same : List.Forall₂ (SameFound lines others) classes classes') :
    SameOrder (withoutClasses lines classes) (withoutClasses others classes') := by
  have kept {index : Nat} (code : Text.isBlankText ((withoutClasses lines classes).getD index []) = false) :
      (withoutClasses lines classes).getD index [] = lines.getD index [] ∧
        (withoutClasses others classes').getD index [] = others.getD index [] := by
    rw [getD_withoutClasses] at code
    rw [getD_withoutClasses, getD_withoutClasses]
    split at code
    · cases code
    · next free =>
        rw [if_neg free, ← covers_same relaid same (not_ended_of_code code), if_neg free]
        exact ⟨rfl, rfl⟩
  intro first second code code'
  rw [(kept code).1, (kept code).2, (kept code').1, (kept code').2]
  rw [(kept code).1] at code
  rw [(kept code').1] at code'
  exact order first second code code'

/-! ## Functions -/

section Functions

variable {whole whole' : List Text}

/-- The function on a line of both texts is the same. -/
theorem functionAt?_same (relaid : Relaid lines others) {index : Nat} (code : ¬ Ended lines index)
    (documented : Documentation.above whole index = Documentation.above whole' index)
    (steady : ∀ found, functionAt? whole lines index = some found →
      [':'].isSuffixOf found.item.signature = true → SameOrder lines others) :
    Option.Rel (SameFound lines others) (functionAt? whole lines index)
      (functionAt? whole' others index) := by
  rcases relaid.ended_or index with ⟨ended, -⟩ | ⟨-, line, other, here, there, same⟩
  · exact absurd ended code
  have signatures := Signature.find?_same relaid code {} {} (sameStart_zero index) .none
    Signature.defaultLineLimit []
  rw [functionAt?, getElem?_of_drop here] at steady
  rw [functionAt?, functionAt?, getElem?_of_drop here, getElem?_of_drop there]
  simp only [Option.bind_eq_bind, Option.bind_some, trim_eq_of_trimStart same] at steady ⊢
  by_cases passed : ((Text.trim other).isEmpty || Documentation.isCommentLine (Text.trim other)) = true
  · rw [if_pos passed, if_pos passed]
    exact .none
  rw [if_neg passed] at steady
  rw [if_neg passed, if_neg passed]
  have visible : Text.isBlankText (lines.getD index []) = false :=
    visible_of_trim here same fun empty => passed (by rw [empty]; rfl)
  cases named : candidate? (Text.trim other) with
  | none => exact .none
  | some candidate =>
      rw [named] at steady
      simp only [Option.bind_some] at steady ⊢
      cases complete : Signature.find? lines index {} Signature.defaultLineLimit [] with
      | none =>
          rw [eq_none_of_rel signatures complete]
          exact .none
      | some signature =>
          obtain ⟨signature', complete', signatures⟩ := exists_of_rel signatures complete
          rw [complete] at steady
          rw [complete']
          simp only [Option.bind_some] at steady ⊢
          rw [← signatures.hasBody, ← signatures.text]
          by_cases declares : (candidate.declared || signature.hasBody ||
              signature.text.endsWithAny [":".toList, "=>".toList]) = true
          · rw [if_pos declares] at steady
            rw [if_pos declares, if_pos declares]
            have body := classBody_same relaid visible signatures
              (fun place opens => (Signature.opensAt_find? complete opens).2.1)
              fun colon => steady _ rfl colon
            exact .some ⟨by rw [documented], rfl, body.next⟩
          · rw [if_neg declares, if_neg declares]
            exact .none

theorem functionAt?_of_ended {index : Nat} (ended : Ended lines index) :
    functionAt? whole lines index = none := by
  cases there : lines[index]? with
  | none => rw [functionAt?, there]; rfl
  | some line => exact functionAt?_of_blank there (trim_of_blank (ended.trimStart_getElem? there))

theorem functionsFrom_of_ended {fuel index : Nat} (ended : Ended lines index) :
    functionsFrom whole lines fuel index = [] := by
  induction fuel generalizing index with
  | zero => rfl
  | succ fuel inductionHypothesis =>
      rw [functionsFrom, functionAt?_of_ended ended]
      split
      · rfl
      · exact inductionHypothesis (ended.mono (Nat.le_succ index))

/-- The functions from a line of both texts on are the same. -/
theorem functionsFrom_same (relaid : Relaid lines others) {fuel fuel' index : Nat}
    (enough : lines.length ≤ index + fuel) (enough' : others.length ≤ index + fuel')
    (documented : ∀ index, index < lines.length → index < others.length →
      Documentation.above whole index = Documentation.above whole' index)
    (steady : ∀ found ∈ functionsFrom whole lines fuel index,
      [':'].isSuffixOf found.item.signature = true → SameOrder lines others) :
    List.Forall₂ (SameFound lines others) (functionsFrom whole lines fuel index)
      (functionsFrom whole' others fuel' index) := by
  induction fuel generalizing fuel' index with
  | zero =>
      have ended : Ended lines index := Ended.of_length_le enough
      rw [functionsFrom_of_ended (relaid.ended ended)]
      exact .nil
  | succ fuel inductionHypothesis =>
      by_cases code : Ended lines index
      · rw [functionsFrom_of_ended code, functionsFrom_of_ended (relaid.ended code)]
        exact .nil
      obtain ⟨inside, inside'⟩ := relaid.inside code
      cases fuel' with
      | zero => omega
      | succ fuel' =>
          rw [functionsFrom, if_neg (Nat.not_le_of_lt inside)] at steady
          rw [functionsFrom, functionsFrom, if_neg (Nat.not_le_of_lt inside),
            if_neg (Nat.not_le_of_lt inside')]
          have at? := functionAt?_same relaid code (documented index inside inside') fun found at? =>
            steady found (by rw [at?]; exact List.mem_cons_self)
          cases one : functionAt? whole lines index with
          | none =>
              rw [one] at steady
              rw [eq_none_of_rel at? one]
              exact inductionHypothesis (by omega) (by omega) steady
          | some found =>
              obtain ⟨found', two, same⟩ := exists_of_rel at? one
              have span := (functionAt?_within one).2.1
              rw [one] at steady
              obtain ⟨-, later⟩ := List.forall_mem_cons.mp steady
              rw [two]
              refine .cons same ?_
              rcases same.next with next | ⟨ended, ended'⟩
              · rw [← next]
                exact inductionHypothesis (by omega) (by omega) later
              · rw [functionsFrom_of_ended ended, functionsFrom_of_ended ended']
                exact .nil

end Functions

/-! ## The outline -/

/-- Two texts whose lines differ in their margins alone have the same outline, if no
signature that is found in the one ends in a colon, or if the margins of any two lines with
code compare in the other as they do in the one. -/
theorem ofText_eq_of_relaid (text other : Text) (relaid : Relaid text.lines other.lines)
    (steady : (∀ found ∈ (ofText text).classes, ¬ [':'].isSuffixOf found.signature) ∧
        (∀ found ∈ (ofText text).functions, ¬ [':'].isSuffixOf found.signature) ∨
      SameOrder text.lines other.lines) :
    ofText text = ofText other := by
  have classes : List.Forall₂ (SameFound text.lines other.lines) (locatedClasses text.lines)
      (locatedClasses other.lines) := by
    refine classesFrom_same relaid (by omega) (by omega) fun found member ends => ?_
    rcases steady with ⟨free, -⟩ | order
    · exact absurd ends (free found.item (List.mem_map_of_mem member))
    · exact order
  have functions := @functionsFrom_same _ _ text.lines other.lines
    (withoutClasses_same relaid classes) text.lines.length other.lines.length 0 (by simp) (by simp)
    (fun index inside inside' => Documentation.above_eq relaid (by simp at inside; omega)
      (by simp at inside'; omega)) fun found member ends => by
        rcases steady with ⟨-, free⟩ | order
        · exact absurd ends (free found.item (List.mem_map_of_mem member))
        · exact withoutClasses_order relaid order classes
  rw [ofText, ofText, locatedFunctions, locatedFunctions]
  simp only [items_eq classes, items_eq functions]

/-- Spaces may be written as tabs, and a last line of blanks may come. -/
theorem ofText_of_tabs :
    let text : Text := "class A:\n  def f(self):\n    pass\n\ndef g():\n  pass\n".toList
    let other : Text := "class A:\n\tdef f(self):\n\t\tpass\n  \ndef g():\n\tpass\n ".toList
    Relaid text.lines other.lines ∧ SameOrder text.lines other.lines ∧ ofText text = ofText other :=
  ⟨by decide +kernel, by decide +kernel, ofText_eq_of_relaid _ _ (by decide +kernel) (Or.inr (by decide +kernel))⟩

end Outline
end Codemap
