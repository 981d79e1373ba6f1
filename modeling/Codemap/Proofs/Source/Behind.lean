import Codemap.Proofs.Source.Ending

namespace Codemap

/-!
# What stands behind a signature

A search that stops at a brace or a semicolon has read the text up to that character.  What stands
behind it plays no part: neither the rest of the line nor the lines below, nor how many there are.
A search does look ahead, at the character behind a slash or a hash sign, over blank lines, and at
the word with which the next line begins.  But it goes on until it stops, so all of this lies
before the place where it will stop, as long as no continuation word holds a brace or a semicolon.
So two texts that agree up to that place have the same signature there, and no change of a body or
of later code changes the signature of a declaration.
-/

namespace Delimiters

variable {stops : Stops} {state : Delimiters} {inert : Bool} {before : Option Char} {column : Nat}
  {front tail tail' : Text} {c : Char}

/-- A scan stops at a character whatever comes behind it. -/
theorem move_of_halt {rest : Text} {after : Delimiters}
    (halts : move stops state before c rest = .halt after) (other : Text) :
    move stops state before c other = .halt after := by
  have plain : c ≠ '*' ∧ c ≠ '/' ∧ c ≠ '#' := by
    rcases move_eq_halt halts with ⟨-, rfl | rfl⟩ | ⟨-, rfl⟩ <;> decide
  rw [← halts]
  simp [move, plain]

/-- A scan that stops behind some text does not read further. -/
theorem feedFrom_behind {d : Char}
    (halted : (feedFrom stops state inert before column (front ++ c :: tail)).halt =
      some (d, column + front.length)) (tail' : Text) :
    feedFrom stops state inert before column (front ++ c :: tail') =
      feedFrom stops state inert before column (front ++ c :: tail) := by
  induction front generalizing state inert before column with
  | nil =>
      -- A stop further to the right would be at another column.
      have further {next : Delimiters} {inert : Bool} {previous : Option Char} :
          (feedFrom stops next inert previous (column + 1) tail).halt ≠ some (d, column) := by
        intro halted
        obtain ⟨-, skipped, -, -, same⟩ := halt_feedFrom halted
        omega
      rw [List.nil_append] at halted
      cases inert with
      | true =>
          rw [feedFrom_inert] at halted
          exact absurd halted further
      | false =>
          rw [feedFrom_cons] at halted
          rw [List.nil_append, List.nil_append, feedFrom_cons, feedFrom_cons]
          cases moved : move stops state before c tail with
          | onward next inert =>
              rw [moved] at halted
              exact absurd halted further
          | comment =>
              rw [moved] at halted
              cases halted
          | halt after => rw [move_of_halt moved tail']
  | cons first front inductionHypothesis =>
      rw [List.cons_append] at halted
      rw [List.length_cons, ← Nat.add_assoc, Nat.add_right_comm] at halted
      rw [List.cons_append, List.cons_append]
      cases inert with
      | true =>
          rw [feedFrom_inert] at halted
          rw [feedFrom_inert, feedFrom_inert]
          exact inductionHypothesis halted
      | false =>
          have next : (front ++ c :: tail').head? = (front ++ c :: tail).head? := by
            cases front <;> rfl
          rw [feedFrom_cons] at halted
          rw [feedFrom_cons, feedFrom_cons, move_congr first next]
          cases moved : move stops state before first (front ++ c :: tail) with
          | onward next inert =>
              rw [moved] at halted
              exact inductionHypothesis halted
          | comment => rfl
          | halt after => rfl

theorem feed_behind {start : Nat} {d : Char}
    (halted : (state.feed (front ++ c :: tail) start stops).halt = some (d, front.length))
    (tail' : Text) :
    state.feed (front ++ c :: tail') start stops = state.feed (front ++ c :: tail) start stops := by
  obtain ⟨-, reached, -, -⟩ := halt_feed halted
  have rest (tail : Text) : (front ++ c :: tail).drop start = front.drop start ++ c :: tail :=
    List.drop_append_of_le_length reached
  have same : beforeColumn (front ++ c :: tail') start = beforeColumn (front ++ c :: tail) start := by
    rw [beforeColumn, beforeColumn,
      List.drop_append_of_le_length (Nat.sub_le_of_le_add (Nat.le_succ_of_le reached)),
      List.drop_append_of_le_length (Nat.sub_le_of_le_add (Nat.le_succ_of_le reached))]
    cases front.drop (start - 1) <;> rfl
  rw [feed_beforeColumn, rest] at halted
  rw [feed_beforeColumn, feed_beforeColumn, rest, rest, same]
  refine feedFrom_behind (d := d) ?_ tail'
  rw [halted, List.length_drop, Nat.add_sub_cancel' reached]

end Delimiters

namespace Signature

variable {words parts above below below' : List Text} {front tail tail' : Text} {c d : Char}
  {index budget budget' offset : Nat} {state : Delimiters} {skipping : Bool} {ending : Ending}

/-! ## The looks ahead -/

/-- Whether a line begins with a word is seen before a character that is in no word. -/
theorem startsWithWord_behind (plain : ∀ word ∈ words, c ∉ word) (visible : isBlank c = false)
    (front tail tail' : Text) :
    startsWithWord words (front ++ c :: tail') = startsWithWord words (front ++ c :: tail) := by
  rw [startsWithWord, startsWithWord, Text.trimStart_append_cons visible,
    Text.trimStart_append_cons visible, Bool.eq_iff_iff, List.any_eq_true, List.any_eq_true]
  refine exists_congr fun word => and_congr_right fun member => ?_
  rw [Bool.and_eq_true, Bool.and_eq_true, List.isPrefixOf_iff_prefix, List.isPrefixOf_iff_prefix,
    Text.prefix_append_of_notMem (plain word member),
    Text.prefix_append_of_notMem (plain word member)]
  refine and_congr_right fun begins => ?_
  obtain ⟨rest, whole⟩ := begins
  rw [← whole, List.append_assoc, List.append_assoc, List.drop_left, List.drop_left]
  cases rest <;> exact Iff.rfl

theorem isBlankText_behind (visible : isBlank c = false) (front tail : Text) :
    Text.isBlankText (front ++ c :: tail) = false := by
  simp [Text.isBlankText, visible]

theorem continuesWith_behind (plain : ∀ word ∈ words, c ∉ word) (visible : isBlank c = false)
    (parts above below below' : List Text) (front tail tail' : Text) :
    continuesWith words parts (above ++ (front ++ c :: tail') :: below') =
      continuesWith words parts (above ++ (front ++ c :: tail) :: below) := by
  have here (tail : Text) (below : List Text) :
      ((front ++ c :: tail) :: below).dropWhile Text.isBlankText = (front ++ c :: tail) :: below :=
    List.dropWhile_cons_of_neg (by simp [isBlankText_behind visible])
  rw [continuesWith, continuesWith, List.dropWhile_append, List.dropWhile_append, here, here]
  cases above.dropWhile Text.isBlankText with
  | nil => simp only [List.isEmpty_nil, if_true, startsWithWord_behind plain visible front tail tail']
  | cons line later => rfl

theorem goesOn_behind (plain : ∀ word ∈ words, c ∉ word) (visible : isBlank c = false)
    (more : budget ≠ 0) (more' : budget' ≠ 0) (ending : Ending) (above below below' : List Text)
    (front tail tail' : Text) :
    goesOn words budget' { ending with later := above ++ (front ++ c :: tail') :: below' } =
      goesOn words budget { ending with later := above ++ (front ++ c :: tail) :: below } := by
  rw [goesOn, goesOn, bne_iff_ne.mpr more, bne_iff_ne.mpr more',
    continuesWith_behind plain visible _ above below below' front tail tail']
  rfl

/-! ## The search -/

/-- A search that stops at a character does not read what stands behind it, and any number of lines
that reaches down to it is enough. -/
theorem ending?_behind (plain : ∀ word ∈ words, c ∉ word) (visible : isBlank c = false)
    (ends : ending? words state parts index budget offset skipping
      (above ++ (front ++ c :: tail) :: below) = some ending)
    (here : ending.index = index + above.length)
    (halted : ending.scan.halt = some (d, front.length)) (room : above.length ≤ budget')
    (tail' : Text) (below' : List Text) :
    ending.line = front ++ c :: tail ∧
      ending? words state parts index budget' offset skipping
        (above ++ (front ++ c :: tail') :: below') =
        some { ending with line := front ++ c :: tail', later := below' } := by
  have last := (endsIn_of_ending? ends).upper
  induction above generalizing state parts index budget budget' offset skipping with
  | nil =>
      have shown (skipping : Bool) (budget : Nat) (tail : Text) :
          ¬ (skipping && budget != 0 && Text.isBlankText (front ++ c :: tail)) = true := by
        simp [isBlankText_behind visible]
      rw [List.nil_append, ending?, if_neg (shown _ _ _)] at ends
      rw [List.nil_append, ending?, if_neg (shown _ _ _)]
      dsimp only at ends ⊢
      split at ends
      · -- The search would go on below the line on which it stops.
        have lower := (endsIn_of_ending? ends).lower
        rw [List.length_nil] at here
        omega
      · obtain rfl := Option.some.inj ends
        dsimp only at halted
        simp [Delimiters.feed_behind halted tail', goesOn, halted]
  | cons line above inductionHypothesis =>
      rw [List.length_cons] at here room
      have more : budget ≠ 0 := by omega
      have more' : budget' ≠ 0 := by omega
      have next : ending.index = index + 1 + above.length := by omega
      rw [List.cons_append, ending?] at ends
      rw [List.cons_append, ending?]
      have same : (skipping && budget' != 0 && Text.isBlankText line) =
          (skipping && budget != 0 && Text.isBlankText line) := by
        rw [bne_iff_ne.mpr more, bne_iff_ne.mpr more']
      rw [same]
      split at ends
      · next skips =>
          rw [if_pos skips]
          exact inductionHypothesis ends next (by omega) (by omega)
      · next taken =>
          rw [if_neg taken]
          dsimp only at ends ⊢
          split at ends
          · next onward =>
              have onward' := (goesOn_behind plain visible more more' ⟨index, offset, line,
                state.feed line offset { atTerminator := true }, parts, []⟩ above below below' front
                tail tail').trans onward
              rw [if_pos onward']
              exact inductionHypothesis ends next (by omega) (by omega)
          · -- The search would end above the line on which it stops.
            obtain rfl := Option.some.inj ends
            dsimp only at here
            omega

/-- A signature that ends where a scan stops does not depend on what stands behind. -/
theorem signature_behind (whole : ending.line = front ++ c :: tail)
    (halted : ending.scan.halt = some (d, front.length)) (first : Nat) (tail' : Text)
    (below' : List Text) :
    Ending.signature first { ending with line := front ++ c :: tail', later := below' } =
      ending.signature first := by
  have upTo (tail : Text) : (front ++ c :: tail).take front.length = front ∧
      (front ++ c :: tail).take (front.length + 1) = front ++ [c] := by
    simp [List.take_length_add_append]
  rw [Ending.signature, Ending.signature, halted]
  simp only [Ending.gathered, Text.slice, whole, upTo]

/-! ## Two texts -/

theorem Window.getElem?_clipFirst (window : Window) (lines : List Text) (number : Nat) :
    (window.clipFirst lines)[number]? =
      lines[number]?.map (if number = 0 then window.clip else id) := by
  cases lines with
  | nil => rfl
  | cons line later => cases number <;> simp [Window.clipFirst]

theorem Window.take_clip (window : Window) (line : Text) (count : Nat) :
    (window.clip line).take count = window.clip (line.take count) := by
  rw [Window.clip, Window.clip]
  cases window.stop with
  | none => rfl
  | some stop =>
      dsimp only
      rw [List.take_take, List.take_take, Nat.min_comm]

/-- Two lists that agree before a place can be cut there at the same front. -/
theorem exists_common {α : Type} {whole others : List α} {place : Nat} {first second : α}
    (here : whole[place]? = some first) (there : others[place]? = some second)
    (same : others.take place = whole.take place) :
    ∃ front back back', front.length = place ∧ whole = front ++ first :: back ∧
      others = front ++ second :: back' := by
  have split {list : List α} {item : α} (inside : list[place]? = some item) :
      list = list.take place ++ item :: list.drop (place + 1) := by
    rw [← drop_eq_cons inside, List.take_append_drop]
  have within := (List.getElem?_eq_some_iff.mp here).1
  refine ⟨whole.take place, whole.drop (place + 1), others.drop (place + 1),
    List.length_take_of_le (Nat.le_of_lt within), split here, ?_⟩
  rw [← same]
  exact split there

/-- Two lines that agree up to and including a character. -/
theorem exists_front {text other : Text} {column : Nat} (here : text[column]? = some c)
    (upTo : other.take (column + 1) = text.take (column + 1)) :
    ∃ front tail tail', front.length = column ∧ text = front ++ c :: tail ∧
      other = front ++ c :: tail' := by
  refine exists_common here ?_ ?_
  · rw [← List.getElem?_take_of_lt (Nat.lt_succ_self column), upTo,
      List.getElem?_take_of_lt (Nat.lt_succ_self column), here]
  · have shorter := congrArg (List.take column) upTo
    rwa [List.take_take, List.take_take, Nat.min_eq_left (Nat.le_succ column)] at shorter

/-- Two texts that agree above a line. -/
theorem exists_top {lines others : List Text} {count : Nat} {line other : Text}
    (here : lines[count]? = some line) (there : others[count]? = some other)
    (above : ∀ number < count, others[number]? = lines[number]?) :
    ∃ top below below', top.length = count ∧ lines = top ++ line :: below ∧
      others = top ++ other :: below' := by
  refine exists_common here there (List.ext_getElem? fun number => ?_)
  rw [List.getElem?_take, List.getElem?_take]
  split_ifs with before
  · exact above number before
  · rfl

/-- The place at which the search for the signature of the declaration on line `start` stops, if
it stops at a brace or a semicolon. -/
def haltPlace? (lines : List Text) (start : Nat) (window : Window) (limit : Nat)
    (words : List Text) : Option Place :=
  (search? lines start window limit words).bind fun ending =>
    ending.scan.halt.map fun stop => ⟨ending.index, stop.2⟩

/-- Where a search for a signature stops, any other text that agrees with the first one from the
declaration on up to that place has the same signature, whatever follows and however long it is. -/
theorem find?_of_agree {lines others words : List Text} {start limit : Nat} {window : Window}
    {place : Place} (plain : ∀ word ∈ words, '{' ∉ word ∧ ';' ∉ word)
    (halts : haltPlace? lines start window limit words = some place)
    (above : ∀ number, start ≤ number → number < place.line → others[number]? = lines[number]?)
    (upTo : others[place.line]?.map (List.take (place.column + 1)) =
      lines[place.line]?.map (List.take (place.column + 1))) :
    ∃ signature, find? lines start window limit words = some signature ∧
      find? others start window limit words = some signature ∧
      haltPlace? others start window limit words = some place := by
  obtain ⟨ending, searched, stopped⟩ := Option.bind_eq_some_iff.mp halts
  obtain ⟨⟨c, column⟩, halted, rfl⟩ := Option.map_eq_some_iff.mp stopped
  obtain ⟨lower, upper, there, -, state, scanned⟩ := endsIn_of_ending? searched
  dsimp only at above upTo
  rw [scanned] at halted
  obtain ⟨kind, -, -, brace⟩ := Delimiters.halt_feed halted
  rw [← scanned] at halted
  have terminator : c = '{' ∨ c = ';' := by simpa using kind
  have absent : ∀ word ∈ words, c ∉ word := fun word member => by
    rcases terminator with rfl | rfl
    · exact (plain word member).1
    · exact (plain word member).2
  have visible : isBlank c = false := by rcases terminator with rfl | rfl <;> decide
  -- The search sees the lines from the declaration on, and of both texts the same down to the stop.
  have seen (lines : List Text) (number : Nat) :
      (window.clipFirst (lines.drop start))[number]? =
        lines[start + number]?.map (if number = 0 then window.clip else id) := by
    rw [Window.getElem?_clipFirst, List.getElem?_drop]
  rw [seen, Nat.add_sub_cancel' lower] at there
  obtain ⟨line, whole, clipped⟩ := Option.map_eq_some_iff.mp there
  rw [whole, Option.map_some] at upTo
  obtain ⟨other, otherWhole, same⟩ := Option.map_eq_some_iff.mp upTo
  have agree (number : Nat) (before : number < ending.index - start) :
      (window.clipFirst (others.drop start))[number]? =
        (window.clipFirst (lines.drop start))[number]? := by
    rw [seen, seen, above (start + number) (Nat.le_add_right _ _) (by omega)]
  obtain ⟨seenLine, seenOther, upToSeen⟩ : (window.clipFirst (lines.drop start))[ending.index - start]? =
        some ending.line ∧ ∃ seenOther : Text,
          (window.clipFirst (others.drop start))[ending.index - start]? = some seenOther ∧
            seenOther.take (column + 1) = ending.line.take (column + 1) := by
    rw [seen, seen, Nat.add_sub_cancel' lower, whole, otherWhole, Option.map_some, Option.map_some,
      clipped]
    refine ⟨rfl, _, rfl, ?_⟩
    rw [← clipped]
    split
    · rw [Window.take_clip, Window.take_clip, same]
    · exact same
  obtain ⟨front, tail, tail', rfl, split, otherSplit⟩ := exists_front brace upToSeen.2
  obtain ⟨top, below, below', length, lineTop, otherTop⟩ := exists_top seenLine upToSeen.1 agree
  have otherInside := (List.getElem?_eq_some_iff.mp otherWhole).1
  have here : ending.index = start + top.length := by omega
  have room : top.length ≤ min (others.length - 1) (start + limit - 1) - start := by omega
  have searching := searched
  rw [search?, lineTop, split] at searching
  obtain ⟨-, found⟩ := ending?_behind absent visible searching here halted room tail' below'
  rw [← otherSplit, ← otherTop, ← search?, otherSplit] at found
  refine ⟨ending.signature start, ?_, ?_, ?_⟩
  · rw [find?_eq_search?, searched, Option.map_some]
  · rw [find?_eq_search?, found, Option.map_some, signature_behind split halted]
  · rw [haltPlace?, found, Option.bind_some, halted, Option.map_some]

/-- The body is taken away, and with it most of the lines that might have been gathered. -/
theorem find?_of_agree_without_body :
    let lines := ["class Shelf".toList, "".toList, "  extends Base \x7b // books".toList,
      "  int count;".toList, "\x7d".toList]
    let others := ["class Shelf".toList, "".toList, "  extends Base \x7b".toList]
    haltPlace? lines 0 {} defaultLineLimit Lead.classContinuations = some ⟨2, 15⟩ ∧
      find? others 0 {} defaultLineLimit Lead.classContinuations =
        some ⟨"class Shelf extends Base".toList, 0, 2, some ⟨2, 15⟩⟩ := by
  intro lines others
  have halts : haltPlace? lines 0 {} defaultLineLimit Lead.classContinuations = some ⟨2, 15⟩ := by
    decide +kernel
  obtain ⟨signature, found, same, -⟩ :=
    @find?_of_agree lines others Lead.classContinuations 0 defaultLineLimit {} ⟨2, 15⟩ (by decide)
      halts (by decide) (by decide)
  have known : find? lines 0 {} defaultLineLimit Lead.classContinuations =
      some ⟨"class Shelf extends Base".toList, 0, 2, some ⟨2, 15⟩⟩ := by decide +kernel
  exact ⟨halts, same.trans (found.symm.trans known)⟩

end Signature
end Codemap
