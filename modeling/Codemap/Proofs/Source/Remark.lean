import Codemap.Proofs.Source.Layout.Signature

namespace Codemap

/-!
# A remark behind the code of a line

A line comment is set off from the code before it by a space.  Where the scan of a line ends in
code, such a remark does nothing to the scanner, and of the line it leaves the code and one more
blank.  A signature is made of the words that are gathered, and the two looks ahead, at the word
with which the next line begins and at the brace with which it opens a body, go no further than
the code.  So a declaration has the same signature with the remark and without it.
-/

/-- The marks with which a remark is set off behind the code of a line. -/
def remarkMarks : List Text :=
  [" // ".toList, " # ".toList]

theorem exists_of_mem_remarkMarks {mark : Text} (marks : mark ∈ remarkMarks) :
    mark = [' ', '/', '/', ' '] ∨ mark = [' ', '#', ' '] := by
  simpa [remarkMarks] using marks

/-- A scan ends in code: neither a comment nor a string literal is open. -/
def Scan.EndsInCode (scan : Scan) : Prop :=
  scan.commentStart = none ∧ scan.state.quote = none ∧ scan.state.inBlockComment = false

instance (scan : Scan) : Decidable scan.EndsInCode :=
  inferInstanceAs (Decidable (_ ∧ _))

namespace Text

variable {line : Text}

theorem trimStart_append_of_visible (visible : isBlankText line = false) (more : Text) :
    trimStart (line ++ more) = trimStart line ++ more := by
  rw [trimStart, List.dropWhile_append, if_neg]
  · rfl
  · rw [List.isEmpty_iff]
    intro empty
    rw [isBlankText_iff.mpr empty] at visible
    cases visible

theorem isBlankText_append_of_visible (visible : isBlankText line = false) (more : Text) :
    isBlankText (line ++ more) = false := by
  rw [isBlankText, List.all_append, ← isBlankText, visible, Bool.false_and]

end Text

namespace Delimiters

variable {stops : Stops} {state : Delimiters} {inert : Bool} {before : Option Char} {column : Nat}

/-! ## The scan of a line with a remark -/

/-- At the last character of a text a space behind it makes no difference. -/
theorem move_space (c : Char) (more : Text) :
    move stops state before c (' ' :: more) = move stops state before c [] := by
  simp [move, opensHashComment]

/-- A scan that stops within a text does not read what follows after a space. -/
theorem feedFrom_append_of_halt {text : Text}
    (halted : (feedFrom stops state inert before column text).halt.isSome = true) (more : Text) :
    feedFrom stops state inert before column (text ++ ' ' :: more) =
      feedFrom stops state inert before column text := by
  induction text generalizing state inert before column with
  | nil => cases halted
  | cons c rest inductionHypothesis =>
      rw [List.cons_append]
      cases inert with
      | true =>
          rw [feedFrom_inert] at halted ⊢
          rw [feedFrom_inert]
          exact inductionHypothesis halted
      | false =>
          have same : move stops state before c (rest ++ ' ' :: more) = move stops state before c rest := by
            cases rest with
            | nil => exact move_space c more
            | cons next rest => exact move_congr c rfl
          rw [feedFrom_cons] at halted ⊢
          rw [feedFrom_cons, same]
          cases moved : move stops state before c rest with
          | onward next inert =>
              rw [moved] at halted
              exact inductionHypothesis halted
          | comment => rfl
          | halt after => rfl

/-- In code a remark is a comment that begins after its space. -/
theorem feedFrom_remark {mark : Text} (marks : mark ∈ remarkMarks) (comment : Text)
    (noQuote : state.quote = none) (noComment : state.inBlockComment = false) :
    feedFrom stops state inert before column (mark ++ comment) =
      { state, commentStart := some (column + 1) } := by
  have proper : state.Proper := by
    rw [Proper, noQuote]
    exact fun _ member => by cases member
  -- The space is passed over, whether or not the character before it has made it inert.
  have space (rest : Text) : feedFrom stops state inert before column (' ' :: rest) =
      feedFrom stops state false (some ' ') (column + 1) rest := by
    cases inert with
    | true => exact feedFrom_inert ' ' rest
    | false => rw [feedFrom_cons, move_isBlank proper rfl]
  rcases exists_of_mem_remarkMarks marks with rfl | rfl
  · have begins : move stops state (some ' ') '/' ('/' :: ' ' :: comment) = .comment := by
      simp [move, noQuote, noComment, isQuote]
    rw [List.cons_append, space, List.cons_append, feedFrom_cons, List.cons_append,
      List.cons_append, List.nil_append, begins]
  · have begins : move stops state (some ' ') '#' (' ' :: comment) = .comment := by
      simp [move, noQuote, noComment, isQuote, opensHashComment, isBlank]
    rw [List.cons_append, space, List.cons_append, feedFrom_cons, List.cons_append,
      List.nil_append, begins]

theorem feedFrom_append_remark {mark text : Text} (marks : mark ∈ remarkMarks) (comment : Text)
    (unstopped : (feedFrom stops state inert before column text).halt = none)
    (inCode : (feedFrom stops state inert before column text).EndsInCode) :
    feedFrom stops state inert before column (text ++ (mark ++ comment)) =
      { state := (feedFrom stops state inert before column text).state
        commentStart := some (column + text.length + 1) } := by
  induction text generalizing state inert before column with
  | nil => exact feedFrom_remark marks comment inCode.2.1 inCode.2.2
  | cons c rest inductionHypothesis =>
      have columns : column + (c :: rest).length + 1 = column + 1 + rest.length + 1 := by
        rw [List.length_cons]
        omega
      rw [List.cons_append, columns]
      cases inert with
      | true =>
          rw [feedFrom_inert] at unstopped inCode
          rw [feedFrom_inert, feedFrom_inert]
          exact inductionHypothesis unstopped inCode
      | false =>
          have same : move stops state before c (rest ++ (mark ++ comment)) =
              move stops state before c rest := by
            cases rest with
            | nil =>
                rcases exists_of_mem_remarkMarks marks with rfl | rfl <;> exact move_space c _
            | cons next rest => exact move_congr c rfl
          rw [feedFrom_cons] at unstopped inCode
          rw [feedFrom_cons, feedFrom_cons, same]
          cases moved : move stops state before c rest with
          | onward next inert =>
              rw [moved] at unstopped inCode
              exact inductionHypothesis unstopped inCode
          | comment =>
              rw [moved] at inCode
              cases inCode.1
          | halt after =>
              rw [moved] at unstopped
              cases unstopped

/-- The state behind some lines that are scanned to their ends. -/
def after (state : Delimiters) (lines : List Text) : Delimiters :=
  lines.foldl (fun state line => (state.feed line 0 {}).state) state

/-- The scan of a line with a remark: it stops where the scan of the line stops, or it ends in the
same state with the comment that begins behind the space. -/
theorem feed_remark {mark line : Text} (marks : mark ∈ remarkMarks) (comment : Text)
    (inCode : (state.feed line 0 {}).EndsInCode) :
    state.feed (line ++ (mark ++ comment)) 0 stops =
      if (state.feed line 0 stops).halt.isSome then state.feed line 0 stops
      else { state := (state.feed line 0 stops).state, commentStart := some (line.length + 1) } := by
  have whole (text : Text) (stops : Stops) :
      state.feed text 0 stops = feedFrom stops state false none 0 text := rfl
  rw [whole] at inCode
  rw [whole, whole]
  cases halted : (feedFrom stops state false none 0 line).halt with
  | some _ =>
      rw [Option.isSome_some, if_pos rfl]
      have stopped : (feedFrom stops state false none 0 line).halt.isSome = true := by rw [halted]; rfl
      rcases exists_of_mem_remarkMarks marks with rfl | rfl <;>
        exact feedFrom_append_of_halt stopped _
  | none =>
      rw [feedFrom_stops halted] at inCode
      rw [feedFrom_append_remark marks comment halted inCode, Nat.zero_add]
      rfl

end Delimiters

namespace Signature

variable {words lines later parts parts' : List Text} {line mark : Text}
  {first index budget further : Nat} {state : Delimiters} {skipping : Bool}

/-! ## What is gathered depends on its words alone -/

theorem continuesWith_parts (same : parts.flatMap Text.words = parts'.flatMap Text.words) :
    continuesWith words parts later = continuesWith words parts' later := by
  rw [continuesWith, continuesWith, Text.endsWithAny_trimEnd (words_joined same) rfl]

theorem close_parts (same : parts.flatMap Text.words = parts'.flatMap Text.words) :
    close first index state parts later = close first index state parts' later := by
  rw [close, close, normalizeBlanks_joined same]

theorem flatMap_words_append (same : parts.flatMap Text.words = parts'.flatMap Text.words)
    (part : Text) : (parts ++ [part]).flatMap Text.words = (parts' ++ [part]).flatMap Text.words := by
  rw [List.flatMap_append, List.flatMap_append, same]

theorem gather_parts (same : parts.flatMap Text.words = parts'.flatMap Text.words) :
    gather words first state parts index budget 0 skipping lines =
      gather words first state parts' index budget 0 skipping lines := by
  induction lines generalizing state parts parts' index budget skipping with
  | nil => exact close_parts same
  | cons line later inductionHypothesis =>
      have one (part : Text) := flatMap_words_append same part
      rw [gather, gather]
      split
      · exact inductionHypothesis same
      dsimp only
      split
      · split
        · rw [normalizeBlanks_joined (one _)]
        · rw [normalizeBlanks_joined (one _)]
      rw [needsMore_eq (one _), continuesWith_parts (one _)]
      split
      · exact close_parts (one _)
      split
      · exact inductionHypothesis (one _)
      · exact close_parts (one _)

theorem onward_parts (same : parts.flatMap Text.words = parts'.flatMap Text.words) :
    onward words first state parts index budget later =
      onward words first state parts' index budget later := by
  rw [onward, onward, close_parts same, needsMore_eq same, continuesWith_parts same,
    gather_parts same]

/-! ## The looks ahead -/

theorem startsWithWord_remark (spaceless : ∀ word ∈ words, ' ' ∉ word)
    (visible : Text.isBlankText line = false) (marks : mark ∈ remarkMarks) (comment : Text) :
    startsWithWord words (line ++ (mark ++ comment)) = startsWithWord words line := by
  obtain ⟨opener, rfl⟩ : ∃ opener, mark = ' ' :: opener := by
    rcases exists_of_mem_remarkMarks marks with rfl | rfl <;> exact ⟨_, rfl⟩
  rw [List.cons_append]
  rw [startsWithWord, startsWithWord, Text.trimStart_append_of_visible visible, Bool.eq_iff_iff,
    List.any_eq_true, List.any_eq_true]
  refine exists_congr fun word => and_congr_right fun member => ?_
  rw [Bool.and_eq_true, Bool.and_eq_true, List.isPrefixOf_iff_prefix, List.isPrefixOf_iff_prefix,
    Text.prefix_append_of_notMem (spaceless word member)]
  refine and_congr_right fun begins => ?_
  obtain ⟨rest, whole⟩ := begins
  rw [← whole, List.append_assoc, List.drop_left, List.drop_left]
  cases rest with
  | nil => exact iff_of_true (show (!isAlphanumeric ' ') = true by decide) rfl
  | cons c rest => rfl

/-- The looks ahead at the lines below do not read a remark. -/
theorem openerBelow_remark (there : lines[further]? = some line)
    (visible : Text.isBlankText line = false) (more : Text) :
    openerBelow index (lines.set further (line ++ more)) = openerBelow index lines := by
  induction lines generalizing index further with
  | nil => rfl
  | cons first later inductionHypothesis =>
      cases further with
      | succ further =>
          rw [List.set_cons_succ, openerBelow, openerBelow,
            inductionHypothesis (by simpa using there)]
      | zero =>
          obtain rfl := Option.some.inj there
          have begins : (Text.trimStart first ++ more).head? = (Text.trimStart first).head? := by
            cases trimmed : Text.trimStart first with
            | nil =>
                rw [Text.isBlankText_iff.mpr trimmed] at visible
                cases visible
            | cons c rest => rfl
          have column : (first ++ more).length - (Text.trimStart first ++ more).length =
              first.length - (Text.trimStart first).length := by
            rw [List.length_append, List.length_append, Nat.add_sub_add_right]
          rw [List.set_cons_zero, openerBelow, openerBelow,
            Text.isBlankText_append_of_visible visible, visible,
            Text.trimStart_append_of_visible visible]
          dsimp only
          rw [begins, column]

theorem close_remark (there : later[further]? = some line)
    (visible : Text.isBlankText line = false) (more : Text) :
    close first index state parts (later.set further (line ++ more)) =
      close first index state parts later := by
  rw [close, close, openerBelow_remark there visible]

theorem continuesWith_remark (spaceless : ∀ word ∈ words, ' ' ∉ word)
    (there : later[further]? = some line) (visible : Text.isBlankText line = false)
    (marks : mark ∈ remarkMarks) (comment : Text) :
    continuesWith words parts (later.set further (line ++ (mark ++ comment))) =
      continuesWith words parts later := by
  induction later generalizing further with
  | nil => rfl
  | cons first later inductionHypothesis =>
      cases further with
      | succ further =>
          have below := @inductionHypothesis further (by simpa using there)
          rw [continuesWith, continuesWith] at below
          rw [List.set_cons_succ, continuesWith, continuesWith, List.dropWhile_cons,
            List.dropWhile_cons]
          by_cases blank : Text.isBlankText first = true
          · rw [if_pos blank, if_pos blank]
            exact below
          · rw [if_neg blank, if_neg blank]
      | zero =>
          obtain rfl := Option.some.inj there
          have code : ¬ Text.isBlankText first = true := by simp [visible]
          have code' : ¬ Text.isBlankText (first ++ (mark ++ comment)) = true := by
            simp [Text.isBlankText_append_of_visible visible]
          rw [List.set_cons_zero, continuesWith, continuesWith, List.dropWhile_cons_of_neg code,
            List.dropWhile_cons_of_neg code']
          dsimp only
          rw [startsWithWord_remark spaceless visible marks]

/-! ## The search -/

/-- A line that is not skipped is scanned, and the search goes on behind it or ends. -/
theorem gather_of_taken
    (taken : ¬ (skipping && budget != 0 && Text.isBlankText line) = true) :
    gather words first state parts index budget 0 skipping (line :: later) =
      match (state.feed line 0 { atTerminator := true }).halt with
      | some (c, column) =>
          if c = '{' then
            { text := (joined (parts ++ [line.slice 0 column])).normalizeBlanks
              firstLine := first, lastLine := index, body := some ⟨index, column⟩ }
          else
            { text := (joined (parts ++ [line.slice 0 (column + 1)])).normalizeBlanks
              firstLine := first, lastLine := index }
      | none =>
          onward words first (state.feed line 0 { atTerminator := true }).state
            (parts ++ [line.slice 0 ((state.feed line 0 { atTerminator := true }).commentStart.getD
              line.length)]) index budget later := by
  rw [gather, if_neg taken]
  rfl

/-- A search that begins at a line does not read the remark behind its code. -/
theorem gather_remark_here (marks : mark ∈ remarkMarks) (comment : Text)
    (visible : Text.isBlankText line = false) (inCode : (state.feed line 0 {}).EndsInCode) :
    gather words first state parts index budget 0 skipping ((line ++ (mark ++ comment)) :: later) =
      gather words first state parts index budget 0 skipping (line :: later) := by
  rw [gather_of_taken (by simp [Text.isBlankText_append_of_visible visible]),
    gather_of_taken (by simp [visible]), Delimiters.feed_remark marks comment inCode]
  cases halted : (state.feed line 0 { atTerminator := true }).halt with
  | some stop =>
      obtain ⟨c, column⟩ := stop
      obtain ⟨-, -, inside, -⟩ := Delimiters.halt_feed halted
      have piece {stop : Nat} (within : stop ≤ line.length) :
          (line ++ (mark ++ comment)).slice 0 stop = line.slice 0 stop := by
        rw [Text.slice, Text.slice, List.take_append_of_le_length within]
      rw [Option.isSome_some, if_pos rfl, halted]
      dsimp only
      rw [piece (Nat.le_of_lt inside), piece inside]
  | none =>
      have unstopped : state.feed line 0 {} = state.feed line 0 { atTerminator := true } :=
        Delimiters.feedFrom_stops halted
      rw [unstopped] at inCode
      have gathered : (parts ++ [(line ++ (mark ++ comment)).slice 0 (line.length + 1)]).flatMap
          Text.words = (parts ++ [line.slice 0 line.length]).flatMap Text.words := by
        have piece : (line ++ (mark ++ comment)).slice 0 (line.length + 1) = line ++ [' '] := by
          rcases exists_of_mem_remarkMarks marks with rfl | rfl <;>
            simp [Text.slice, List.take_length_add_append]
        have spaced : Text.words (line ++ [' ']) = Text.words line := by
          rw [Text.words_append rfl]
          exact List.append_nil _
        have whole : line.slice 0 line.length = line := by simp [Text.slice]
        rw [piece, whole, List.flatMap_append, List.flatMap_append, List.flatMap_singleton,
          List.flatMap_singleton, spaced]
      rw [Option.isSome_none, if_neg Bool.false_ne_true, inCode.1]
      exact onward_parts gathered

theorem gather_remark (spaceless : ∀ word ∈ words, ' ' ∉ word) (marks : mark ∈ remarkMarks)
    (comment : Text) (enough : budget < lines.length) (proper : state.Proper)
    (there : lines[further]? = some line) (visible : Text.isBlankText line = false)
    (inCode : index + further ≤
      (gather words first state parts index budget 0 skipping lines).lastLine →
        ((state.after (lines.take further)).feed line 0 {}).EndsInCode) :
    gather words first state parts index budget 0 skipping
        (lines.set further (line ++ (mark ++ comment))) =
      gather words first state parts index budget 0 skipping lines := by
  induction lines generalizing state parts index budget skipping further with
  | nil => cases enough
  | cons top later inductionHypothesis =>
      have within : (gather words first state parts index budget 0 skipping
        (top :: later)).Within index 0 (top :: later) := gather_within enough
      rw [List.length_cons] at enough
      cases further with
      | zero =>
          obtain rfl := Option.some.inj there
          exact gather_remark_here marks comment visible (inCode within.lower)
      | succ further =>
          rw [List.getElem?_cons_succ] at there
          rw [List.take_succ_cons, Delimiters.after, List.foldl_cons, ← Delimiters.after,
            ← Nat.add_assoc, Nat.add_right_comm] at inCode
          rw [List.set_cons_succ]
          by_cases skips : (skipping && budget != 0 && Text.isBlankText top) = true
          · rw [gather, if_pos skips] at inCode
            rw [gather, gather, if_pos skips, if_pos skips]
            simp only [Bool.and_eq_true, bne_iff_ne] at skips
            obtain ⟨⟨-, more⟩, blank⟩ := skips
            rw [feed_of_blank proper (Text.isBlankText_iff.mp blank)] at inCode
            exact inductionHypothesis (by omega) proper there inCode
          rw [gather_of_taken skips] at inCode
          rw [gather_of_taken skips, gather_of_taken skips]
          cases halted : (state.feed top 0 { atTerminator := true }).halt with
          | some stop => rfl
          | none =>
              have unstopped : state.feed top 0 {} = state.feed top 0 { atTerminator := true } :=
                Delimiters.feedFrom_stops halted
              rw [halted, unstopped, onward] at inCode
              dsimp only at inCode ⊢
              rw [onward, onward, close_remark there visible,
                continuesWith_remark spaceless there visible marks]
              split at inCode
              · next exhausted => rw [if_pos exhausted, if_pos exhausted]
              next more =>
              rw [if_neg more, if_neg more]
              split at inCode
              · next goesOn =>
                  rw [if_pos goesOn, if_pos goesOn]
                  exact inductionHypothesis (by omega) (Delimiters.proper_feedFrom proper) there inCode
              · next complete => rw [if_neg complete, if_neg complete]

/-- A remark behind the code of a line that is not blank leaves the signature as it is.  Only a
line that the signature reaches must end in code, when it is scanned from the declaration on. -/
theorem find?_remark {words lines : List Text} {line mark : Text} {start number limit : Nat}
    (spaceless : ∀ word ∈ words, ' ' ∉ word) (there : lines[number]? = some line)
    (visible : Text.isBlankText line = false) (marks : mark ∈ remarkMarks)
    (inCode : ∀ signature, find? lines start {} limit words = some signature →
      start ≤ number → number ≤ signature.lastLine →
        ((Delimiters.after {} ((lines.drop start).take (number - start))).feed line 0 {}).EndsInCode)
    (comment : Text) :
    find? (lines.set number (line ++ mark ++ comment)) start {} limit words =
      find? lines start {} limit words := by
  rw [List.append_assoc]
  rcases Nat.lt_or_ge number start with above | reached
  · rw [find?, find?, List.drop_set_of_lt above, List.length_set]
  rw [find?] at inCode
  rw [find?, find?, List.drop_set, if_neg (Nat.not_lt_of_le reached), List.length_set]
  cases rest : lines.drop start with
  | nil => rfl
  | cons top later =>
      have length := congrArg List.length rest
      rw [List.length_drop, List.length_cons] at length
      have below : (top :: later)[number - start]? = some line := by
        rw [← rest, List.getElem?_drop, Nat.add_sub_cancel' reached, there]
      rw [rest] at inCode
      dsimp only at inCode
      have same := @gather_remark words (top :: later) [] line mark start start _ _ {} false spaceless marks
        comment (show min (lines.length - 1) (start + limit - 1) - start < (top :: later).length by
          rw [List.length_cons]; omega) (Delimiters.proper_braces 0) below visible
        (fun within => inCode _ rfl reached (by omega))
      have split : (top :: later).set (number - start) (line ++ (mark ++ comment)) ≠ [] := by simp
      obtain ⟨top', later', changed⟩ := List.exists_cons_of_ne_nil split
      rw [changed] at same ⊢
      exact congrArg some same

/-- The words that continue a class declaration hold no space. -/
theorem space_notMem_classContinuations : ∀ word ∈ Lead.classContinuations, ' ' ∉ word := by
  decide

/-- The remark stands among the type parameters of a class, and its brace opens no body. -/
theorem find?_remark_classLead :
    find? ["class Shelf<T,".toList, "  K> // \x7b".toList, "".toList, "  implements Store \x7b".toList] 0 {}
        defaultLineLimit Lead.classContinuations =
      some ⟨"class Shelf<T, K> implements Store".toList, 0, 3, some ⟨3, 19⟩⟩ :=
  (@find?_remark Lead.classContinuations
    ["class Shelf<T,".toList, "  K>".toList, "".toList, "  implements Store \x7b".toList] "  K>".toList
    " // ".toList 0 1 defaultLineLimit space_notMem_classContinuations rfl (by decide) (by decide)
    (fun _ _ _ _ => by decide) "\x7b".toList).trans (by decide +kernel)

end Signature
end Codemap
