import Codemap.Proofs.Source.Extent

namespace Codemap
namespace Indexed

/-!
# The outline by indices

The search for an outline walks lists, so it cannot reach outside a text, and its loops
are recursions that end.  Here it is written as it runs on arrays: lines and characters
are fetched by index, and loops go on until a condition fails.  A fetch from outside and
a loop that exceeds its number of steps have no result.

It always has a result, and that is the outline.  So no index is ever out of range, and
every loop ends within the number of steps that it is given here: one for each column of
a line, or one for each line of the text.
-/

/-! ## Scanning a line -/

/-- Whether a hash sign at a column opens a comment. -/
def opensHashComment (text : Text) (column : Nat) : Option Bool := do
  let before ← (if column = 0 then some true else (text[column - 1]?).map isBlank)
  let after ←
    (if text.length ≤ column + 1 then some true
    else (text[column + 1]?).map fun c => c == ' ' || c == '\t' || c == '#' || c == '!')
  some (before && after)

/-- Scan a line from a column on. -/
def feed (stops : Stops) (text : Text) : Nat → Delimiters → Bool → Nat → Option Scan
  | 0, state, _, column => if column < text.length then none else some { state }
  | steps + 1, state, escaped, column =>
      if text.length ≤ column then some { state }
      else do
        let c ← text[column]?
        if state.inBlockComment then
          if c = '*' ∧ text[column + 1]? = some '/' then
            feed stops text steps { state with inBlockComment := false } false (column + 2)
          else feed stops text steps state false (column + 1)
        else
          match state.quote with
          | some quote =>
              if escaped then feed stops text steps state false (column + 1)
              else if c = '\\' then feed stops text steps state true (column + 1)
              else if c = quote then
                feed stops text steps { state with quote := none } false (column + 1)
              else feed stops text steps state false (column + 1)
          | none =>
              if isQuote c then
                feed stops text steps { state with quote := some c } false (column + 1)
              else if c = '/' ∧ text[column + 1]? = some '*' then
                feed stops text steps { state with inBlockComment := true } false (column + 2)
              else if c = '/' ∧ text[column + 1]? = some '/' then
                some { state, commentStart := some column }
              else do
                let hash ← (if c = '#' then opensHashComment text column else some false)
                if hash then some { state, commentStart := some column }
                else if stops.atTerminator ∧ (c = '{' ∨ c = ';') ∧ state.balanced then
                  some { state, halt := some (c, column) }
                else
                  let counted := state.count c
                  if stops.atClose ∧ c = '}' ∧ counted.braces = 0 then
                    some { state := counted, halt := some (c, column) }
                  else feed stops text steps counted false (column + 1)

/-! ## Signatures -/

/-- The first line from a cursor on and below a bound that is not blank, or the bound. -/
def skipBlank (lines : List Text) (bound : Nat) : Nat → Nat → Option Nat
  | 0, cursor => if cursor < bound then none else some cursor
  | steps + 1, cursor =>
      if bound ≤ cursor then some cursor
      else do
        let line ← lines[cursor]?
        if Text.isBlankText line then skipBlank lines bound steps (cursor + 1) else some cursor

/-- The next line that is not blank continues the declaration. -/
def continuesWith (lines words parts : List Text) (index : Nat) : Option Bool :=
  if words.isEmpty || (Signature.joined parts).trimEnd.endsWithAny [":".toList, ";".toList] then
    some false
  else do
    let cursor ← skipBlank lines lines.length lines.length (index + 1)
    if lines.length ≤ cursor then some false
    else do
      let line ← lines[cursor]?
      some (Signature.startsWithWord words line)

/-- The body opens on the next line that is not blank. -/
def openerBelow (lines : List Text) (index : Nat) : Option (Option Place) := do
  let cursor ← skipBlank lines lines.length lines.length (index + 1)
  if lines.length ≤ cursor then some none
  else do
    let line ← lines[cursor]?
    let stripped := line.trimStart
    some (if stripped.head? = some '{' then some ⟨cursor, line.length - stripped.length⟩ else none)

/-- No further line is gathered. -/
def close (lines : List Text) (first index : Nat) (state : Delimiters) (parts : List Text) :
    Option Signature := do
  let text := (Signature.joined parts).normalizeBlanks
  let opener ← (if state.inString then some none else openerBelow lines index)
  match opener with
  | some place => some { text, firstLine := first, lastLine := place.line, body := some place }
  | none => some { text, firstLine := first, lastLine := index }

/-- Gather lines from `index` on, whose text from `offset` on is `line`, up to a limit. -/
def gather (lines words : List Text) (first limit : Nat) :
    Nat → Delimiters → List Text → Nat → Nat → Text → Option Signature
  | 0, _, _, _, _, _ => none
  | steps + 1, state, parts, index, offset, line => do
      let scan ← feed { atTerminator := true } line line.length state false offset
      match scan.halt with
      | some (c, column) =>
          if c = '{' then
            some
              { text := (Signature.joined (parts ++ [line.slice offset column])).normalizeBlanks
                firstLine := first, lastLine := index, body := some ⟨index, column⟩ }
          else
            some
              { text := (Signature.joined (parts ++ [line.slice offset (column + 1)])).normalizeBlanks
                firstLine := first, lastLine := index }
      | none =>
          let gathered := parts ++ [line.slice offset (scan.commentStart.getD line.length)]
          if limit ≤ index then close lines first index scan.state gathered
          else do
            let more ←
              (if Signature.needsMore scan.state gathered then some true
              else continuesWith lines words gathered index)
            if more then do
              let next ← skipBlank lines limit lines.length (index + 1)
              let line ← lines[next]?
              gather lines words first limit steps scan.state gathered next 0 line
            else close lines first index scan.state gathered

/-- The signature of the declaration on a line. -/
def signatureAt (lines : List Text) (start : Nat) (window : Signature.Window) (most : Nat)
    (words : List Text) : Option Signature := do
  let line ← lines[start]?
  gather lines words start (min (lines.length - 1) (start + most - 1)) lines.length {} [] start
    window.start (window.clip line)

/-! ## Bodies -/

/-- Walk a body in braces. -/
def bracedFrom (lines : List Text) : Nat → Delimiters → Nat → Nat → Option Body
  | 0, _, index, _ =>
      if index < lines.length then none else some { segments := [], lastLine := lines.length - 1 }
  | steps + 1, state, index, offset =>
      if lines.length ≤ index then some { segments := [], lastLine := lines.length - 1 }
      else do
        let line ← lines[index]?
        let scan ← feed { atClose := true } line line.length state false offset
        let stop := scan.halt.map Prod.snd
        let text := line.slice offset (stop.getD line.length)
        let here : List Segment :=
          if Body.atMemberLevel state && !Text.isBlankText text then [⟨index, offset, stop, text⟩]
          else []
        match scan.halt with
        | some _ => some { segments := here, lastLine := index }
        | none => do
            let below ← bracedFrom lines steps scan.state (index + 1) 0
            some { below with segments := here ++ below.segments }

/-- Walk a body set off by indentation. -/
def indentedFrom (lines : List Text) (base : Nat) : Nat → Option Nat → Nat → Nat → Option Body
  | 0, _, cursor, last =>
      if cursor < lines.length then none else some { segments := [], lastLine := last }
  | steps + 1, level, cursor, last =>
      if lines.length ≤ cursor then some { segments := [], lastLine := last }
      else do
        let line ← lines[cursor]?
        if Text.isBlankText line then indentedFrom lines base steps level (cursor + 1) last
        else if Body.indent line ≤ base then some { segments := [], lastLine := last }
        else do
          let members := level.getD (Body.indent line)
          let here : List Segment :=
            if Body.indent line = members then [⟨cursor, 0, none, line⟩] else []
          let below ← indentedFrom lines base steps (some members) (cursor + 1) cursor
          some { below with segments := here ++ below.segments }

/-- The body after a signature. -/
def bodyAfter (lines : List Text) (index : Nat) (signature : Signature) : Option Body :=
  match signature.body with
  | some opener => bracedFrom lines lines.length { braces := 1 } opener.line (opener.column + 1)
  | none =>
      if [':'].isSuffixOf signature.text then do
        let line ← lines[index]?
        indentedFrom lines (Body.indent line) lines.length none (signature.lastLine + 1)
          signature.lastLine
      else some { segments := [], lastLine := signature.lastLine }

/-! ## Documentation -/

/-- The number of lines above a declaration and the annotations before it. -/
def skipAnnotations (lines : List Text) : Nat → Option Nat
  | 0 => some 0
  | cursor + 1 => do
      let line ← lines[cursor]?
      if Documentation.isAnnotation line.trim then skipAnnotations lines cursor
      else some (cursor + 1)

/-- Collect a run of comment lines upwards. -/
def collect (lines : List Text) (found : List Text) : Nat → Option (List Text)
  | 0 => some found
  | cursor + 1 => do
      let line ← lines[cursor]?
      match Documentation.textOf? line.trim with
      | some text => collect lines (text :: found) cursor
      | none =>
          if Text.isBlankText line && !found.isEmpty then collect lines found cursor
          else some found

/-- The documentation of the declaration on a line. -/
def documentationAbove (lines : List Text) (index : Nat) : Option (Option Text) := do
  let cursor ← skipAnnotations lines index
  let run ← collect lines [] cursor
  match Documentation.dropEmptyEnds run with
  | [] => some none
  | texts => some (some (List.intercalate ['\n'] texts))

/-! ## Members -/

/-- What is left of a segment after a member whose body opens and closes on its line. -/
def restOfSegment (lines : List Text) (segment : Segment) (signature : Signature) :
    Option (Option Segment) :=
  match signature.body with
  | none => some none
  | some place =>
      if place.line ≠ segment.line then some none
      else do
        let whole ← lines[segment.line]?
        let line := whole.take (segment.stop.getD whole.length)
        let scan ← feed { atClose := true } line line.length { braces := 1 } false (place.column + 1)
        match scan.halt with
        | none => some none
        | some (_, column) =>
            let text := line.drop (column + 1)
            if Text.isBlankText text then some none
            else some (some { segment with start := column + 1, text })

/-- The members that begin in a segment. -/
def membersOfSegment (lines : List Text) (className : Text) :
    Nat → Segment → Option (List (Located Declaration))
  | 0, _ => none
  | steps + 1, segment =>
      match Outline.memberName? className (Text.trim segment.text) with
      | none => some []
      | some name => do
          let signature ← signatureAt lines segment.line ⟨segment.start, segment.stop⟩
            Signature.defaultLineLimit []
          let documentation ← documentationAbove lines segment.line
          let found : Located Declaration :=
            ⟨{ name, signature := signature.text, documentation }, segment.line, signature.lastLine⟩
          let rest ← restOfSegment lines segment signature
          match rest with
          | none => some [found]
          | some rest => do
              let others ← membersOfSegment lines className steps rest
              some (found :: others)

/-- The members of a body. -/
def membersFrom (lines : List Text) (className : Text) (next : Nat) :
    List Segment → Option (List (Located Declaration))
  | [] => some []
  | segment :: later =>
      if segment.line < next then membersFrom lines className next later
      else do
        let found ← membersOfSegment lines className (segment.text.length + 1) segment
        let reached := match found.getLast? with
          | some last => last.lastLine + 1
          | none => next
        let others ← membersFrom lines className reached later
        some (found ++ others)

/-! ## The two passes -/

/-- The class declared on a line, if one is. -/
def classAt (lines : List Text) (index : Nat) : Option (Option (Located ClassDeclaration)) := do
  let line ← lines[index]?
  let stripped := line.trim
  if Documentation.isCommentLine stripped then some none
  else
    match (Lead.classLead.matchStart? stripped).bind fun lead => lead.group? Lead.nameGroup with
    | none => some none
    | some name => do
        let signature ← signatureAt lines index {} Signature.defaultLineLimit Lead.classContinuations
        let documentation ← documentationAbove lines index
        let body ← bodyAfter lines index signature
        let members ← membersFrom lines name 0 body.segments
        some (some
          { item := { name, signature := signature.text, documentation,
                      methods := members.map Located.item }
            firstLine := index
            lastLine := body.lastLine })

/-- The classes from a line on. -/
def classesFrom (lines : List Text) : Nat → Nat → Option (List (Located ClassDeclaration))
  | 0, index => if index < lines.length then none else some []
  | steps + 1, index =>
      if lines.length ≤ index then some []
      else do
        let found ← classAt lines index
        match found with
        | none => classesFrom lines steps (index + 1)
        | some found => do
            let others ← classesFrom lines steps (max found.lastLine index + 1)
            some (found :: others)

/-- Make some lines empty. -/
def clear (lines : List Text) (indices : List Nat) : Option (List Text) :=
  indices.foldlM (fun lines index => if index < lines.length then some (lines.set index []) else none)
    lines

/-- Make the lines of all classes empty. -/
def withoutClasses (lines : List Text) (classes : List (Located ClassDeclaration)) :
    Option (List Text) :=
  classes.foldlM (fun lines found =>
    clear lines (List.range' found.firstLine (found.lastLine + 1 - found.firstLine))) lines

/-- The function declared on a line, if one is. -/
def functionAt (whole lines : List Text) (index : Nat) : Option (Option (Located Declaration)) := do
  let line ← lines[index]?
  let stripped := line.trim
  if stripped.isEmpty || Documentation.isCommentLine stripped then some none
  else
    match Outline.candidate? stripped with
    | none => some none
    | some found => do
        let signature ← signatureAt lines index {} Signature.defaultLineLimit []
        if found.declared || signature.hasBody ||
            signature.text.endsWithAny [":".toList, "=>".toList] then do
          let documentation ← documentationAbove whole index
          let body ← bodyAfter lines index signature
          some (some
            { item := { name := found.name, signature := signature.text, documentation }
              firstLine := index
              lastLine := body.lastLine })
        else some none

/-- The functions from a line on. -/
def functionsFrom (whole lines : List Text) : Nat → Nat → Option (List (Located Declaration))
  | 0, index => if index < lines.length then none else some []
  | steps + 1, index =>
      if lines.length ≤ index then some []
      else do
        let found ← functionAt whole lines index
        match found with
        | none => functionsFrom whole lines steps (index + 1)
        | some found => do
            let others ← functionsFrom whole lines steps (found.lastLine + 1)
            some (found :: others)

/-- The outline of a text. -/
def outline (text : Text) : Option Outline := do
  let lines := text.lines
  let classes ← classesFrom lines lines.length 0
  let rest ← withoutClasses lines classes
  let functions ← functionsFrom lines rest lines.length 0
  some { classes := classes.map Located.item, functions := functions.map Located.item }

/-! ## Scans are those of the list -/

variable {text : Text} {column : Nat}

theorem opensHashComment_eq (inside : column < text.length) :
    opensHashComment text column =
      some (Codemap.opensHashComment (beforeColumn text column) (text.drop (column + 1))) := by
  have before : (if column = 0 then some true else (text[column - 1]?).map isBlank) =
      some ((beforeColumn text column).all isBlank) := by
    rw [beforeColumn]
    split
    · rfl
    · rw [List.head?_drop, List.getElem?_eq_getElem (by omega)]
      rfl
  have after : (if text.length ≤ column + 1 then some true
      else (text[column + 1]?).map fun c => c == ' ' || c == '\t' || c == '#' || c == '!') =
        some ((text.drop (column + 1)).head?.all fun c => c == ' ' || c == '\t' || c == '#' || c == '!') := by
    rw [List.head?_drop]
    split
    · next ends => rw [List.getElem?_eq_none ends]; rfl
    · next more => rw [List.getElem?_eq_getElem (by omega)]; rfl
  rw [opensHashComment, before, after]
  rfl

/-- Only at a hash is the question whether a comment opens asked at all. -/
theorem hashComment_eq (inside : column < text.length) (c : Char) :
    (if c = '#' then opensHashComment text column else some false) =
      some (decide (c = '#' ∧ Codemap.opensHashComment (beforeColumn text column)
        (text.drop (column + 1)) = true)) := by
  rw [opensHashComment_eq inside]
  split <;> simp [*]

/-- The steps suffice for the columns that are left, and the scan is that of the list. -/
theorem feed_eq_feedFrom (stops : Stops) (text : Text) {steps column : Nat}
    (enough : text.length - column ≤ steps) (state : Delimiters) (escaped : Bool)
    (inString : escaped = true → state.inString = true ∧ state.inBlockComment = false) :
    feed stops text steps state escaped column =
      some (Delimiters.feedFrom stops state escaped (beforeColumn text column) column
        (text.drop column)) := by
  induction steps generalizing state escaped column with
  | zero =>
      have ends : text.length ≤ column := by omega
      rw [feed, if_neg (by omega), List.drop_eq_nil_of_le ends]
      rfl
  | succ steps inductionHypothesis =>
      rw [feed]
      split
      · next ends =>
          rw [List.drop_eq_nil_of_le ends]
          rfl
      next more =>
        have inside : column < text.length := Nat.lt_of_not_le more
        have there : text[column]? = some text[column] := List.getElem?_eq_getElem inside
        generalize text[column] = c at there
        have head : (text.drop (column + 1)).head? = text[column + 1]? := List.head?_drop
        have one (state : Delimiters) :
            feed stops text steps state false (column + 1) =
              some (Delimiters.feedFrom stops state false (some c) (column + 1)
                (text.drop (column + 1))) := by
          rw [inductionHypothesis (by omega) state false (by simp), beforeColumn_succ there]
        have two {d : Char} (next : text[column + 1]? = some d) (state : Delimiters) :
            feed stops text steps state false (column + 2) =
              some (Delimiters.feedFrom stops state true (some c) (column + 1)
                (text.drop (column + 1))) := by
          rw [inductionHypothesis (by omega) state false (by simp), drop_eq_cons next,
            Delimiters.feedFrom_inert, beforeColumn_succ next]
        rw [there, drop_eq_cons there, Delimiters.feedFrom]
        simp only [Option.bind_eq_bind, Option.bind_some, head]
        cases escaped with
        | true =>
            obtain ⟨quoted, code⟩ := inString rfl
            obtain ⟨quote, open'⟩ := Option.isSome_iff_exists.mp quoted
            simp only [code, open', if_true, Bool.false_eq_true, if_false, one]
        | false =>
            simp only [Bool.false_eq_true, if_false]
            by_cases comment : state.inBlockComment = true
            · simp only [comment, if_true]
              split
              · next closes => exact two closes.2 _
              · exact one _
            · simp only [comment, Bool.false_eq_true, if_false]
              cases open' : state.quote with
              | some quote =>
                  dsimp only
                  split
                  · rw [inductionHypothesis (by omega) state true
                      (by simp [Delimiters.inString, open', comment]), beforeColumn_succ there]
                  split
                  · exact one _
                  · exact one _
              | none =>
                  dsimp only
                  split
                  · exact one _
                  split
                  · next opens => exact two opens.2 _
                  split
                  · rfl
                  simp only [hashComment_eq inside, Option.bind_some, decide_eq_true_eq]
                  split
                  · rfl
                  split
                  · rfl
                  split
                  · rfl
                  · exact one _

theorem feed_eq (stops : Stops) (text : Text) (state : Delimiters) (start : Nat) :
    feed stops text text.length state false start = some (state.feed text start stops) :=
  feed_eq_feedFrom stops text (Nat.sub_le _ _) state false (by simp)

/-! ## Signatures are those of the list -/

variable {lines words : List Text}

theorem skipBlank_eq {bound steps cursor : Nat} (inside : bound ≤ lines.length)
    (enough : bound - cursor ≤ steps) :
    skipBlank lines bound steps cursor =
      some (cursor + (((lines.take bound).drop cursor).takeWhile Text.isBlankText).length) := by
  have beyond (ends : bound ≤ cursor) : (lines.take bound).drop cursor = [] := by
    rw [List.drop_eq_nil_iff, List.length_take]
    omega
  induction steps generalizing cursor with
  | zero => rw [skipBlank, if_neg (by omega), beyond (by omega)]; rfl
  | succ steps inductionHypothesis =>
      rw [skipBlank]
      split
      · next ends => rw [beyond ends]; rfl
      next more =>
        have there : lines[cursor]? = some lines[cursor] := List.getElem?_eq_getElem (by omega)
        generalize lines[cursor] = line at there
        have next : (lines.take bound).drop cursor = line :: (lines.take bound).drop (cursor + 1) := by
          have taken : (lines.take bound)[cursor]? = some line := by
            rw [List.getElem?_take, if_pos (by omega), there]
          exact drop_eq_cons taken
        rw [there, next]
        simp only [Option.bind_eq_bind, Option.bind_some, List.takeWhile_cons]
        split
        · rw [inductionHypothesis (by omega) fun ends => by
            rw [List.drop_eq_nil_iff, List.length_take]; omega]
          rw [List.length_cons, Nat.add_assoc, Nat.add_comm 1]
        · rfl

/-- Where the next line stands that is not blank. -/
theorem skipBlank_all (cursor : Nat) :
    skipBlank lines lines.length lines.length cursor =
      some (cursor + ((lines.drop cursor).takeWhile Text.isBlankText).length) := by
  rw [skipBlank_eq (Nat.le_refl _) (Nat.sub_le _ _), List.take_length]

/-- What follows the blank lines after a cursor. -/
theorem drop_takeWhile (cursor : Nat) :
    lines.drop (cursor + ((lines.drop cursor).takeWhile Text.isBlankText).length) =
      (lines.drop cursor).dropWhile Text.isBlankText := by
  have split := @List.drop_left _ ((lines.drop cursor).takeWhile Text.isBlankText)
    ((lines.drop cursor).dropWhile Text.isBlankText)
  rw [List.takeWhile_append_dropWhile] at split
  rw [← List.drop_drop, split]

theorem continuesWith_eq (parts : List Text) (index : Nat) :
    continuesWith lines words parts index =
      some (Signature.continuesWith words parts (lines.drop (index + 1))) := by
  rw [continuesWith, Signature.continuesWith]
  generalize (Signature.joined parts).trimEnd.endsWithAny [":".toList, ";".toList] = complete
  split
  · next stops =>
      rw [Bool.or_eq_true] at stops
      rcases stops with none | ends
      · rw [none]
        rfl
      · rw [ends, Bool.not_true, Bool.and_false, Bool.false_and]
  next open' =>
    rw [Bool.or_eq_true, not_or, Bool.not_eq_true, Bool.not_eq_true] at open'
    simp only [skipBlank_all, Option.bind_eq_bind, Option.bind_some, open'.1, open'.2, Bool.not_false,
      Bool.true_and]
    have follows := @drop_takeWhile lines (index + 1)
    generalize index + 1 + _ = cursor at follows ⊢
    rw [← follows]
    split
    · next ends => rw [List.drop_eq_nil_of_le ends]
    · next more =>
        have there : lines[cursor]? = some lines[cursor] := List.getElem?_eq_getElem (by omega)
        rw [there, drop_eq_cons there]
        rfl

/-- The list is searched from the first line that is not blank. -/
theorem signature_openerBelow_eq (next : Nat) (rest : List Text) :
    Signature.openerBelow next rest =
      match rest.dropWhile Text.isBlankText with
      | [] => none
      | line :: _ =>
          if line.trimStart.head? = some '{' then
            some ⟨next + (rest.takeWhile Text.isBlankText).length,
              line.length - (Text.trimStart line).length⟩
          else none := by
  induction rest generalizing next with
  | nil => rfl
  | cons line later inductionHypothesis =>
      rw [Signature.openerBelow, List.dropWhile_cons, List.takeWhile_cons]
      split
      · rw [inductionHypothesis]
        simp only [List.length_cons, Nat.add_assoc, Nat.add_comm 1]
      · rfl

theorem openerBelow_eq (index : Nat) :
    openerBelow lines index = some (Signature.openerBelow (index + 1) (lines.drop (index + 1))) := by
  rw [openerBelow, signature_openerBelow_eq]
  simp only [skipBlank_all, Option.bind_eq_bind, Option.bind_some]
  have follows := @drop_takeWhile lines (index + 1)
  generalize index + 1 + _ = cursor at follows ⊢
  rw [← follows]
  split
  · next ends => rw [List.drop_eq_nil_of_le ends]
  · next more =>
      have there : lines[cursor]? = some lines[cursor] := List.getElem?_eq_getElem (by omega)
      rw [there, drop_eq_cons there]
      rfl

theorem close_eq (first index : Nat) (state : Delimiters) (parts : List Text) :
    close lines first index state parts =
      some (Signature.close first index state parts (lines.drop (index + 1))) := by
  have opener : (if state.inString then some none else openerBelow lines index) =
      some (if state.inString then none
        else Signature.openerBelow (index + 1) (lines.drop (index + 1))) := by
    rw [openerBelow_eq]
    split <;> rfl
  rw [close, Signature.close, opener]
  generalize (if state.inString then none
    else Signature.openerBelow (index + 1) (lines.drop (index + 1))) = place
  cases place <;> rfl

/-- Blank lines are passed over as long as further lines may be gathered. -/
theorem gather_skip (first : Nat) (state : Delimiters) (parts : List Text) (index : Nat)
    {budget : Nat} {rest : List Text} (enough : budget < rest.length) :
    Signature.gather words first state parts index budget 0 true rest =
      Signature.gather words first state parts
        (index + ((rest.take budget).takeWhile Text.isBlankText).length)
        (budget - ((rest.take budget).takeWhile Text.isBlankText).length) 0 false
        (rest.drop ((rest.take budget).takeWhile Text.isBlankText).length) := by
  induction rest generalizing index budget with
  | nil => cases enough
  | cons line later inductionHypothesis =>
      rw [List.length_cons] at enough
      by_cases skips : budget ≠ 0 ∧ Text.isBlankText line = true
      · obtain ⟨fewer, rfl⟩ := Nat.exists_eq_succ_of_ne_zero skips.1
        rw [Signature.gather, if_pos (by simp [skips.2])]
        rw [Nat.succ_eq_add_one, Nat.add_sub_cancel, inductionHypothesis (index + 1) (by omega),
          List.take_succ_cons, List.takeWhile_cons, if_pos skips.2, List.length_cons,
          List.drop_succ_cons, Nat.add_sub_add_right, Nat.add_assoc, Nat.add_comm 1]
      · have none : ((line :: later).take budget).takeWhile Text.isBlankText = [] := by
          cases budget with
          | zero => rfl
          | succ fewer =>
              rw [List.take_succ_cons, List.takeWhile_cons, if_neg]
              exact fun blank => skips ⟨Nat.succ_ne_zero fewer, blank⟩
        rw [none, List.length_nil, Nat.add_zero, Nat.sub_zero, List.drop_zero, Signature.gather,
          Signature.gather, if_neg, if_neg]
        · simp
        · simpa using skips

theorem gather_eq {first limit steps : Nat} (inside : limit < lines.length) {index : Nat}
    (enough : limit - index < steps) (state : Delimiters) (parts : List Text) (offset : Nat)
    (line : Text) :
    gather lines words first limit steps state parts index offset line =
      some (Signature.gather words first state parts index (limit - index) offset false
        (line :: lines.drop (index + 1))) := by
  induction steps generalizing state parts index offset line with
  | zero => cases enough
  | succ steps inductionHypothesis =>
      rw [gather, Signature.gather, feed_eq]
      simp only [Option.bind_eq_bind, Option.bind_some, Bool.false_and, Bool.false_eq_true, if_false]
      cases (state.feed line offset { atTerminator := true }).halt with
      | some halted =>
          dsimp only
          split <;> rfl
      | none =>
          dsimp only
          by_cases last : limit ≤ index
          · rw [if_pos last, if_pos (Nat.sub_eq_zero_of_le last), close_eq]
          rw [if_neg last, if_neg (show ¬ limit - index = 0 by omega)]
          generalize parts ++ _ = gathered
          generalize (state.feed line offset { atTerminator := true }).state = state
          have more : (if Signature.needsMore state gathered then some true
              else continuesWith lines words gathered index) =
              some (Signature.needsMore state gathered ||
                Signature.continuesWith words gathered (lines.drop (index + 1))) := by
            rw [continuesWith_eq]
            split <;> simp [*]
          rw [more, Option.bind_some]
          split
          · rw [skipBlank_eq (Nat.le_of_lt inside) (by omega), Option.bind_some,
              gather_skip first state gathered (index + 1)
                (show limit - index - 1 < (lines.drop (index + 1)).length by
                  rw [List.length_drop]; omega),
              Nat.sub_sub, ← List.drop_take, List.drop_drop]
            have few : (((lines.take limit).drop (index + 1)).takeWhile Text.isBlankText).length ≤
                limit - (index + 1) := by
              refine Nat.le_trans (List.takeWhile_prefix _).length_le ?_
              rw [List.length_drop, List.length_take]
              omega
            generalize (((lines.take limit).drop (index + 1)).takeWhile Text.isBlankText).length = blanks
              at few
            have there : lines[index + 1 + blanks]? = some lines[index + 1 + blanks] :=
              List.getElem?_eq_getElem (by omega)
            rw [there, Option.bind_some, drop_eq_cons there, inductionHypothesis (by omega),
              show limit - (index + 1) - blanks = limit - (index + 1 + blanks) by omega]
          · exact close_eq ..

/-- The signature of a declaration is that of the list. -/
theorem signatureAt_eq {start : Nat} (inside : start < lines.length) (window : Signature.Window)
    (most : Nat) :
    signatureAt lines start window most words = Signature.find? lines start window most words := by
  have there : lines[start]? = some lines[start] := List.getElem?_eq_getElem inside
  rw [signatureAt, Signature.find?, there, drop_eq_cons there]
  simp only [Option.bind_eq_bind, Option.bind_some]
  rw [gather_eq (by omega) (by omega)]
  rfl

/-! ## Bodies are those of the list -/

theorem bracedFrom_eq {steps index : Nat} (inside : index ≤ lines.length)
    (enough : lines.length - index ≤ steps) (state : Delimiters) (offset : Nat) :
    bracedFrom lines steps state index offset =
      some (Body.bracedFrom state index offset (lines.drop index)) := by
  have beyond {index : Nat} (inside : index ≤ lines.length) (ends : lines.length ≤ index)
      (state : Delimiters) (offset : Nat) :
      ({ segments := [], lastLine := lines.length - 1 } : Body) =
        Body.bracedFrom state index offset (lines.drop index) := by
    rw [List.drop_eq_nil_of_le ends, Body.bracedFrom, Nat.le_antisymm inside ends]
  induction steps generalizing state index offset with
  | zero => rw [bracedFrom, if_neg (by omega), beyond inside (by omega)]
  | succ steps inductionHypothesis =>
      rw [bracedFrom]
      split
      · next ends => rw [beyond inside ends]
      next more =>
        have there : lines[index]? = some lines[index] := List.getElem?_eq_getElem (by omega)
        generalize lines[index] = line at there
        rw [there, drop_eq_cons there, Body.bracedFrom]
        simp only [Option.bind_eq_bind, Option.bind_some, feed_eq]
        split
        · next halted => simp only [halted]
        · next halted =>
            rw [inductionHypothesis (by omega) (by omega)]
            simp only [halted, Option.bind_some]

theorem indentedFrom_eq {steps cursor : Nat} (enough : lines.length - cursor ≤ steps) (base : Nat)
    (level : Option Nat) (last : Nat) :
    indentedFrom lines base steps level cursor last =
      some (Body.indentedFrom base level cursor last (lines.drop cursor)) := by
  induction steps generalizing level cursor last with
  | zero =>
      rw [indentedFrom, if_neg (by omega), List.drop_eq_nil_of_le (by omega)]
      rfl
  | succ steps inductionHypothesis =>
      rw [indentedFrom]
      split
      · next ends =>
          rw [List.drop_eq_nil_of_le ends]
          rfl
      next more =>
        have there : lines[cursor]? = some lines[cursor] := List.getElem?_eq_getElem (by omega)
        generalize lines[cursor] = line at there
        rw [there, drop_eq_cons there, Body.indentedFrom]
        have below (level : Option Nat) (last : Nat) :=
          @inductionHypothesis (cursor + 1) (by omega) level last
        simp only [Option.bind_eq_bind, Option.bind_some, below]
        split
        · rfl
        split <;> rfl

/-- The body after a signature is that of the list. -/
theorem bodyAfter_eq {index : Nat} (inside : index < lines.length) {signature : Signature}
    (opens : ∀ place, signature.body = some place → place.line < lines.length) :
    bodyAfter lines index signature = some (Outline.classBody lines index signature) := by
  rw [bodyAfter, Outline.classBody]
  cases opener : signature.body with
  | some place => exact bracedFrom_eq (Nat.le_of_lt (opens place opener)) (Nat.sub_le _ _) ..
  | none =>
      have there : lines[index]? = some lines[index] := List.getElem?_eq_getElem inside
      dsimp only
      split
      · rw [there, Body.indented, getD_of_getElem? there]
        exact indentedFrom_eq (Nat.sub_le _ _) ..
      · rfl

/-! ## Documentation is that of the list -/

theorem reverse_take_succ {cursor : Nat} {line : Text} (there : lines[cursor]? = some line) :
    (lines.take (cursor + 1)).reverse = line :: (lines.take cursor).reverse := by
  rw [List.take_add_one, there, Option.toList_some, List.reverse_append]
  rfl

theorem skipAnnotations_eq {index : Nat} (inside : index ≤ lines.length) :
    ∃ cursor, skipAnnotations lines index = some cursor ∧ cursor ≤ lines.length ∧
      (lines.take index).reverse.dropWhile (fun line => Documentation.isAnnotation line.trim) =
        (lines.take cursor).reverse := by
  induction index with
  | zero => exact ⟨0, rfl, inside, rfl⟩
  | succ cursor inductionHypothesis =>
      have there : lines[cursor]? = some lines[cursor] := List.getElem?_eq_getElem inside
      rw [skipAnnotations, reverse_take_succ there, there]
      simp only [Option.bind_eq_bind, Option.bind_some, List.dropWhile_cons]
      split
      · exact inductionHypothesis (Nat.le_of_lt inside)
      · exact ⟨cursor + 1, rfl, inside, (reverse_take_succ there).symm⟩

theorem collect_eq {cursor : Nat} (inside : cursor ≤ lines.length) (found : List Text) :
    collect lines found cursor =
      some (Documentation.collect found (lines.take cursor).reverse) := by
  induction cursor generalizing found with
  | zero => rfl
  | succ cursor inductionHypothesis =>
      have there : lines[cursor]? = some lines[cursor] := List.getElem?_eq_getElem inside
      rw [collect, reverse_take_succ there, there, Documentation.collect]
      simp only [Option.bind_eq_bind, Option.bind_some, inductionHypothesis (Nat.le_of_lt inside)]
      cases Documentation.textOf? lines[cursor].trim with
      | some text => rfl
      | none =>
          dsimp only
          split <;> rfl

/-- The documentation above a line is that of the list. -/
theorem documentationAbove_eq {index : Nat} (inside : index ≤ lines.length) :
    documentationAbove lines index = some (Documentation.above lines index) := by
  obtain ⟨cursor, skipped, below, run⟩ := skipAnnotations_eq inside
  rw [documentationAbove, skipped, Documentation.above, Documentation.ofLinesAbove, run]
  simp only [Option.bind_eq_bind, Option.bind_some, collect_eq below]
  cases Documentation.dropEmptyEnds (Documentation.collect [] (lines.take cursor).reverse) <;> rfl

/-! ## Members are those of the list -/

variable {className : Text}

theorem restOfSegment_eq {segment : Segment} (inside : segment.line < lines.length)
    (signature : Signature) :
    restOfSegment lines segment signature =
      some (Outline.restOfSegment lines segment signature) := by
  rw [restOfSegment]
  cases opens : signature.body with
  | none =>
      rw [Outline.restOfSegment, opens]
  | some place =>
      dsimp only
      split
      · next other =>
          rw [Outline.restOfSegment, opens]
          simp [other]
      · next here =>
          have there : lines[segment.line]? = some lines[segment.line] :=
            List.getElem?_eq_getElem inside
          rw [Outline.restOfSegment_eq opens (Decidable.of_not_not here) there, there]
          simp only [Option.bind_eq_bind, Option.bind_some, feed_eq]
          split
          · next halted => rw [halted]; rfl
          · next halted =>
              rw [halted, Option.bind_some]
              dsimp only
              split <;> rfl

/-- The steps suffice for the characters of a segment, because each member leaves fewer. -/
theorem membersOfSegment_eq {steps : Nat} {segment : Segment} (piece : segment.In lines)
    (enough : segment.text.length < steps) :
    membersOfSegment lines className steps segment =
      some (Outline.membersOfSegment lines className steps segment) := by
  induction steps generalizing segment with
  | zero => cases enough
  | succ steps inductionHypothesis =>
      have inside : segment.line < lines.length := by
        rcases piece with ⟨line, there, -⟩
        exact (List.getElem?_eq_some_iff.mp there).1
      rw [membersOfSegment, Outline.membersOfSegment, signatureAt_eq inside,
        documentationAbove_eq (Nat.le_of_lt inside)]
      cases Outline.memberName? className (Text.trim segment.text) with
      | none => rfl
      | some name =>
          dsimp only
          cases complete : Signature.find? lines segment.line ⟨segment.start, segment.stop⟩
              Signature.defaultLineLimit [] with
          | none =>
              have found := Signature.find?_isSome inside ⟨segment.start, segment.stop⟩
                Signature.defaultLineLimit []
              rw [complete] at found
              cases found
          | some signature =>
              simp only [Option.bind_eq_bind, Option.bind_some, restOfSegment_eq inside]
              cases left : Outline.restOfSegment lines segment signature with
              | none => rfl
              | some rest =>
                  obtain ⟨-, -, again, shorter⟩ := Outline.restOfSegment_shorter piece complete left
                  simp only [inductionHypothesis again (by omega), Option.bind_some]

theorem membersFrom_eq {next : Nat} {segments : List Segment}
    (pieces : ∀ segment ∈ segments, segment.In lines) :
    membersFrom lines className next segments =
      some (Outline.membersFrom lines className next segments) := by
  induction segments generalizing next with
  | nil => rfl
  | cons segment later inductionHypothesis =>
      obtain ⟨here, below⟩ := List.forall_mem_cons.mp pieces
      rw [membersFrom, Outline.membersFrom]
      split
      · exact inductionHypothesis below
      · rw [membersOfSegment_eq here (Nat.lt_add_one _), Option.bind_eq_bind, Option.bind_some]
        generalize Outline.membersOfSegment lines className _ segment = found
        cases last : found.getLast? <;>
          simp only [inductionHypothesis below, Option.bind_some, last]

/-! ## The passes are those of the list -/

variable {index : Nat}

/-- The body after the signature on a line is that of the list. -/
theorem bodyAfter_find? {start : Nat} (inside : index < lines.length) {window : Signature.Window}
    {most : Nat} {signature : Signature}
    (complete : Signature.find? lines start window most words = some signature) :
    bodyAfter lines index signature = some (Outline.classBody lines index signature) := by
  refine bodyAfter_eq inside fun place opener => ?_
  rw [(Signature.opensAt_find? complete opener).1]
  exact (Signature.lastLine_find? complete).2

theorem classAt_eq (inside : index < lines.length) :
    classAt lines index = some (Outline.classAt? lines index) := by
  have there : lines[index]? = some lines[index] := List.getElem?_eq_getElem inside
  rw [classAt, Outline.classAt?, signatureAt_eq inside, documentationAbove_eq (Nat.le_of_lt inside),
    there]
  simp only [Option.bind_eq_bind, Option.bind_some]
  split
  · rfl
  cases Lead.classLead.matchStart? lines[index].trim with
  | none => rfl
  | some lead =>
      simp only [Option.bind_some]
      cases lead.group? Lead.nameGroup with
      | none => rfl
      | some name =>
          dsimp only
          cases complete : Signature.find? lines index {} Signature.defaultLineLimit
              Lead.classContinuations with
          | none =>
              have found := Signature.find?_isSome inside {} Signature.defaultLineLimit
                Lead.classContinuations
              rw [complete] at found
              cases found
          | some signature =>
              simp only [Option.bind_some, bodyAfter_find? inside complete,
                membersFrom_eq (Outline.segments_in complete)]

theorem classesFrom_eq {steps : Nat} (enough : lines.length ≤ index + steps) :
    classesFrom lines steps index = some (Outline.classesFrom lines steps index) := by
  induction steps generalizing index with
  | zero => rw [classesFrom, if_neg (by omega), Outline.classesFrom]
  | succ steps inductionHypothesis =>
      rw [classesFrom, Outline.classesFrom]
      split
      · rfl
      next more =>
        rw [classAt_eq (Nat.lt_of_not_le more), Option.bind_eq_bind, Option.bind_some]
        cases Outline.classAt? lines index with
        | none => exact inductionHypothesis (by omega)
        | some found =>
            have later := @inductionHypothesis (max found.lastLine index + 1) (by omega)
            simp only [later, Option.bind_eq_bind, Option.bind_some]

/-- The lines from one on are made empty. -/
theorem clear_eq {first count : Nat} (inside : first + count ≤ lines.length) :
    clear lines (List.range' first count) =
      some (lines.mapIdx fun index line =>
        if first ≤ index ∧ index < first + count then [] else line) := by
  induction count generalizing first lines with
  | zero =>
      have none (index : Nat) : ¬ (first ≤ index ∧ index < first + 0) := by omega
      simp only [none, if_false]
      rw [clear, List.range'_zero, List.foldlM_nil]
      exact congrArg some (List.ext_getElem? fun index => by simp)
  | succ count inductionHypothesis =>
      have later := @inductionHypothesis (lines.set first []) (first + 1)
        (by rw [List.length_set]; omega)
      rw [clear] at later
      rw [List.range'_succ, clear, List.foldlM_cons, if_pos (by omega), Option.bind_eq_bind,
        Option.bind_some, later]
      refine congrArg some (List.ext_getElem? fun index => ?_)
      simp only [List.getElem?_mapIdx, List.getElem?_set]
      by_cases here : first = index
      · subst here
        rw [if_pos rfl, if_pos (by omega), List.getElem?_eq_getElem (by omega)]
        simp
      · have same : (first + 1 ≤ index ∧ index < first + 1 + count) ↔
            (first ≤ index ∧ index < first + (count + 1)) := by omega
        simp only [if_neg here, same]

/-- The lines of the classes are made empty. -/
theorem withoutClasses_eq {classes : List (Located ClassDeclaration)}
    (within : ∀ found ∈ classes, found.firstLine ≤ found.lastLine ∧ found.lastLine < lines.length) :
    withoutClasses lines classes = some (Outline.withoutClasses lines classes) := by
  induction classes generalizing lines with
  | nil => exact congrArg some (List.ext_getElem? fun index => by simp [Outline.withoutClasses])
  | cons found later inductionHypothesis =>
      obtain ⟨here, below⟩ := List.forall_mem_cons.mp within
      have rest := @inductionHypothesis (lines.mapIdx fun index line =>
        if found.firstLine ≤ index ∧ index < found.lastLine + 1 then [] else line)
        (by simpa using below)
      rw [withoutClasses] at rest
      rw [withoutClasses, List.foldlM_cons, clear_eq (by omega), Option.bind_eq_bind,
        Option.bind_some, show found.firstLine + (found.lastLine + 1 - found.firstLine) =
          found.lastLine + 1 by omega, rest]
      refine congrArg some (List.ext_getElem? fun index => ?_)
      have covered : Outline.Located.covers found index = true ↔
          found.firstLine ≤ index ∧ index < found.lastLine + 1 := by
        rw [Outline.Located.covers, Bool.and_eq_true, decide_eq_true_eq, decide_eq_true_eq,
          Nat.lt_add_one_iff]
      simp only [Outline.withoutClasses, List.getElem?_mapIdx, List.any_cons, Bool.or_eq_true,
        covered, Option.map_map]
      congr 1
      funext line
      dsimp only [Function.comp]
      by_cases here : found.firstLine ≤ index ∧ index < found.lastLine + 1
      · rw [if_pos here, if_pos (Or.inl here), ite_self]
      · rw [if_neg here]
        simp only [here, false_or]

theorem functionAt_eq {whole : List Text} (inside : index < lines.length)
    (same : whole.length = lines.length) :
    functionAt whole lines index = some (Outline.functionAt? whole lines index) := by
  have there : lines[index]? = some lines[index] := List.getElem?_eq_getElem inside
  rw [functionAt, Outline.functionAt?, signatureAt_eq inside,
    documentationAbove_eq (same ▸ Nat.le_of_lt inside), there]
  simp only [Option.bind_eq_bind, Option.bind_some]
  split
  · rfl
  cases Outline.candidate? lines[index].trim with
  | none => rfl
  | some found =>
      simp only [Option.bind_some]
      cases complete : Signature.find? lines index {} Signature.defaultLineLimit [] with
      | none =>
          have found := Signature.find?_isSome inside {} Signature.defaultLineLimit []
          rw [complete] at found
          cases found
      | some signature =>
          simp only [Option.bind_some, bodyAfter_find? inside complete]
          split <;> rfl

theorem functionsFrom_eq {whole : List Text} {steps : Nat} (enough : lines.length ≤ index + steps)
    (same : whole.length = lines.length) :
    functionsFrom whole lines steps index = some (Outline.functionsFrom whole lines steps index) := by
  induction steps generalizing index with
  | zero => rw [functionsFrom, if_neg (by omega), Outline.functionsFrom]
  | succ steps inductionHypothesis =>
      rw [functionsFrom, Outline.functionsFrom]
      split
      · rfl
      next more =>
        rw [functionAt_eq (Nat.lt_of_not_le more) same, Option.bind_eq_bind, Option.bind_some]
        cases at? : Outline.functionAt? whole lines index with
        | none => exact inductionHypothesis (by omega)
        | some found =>
            obtain ⟨-, span, -⟩ := Outline.functionAt?_within at?
            have later := @inductionHypothesis (found.lastLine + 1) (by omega)
            simp only [later, Option.bind_eq_bind, Option.bind_some]

/-- The outline by indices is the outline. -/
theorem outline_eq (text : Text) : outline text = some (Outline.ofText text) := by
  have classes := @classesFrom_eq text.lines 0 text.lines.length (by omega)
  have spans := Outline.classesFrom_ascending text.lines text.lines.length 0
  have rest := @withoutClasses_eq text.lines (Outline.locatedClasses text.lines)
    fun found member => (spans.mem member).2
  have functions := @functionsFrom_eq
    (Outline.withoutClasses text.lines (Outline.locatedClasses text.lines)) 0 text.lines
    text.lines.length (by simp) (by simp)
  rw [Outline.locatedClasses] at rest functions
  simp only [outline, classes, rest, functions, Option.bind_eq_bind, Option.bind_some]
  rfl

/-- Every text has an outline: no fetch leaves the text and no loop runs over its steps.
The classes span lines of the text, one after another, and so do the functions, none of
which begins on a line of a class.  Each step of the search leads on. -/
theorem outline_total (text : Text) :
    let lines := text.lines
    let classes := Outline.locatedClasses lines
    let functions := Outline.locatedFunctions lines
    outline text = some { classes := classes.map Located.item,
                          functions := functions.map Located.item } ∧
      Outline.Spans lines.length classes ∧ Outline.Spans lines.length functions ∧
      (∀ function ∈ functions, ∀ found ∈ classes,
        Outline.Located.covers found function.firstLine = false) ∧
      Outline.Advances lines ∧ Outline.Advances (Outline.withoutClasses lines classes) := by
  intro lines classes functions
  have clean := (Outline.functionsFrom_ascending lines (Outline.withoutClasses lines classes)
    lines.length 0).1
  rw [Outline.length_withoutClasses] at clean
  exact ⟨outline_eq text, (Outline.classesFrom_ascending lines lines.length 0).spans, clean.spans,
    fun function member found isClass => Outline.not_covers_function lines member isClass,
    Outline.advances lines, Outline.advances _⟩

end Indexed
end Codemap
