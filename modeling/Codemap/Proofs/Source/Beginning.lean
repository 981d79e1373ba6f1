import Codemap.Proofs.Source.Extent
import Codemap.Proofs.Source.Leads
import Codemap.Proofs.Source.Shift

namespace Codemap

/-!
# What a signature begins with

A lead and the scanner read the same line, but by different rules.  A lead with parameters reads
up to the parenthesis that opens them and passes over whatever stands in angle brackets.  The
scanner knows no angle brackets: a brace or a semicolon between them ends the signature, and a
comment mark ends the line.

So the lead is scanned on its own.  If the scan comes to the end of it, the signature begins with
the whole lead.  If the scan stops before, the signature is what stands in front of the stop.
-/

namespace Delimiters

variable {stops : Stops} {state : Delimiters} {inert : Bool} {before : Option Char} {column : Nat}

/-! ## The scan of a text with something behind it -/

/-- Behind an opening parenthesis a scan goes on, whatever comes. -/
theorem move_paren (stops : Stops) (state : Delimiters) (before : Option Char) :
    ∃ next, ∀ rest, move stops state before '(' rest = .onward next false := by
  obtain ⟨braces, parens, brackets, quote, inBlockComment⟩ := state
  cases inBlockComment with
  | true => exact ⟨_, fun rest => by simp [move]; rfl⟩
  | false =>
      cases quote with
      | none => exact ⟨_, fun rest => by simp [move, isQuote]; rfl⟩
      | some quote =>
          by_cases closes : '(' = quote
          · subst closes
            exact ⟨_, fun rest => by simp [move]; rfl⟩
          · exact ⟨_, fun rest => by simp [move, closes]; rfl⟩

end Delimiters

/-- A scan comes to the end of its text. -/
def Scan.Passes (scan : Scan) : Prop :=
  scan.halt = none ∧ scan.commentStart = none

instance (scan : Scan) : Decidable scan.Passes :=
  inferInstanceAs (Decidable (_ ∧ _))

@[simp] theorem Scan.passes_shift (columns : Nat) (scan : Scan) :
    (scan.shift columns).Passes ↔ scan.Passes := by
  simp [Scan.Passes, Scan.shift]

namespace Delimiters

variable {stops : Stops} {state : Delimiters} {inert : Bool} {before : Option Char} {column : Nat}

/-- A text that ends in an opening parenthesis is scanned alike whatever stands behind it.  If the
scan comes to its end, it goes on there. -/
theorem feedFrom_append {text : Text} (closes : Lead.Closes text) (more : Text) :
    feedFrom stops state inert before column (text ++ more) =
      let scan := feedFrom stops state inert before column text
      if scan.Passes then feedFrom stops scan.state false (some '(') (column + text.length) more
      else scan := by
  induction text generalizing state inert before column with
  | nil => cases closes
  | cons c rest inductionHypothesis =>
      cases rest with
      | nil =>
          obtain rfl : c = '(' := Option.some.inj closes
          cases inert with
          | true => rw [List.singleton_append, feedFrom_inert, feedFrom_inert]; rfl
          | false =>
              obtain ⟨next, goes⟩ := move_paren stops state before
              rw [List.singleton_append, feedFrom_cons, feedFrom_cons, goes, goes]
              rfl
      | cons d rest =>
          have later : Lead.Closes (d :: rest) := by simpa [Lead.Closes] using closes
          have length : column + (c :: d :: rest).length = column + 1 + (d :: rest).length := by
            simp only [List.length_cons]
            omega
          rw [List.cons_append, length]
          cases inert with
          | true =>
              rw [feedFrom_inert, feedFrom_inert]
              exact inductionHypothesis later
          | false =>
              rw [feedFrom_cons, feedFrom_cons,
                move_congr c (show (d :: rest ++ more).head? = (d :: rest).head? from rfl)]
              cases move stops state before c (d :: rest) with
              | onward next inert => exact inductionHypothesis later
              | comment => rfl
              | halt after => rfl

/-- The character before a text matters only to a hash sign. -/
theorem feedFrom_of_ne_hash {c : Char} (other : c ≠ '#') (rest : Text) (before before' : Option Char) :
    feedFrom stops state inert before column (c :: rest) =
      feedFrom stops state inert before' column (c :: rest) := by
  cases inert with
  | true => rw [feedFrom_inert, feedFrom_inert]
  | false => rw [feedFrom_cons, feedFrom_cons, move, move]; simp only [other, false_and, if_false]

/-- A scan of calm characters comes to their end. -/
theorem passes_of_calm {text : Text} (calm : text.all Lead.isCalm = true) :
    (feedFrom { atTerminator := true } state inert before column text).Passes := by
  induction text generalizing state inert before column with
  | nil => exact ⟨rfl, rfl⟩
  | cons c rest inductionHypothesis =>
      rw [List.all_cons, Bool.and_eq_true] at calm
      obtain ⟨here, later⟩ := calm
      simp only [Lead.isCalm, Bool.and_eq_true, bne_iff_ne] at here
      obtain ⟨⟨⟨noBrace, noSemicolon⟩, noSlash⟩, noHash⟩ := here
      cases inert with
      | true =>
          rw [feedFrom_inert]
          exact inductionHypothesis later
      | false =>
          rw [feedFrom_cons]
          cases moved : move { atTerminator := true } state before c rest with
          | onward next inert => exact inductionHypothesis later
          | comment => exact absurd (move_eq_comment moved) (by simp [noSlash, noHash])
          | halt after =>
              rcases move_eq_halt moved with ⟨-, stop⟩ | ⟨close, -⟩
              · exact absurd stop (by simp [noBrace, noSemicolon])
              · cases close

end Delimiters

namespace Signature

/-! ## The text of a signature -/

theorem text_close (first index : Nat) (state : Delimiters) (parts later : List Text) :
    (close first index state parts later).text = (joined parts).normalizeBlanks := by
  rw [close]
  split <;> rfl

/-- What has been gathered stays. -/
theorem text_gather {words : List Text} {first : Nat} (state : Delimiters) (parts : List Text)
    (index budget offset : Nat) (skipping : Bool) (lines : List Text) :
    ∃ others, (gather words first state parts index budget offset skipping lines).text =
      (joined (parts ++ others)).normalizeBlanks := by
  induction lines generalizing state parts index budget offset skipping with
  | nil => exact ⟨[], by rw [gather, text_close, List.append_nil]⟩
  | cons line later inductionHypothesis =>
      rw [gather]
      split
      · exact inductionHypothesis state parts (index + 1) (budget - 1) 0 true
      dsimp only
      split
      · split
        · exact ⟨_, rfl⟩
        · exact ⟨_, rfl⟩
      · split
        · exact ⟨_, text_close _ _ _ _ _⟩
        split
        · obtain ⟨others, same⟩ := inductionHypothesis
            (state.feed line offset { atTerminator := true }).state
            (parts ++ [line.slice offset ((state.feed line offset
              { atTerminator := true }).commentStart.getD line.length)])
            (index + 1) (budget - 1) 0 true
          exact ⟨_, by rw [same, List.append_assoc]⟩
        · exact ⟨_, text_close _ _ _ _ _⟩

variable {words : List Text} {first index budget offset : Nat} {state : Delimiters} {line : Text}
  {later : List Text}

/-- A signature that ends on its first line is the text up to where the scan stops. -/
theorem text_of_halt {c : Char} {column : Nat}
    (halted : (state.feed line offset { atTerminator := true }).halt = some (c, column)) :
    (gather words first state [] index budget offset false (line :: later)).text =
      (line.slice offset (if c = '\x7b' then column else column + 1)).normalizeBlanks := by
  rw [gather]
  simp only [Bool.false_and, Bool.false_eq_true, if_false, List.nil_append, halted]
  split <;> rw [joined, List.intercalate_singleton]

/-- Otherwise it begins with the text of the line up to a comment. -/
theorem text_of_end (ended : (state.feed line offset { atTerminator := true }).halt = none) :
    ∃ others, (gather words first state [] index budget offset false (line :: later)).text =
      (joined (line.slice offset ((state.feed line offset
        { atTerminator := true }).commentStart.getD line.length) :: others)).normalizeBlanks := by
  rw [gather]
  simp only [Bool.false_and, Bool.false_eq_true, if_false, List.nil_append, ended]
  split
  · exact ⟨[], text_close _ _ _ _ _⟩
  split
  · exact text_gather _ [_] _ _ _ _ _
  · exact ⟨[], text_close _ _ _ _ _⟩

/-- The scan of a line goes beyond a column. -/
def Beyond (column : Nat) (line : Text) (scan : Scan) : Prop :=
  column ≤ line.length ∧ (∀ c stop, scan.halt = some (c, stop) → column ≤ stop) ∧
    ∀ start, scan.commentStart = some start → column ≤ start

/-- If the scan of the first line goes beyond a column, so does the text that begins the signature. -/
theorem text_of_beyond {column : Nat}
    (beyond : Beyond column line (state.feed line offset { atTerminator := true })) :
    ∃ stop others, column ≤ stop ∧
      (gather words first state [] index budget offset false (line :: later)).text =
        (joined (line.slice offset stop :: others)).normalizeBlanks := by
  obtain ⟨line, halts, comments⟩ := beyond
  cases halted : (state.feed _ offset { atTerminator := true }).halt with
  | some pair =>
      obtain ⟨c, stop⟩ := pair
      have after := halts c stop halted
      refine ⟨if c = '\x7b' then stop else stop + 1, [], by split <;> omega, ?_⟩
      rw [text_of_halt halted, joined, List.intercalate_singleton]
  | none =>
      obtain ⟨others, same⟩ := text_of_end halted
      refine ⟨_, others, ?_, same⟩
      cases begins : (state.feed _ offset { atTerminator := true }).commentStart with
      | none => exact line
      | some start => exact comments start begins

/-- The first part stands in front. -/
theorem joined_cons (others : List Text) : ∃ more, ∀ part, joined (part :: others) = part ++ more := by
  cases others with
  | nil => exact ⟨[], fun part => by rw [joined, List.intercalate_singleton, List.append_nil]⟩
  | cons next others =>
      exact ⟨_, fun part => by rw [joined, List.intercalate_cons_cons, List.append_assoc]⟩

end Signature

/-! ## Leads on lines -/

namespace Lead

open Pattern

/-- The scan of a lead on its own. -/
def scan (lead : Text) : Scan :=
  Delimiters.feed {} lead 0 { atTerminator := true }

/-- How a signature begins whose declaration begins with a lead.  If the scanner comes to the end
of the lead, then with the whole lead, but for blanks.  If it stops within the lead, the signature
ends there; and if a comment begins there, only further lines follow.  The scanner comes to the end
of every lead without brackets. -/
structure Begins (lead signature : Text) : Prop where
  whole : (scan lead).Passes → lead.normalizeBlanks <+: signature
  cut : ∀ c column, (scan lead).halt = some (c, column) →
    signature = Text.normalizeBlanks (lead.take (if c = '\x7b' then column else column + 1))
  comment : ∀ column, (scan lead).commentStart = some column →
    ∃ others, signature = (Signature.joined (lead.take column :: others)).normalizeBlanks
  calm : '<' ∉ lead → ')' ∉ lead → (scan lead).Passes

variable {lead line : Text}

/-- A line is scanned as the lead with which it begins. -/
theorem feed_of_lead {blanks more : Text} {offset : Nat}
    (split : line.drop offset = blanks ++ (lead ++ more))
    (blank : blanks.all isBlank = true) (opens : Opens isPlain lead) (closes : Closes lead) :
    Delimiters.feed {} line offset { atTerminator := true } =
      if (scan lead).Passes then
        Delimiters.feedFrom { atTerminator := true } (scan lead).state false (some '(')
          (offset + blanks.length + lead.length) more
      else (scan lead).shift (offset + blanks.length) := by
  have alone := @Delimiters.feedFrom_column { atTerminator := true } {} false none lead
    (offset + blanks.length) 0
  obtain ⟨before, -, same⟩ := @Delimiters.feedFrom_blanks { atTerminator := true } {}
    (Delimiters.proper_braces 0) blanks blank (beforeColumn line offset) offset (lead ++ more)
  rw [Delimiters.feed_beforeColumn, split, same]
  cases lead with
  | nil => cases closes
  | cons c rest =>
      have noHash : c ≠ '#' := by
        rintro rfl
        cases opens
      rw [List.cons_append, Delimiters.feedFrom_of_ne_hash noHash _ _ none, ← List.cons_append,
        Delimiters.feedFrom_append closes, ← Nat.add_zero (offset + blanks.length), alone]
      simp only [Scan.passes_shift]
      rfl

section Pieces

variable {blanks more : Text} {offset : Nat} (split : line.drop offset = blanks ++ (lead ++ more))

include split

/-- A piece that ends within the lead. -/
theorem slice_within {count : Nat} (within : count ≤ lead.length) :
    line.slice offset (offset + blanks.length + count) = blanks ++ lead.take count := by
  rw [Text.slice, List.drop_take, split, show offset + blanks.length + count - offset =
    blanks.length + count by omega, List.take_length_add_append, List.take_append_of_le_length within]

/-- A piece that ends behind the lead. -/
theorem slice_beyond {stop : Nat} (beyond : offset + blanks.length + lead.length ≤ stop) :
    ∃ tail, line.slice offset stop = blanks ++ (lead ++ tail) := by
  obtain ⟨count, rfl⟩ := Nat.exists_eq_add_of_le beyond
  refine ⟨more.take count, ?_⟩
  rw [Text.slice, List.drop_take, split, show offset + blanks.length + lead.length + count - offset =
    blanks.length + (lead.length + count) by omega, List.take_length_add_append,
    List.take_length_add_append]

end Pieces

/-- Blanks before a lead and whatever stands behind it leave its words. -/
theorem normalizeBlanks_lead_prefix (closes : Closes lead) {blanks : Text}
    (blank : blanks.all isBlank = true) (tail : Text) :
    lead.normalizeBlanks <+: Text.normalizeBlanks (blanks ++ (lead ++ tail)) := by
  obtain ⟨front, rfl⟩ := List.getLast?_eq_some_iff.mp closes
  rw [Text.normalizeBlanks_append_of_blank blank, List.append_assoc]
  exact Text.normalizeBlanks_prefix rfl front tail

/-- A signature that is gathered from a line with a lead begins with the lead. -/
theorem begins_gather {words : List Text} {first index budget offset : Nat} {later : List Text}
    {blanks more : Text} (split : line.drop offset = blanks ++ (lead ++ more))
    (blank : blanks.all isBlank = true) (opens : Opens isPlain lead) (closes : Closes lead)
    (calm : Calm lead) :
    Begins lead
      (Signature.gather words first {} [] index budget offset false (line :: later)).text := by
  have scanned := feed_of_lead split blank opens closes
  have stopped (obstructed : ¬ (scan lead).Passes) :
      Delimiters.feed {} line offset { atTerminator := true } =
        (scan lead).shift (offset + blanks.length) := by
    rw [scanned, if_neg obstructed]
  refine ⟨fun passes => ?_, fun c column halted => ?_, fun column begun => ?_,
    fun noAngle noParen => ?_⟩
  · rw [if_pos passes] at scanned
    have beyond : Signature.Beyond (offset + blanks.length + lead.length) line
        (Delimiters.feed {} line offset { atTerminator := true }) := by
      have length := congrArg List.length split
      rw [List.length_drop, List.length_append, List.length_append] at length
      rw [scanned]
      refine ⟨?_, fun c stop halted => ?_, fun start begins =>
        (Delimiters.commentStart_feedFrom begins).2.1⟩
      · have nonempty : lead ≠ [] := by
          rintro rfl
          cases closes
        have := List.length_pos_of_ne_nil nonempty
        omega
      · obtain ⟨-, skipped, -, -, rfl⟩ := Delimiters.halt_feedFrom halted
        exact Nat.le_add_right _ _
    obtain ⟨stop, others, reached, same⟩ := Signature.text_of_beyond beyond
    obtain ⟨tail, piece⟩ := slice_beyond split reached
    obtain ⟨further, joined⟩ := Signature.joined_cons others
    rw [same, joined, piece, List.append_assoc, List.append_assoc]
    exact normalizeBlanks_lead_prefix closes blank (tail ++ further)
  · have inside := (Delimiters.halt_feed halted).2.2.1
    have halts : (Delimiters.feed {} line offset { atTerminator := true }).halt =
        some (c, offset + blanks.length + column) := by
      rw [stopped (by rw [Scan.Passes, halted]; simp), Scan.shift, halted]
      rfl
    have stops : (if c = '\x7b' then offset + blanks.length + column else
        offset + blanks.length + column + 1) =
        offset + blanks.length + if c = '\x7b' then column else column + 1 := by
      split <;> rfl
    rw [Signature.text_of_halt halts, stops, slice_within split (by split <;> omega),
      Text.normalizeBlanks_append_of_blank blank]
  · obtain ⟨ended, -, inside⟩ := Delimiters.commentStart_feedFrom begun
    have within : column ≤ lead.length := by
      rw [List.drop_zero] at inside
      omega
    have shifted := stopped (by rw [Scan.Passes, begun]; simp)
    have goes : (Delimiters.feed {} line offset { atTerminator := true }).halt = none := by
      rw [shifted, Scan.shift, show (scan lead).halt = none from ended]
      rfl
    obtain ⟨others, same⟩ := Signature.text_of_end goes
    obtain ⟨further, joined⟩ := Signature.joined_cons others
    refine ⟨others, ?_⟩
    rw [same, shifted, Scan.shift, begun, joined, joined, Option.map_some, Option.getD_some,
      slice_within split within, List.append_assoc, Text.normalizeBlanks_append_of_blank blank]
  · rcases calm with angle | paren | calm
    · exact absurd angle noAngle
    · exact absurd paren noParen
    · exact Delimiters.passes_of_calm calm

/-- The signature of a declaration begins with every lead that its line begins with. -/
theorem begins_of_find? {lines words : List Text} {start limit : Nat} {window : Signature.Window}
    {signature : Signature} (there : lines[start]? = some line)
    (complete : Signature.find? lines start window limit words = some signature) {pattern : Node}
    (parameterized : Parameterized pattern) {found : Match}
    (matched : pattern.matchStart? (Text.trim ((window.clip line).drop window.start)) = some found) :
    Begins found.text signature.text := by
  obtain ⟨spelled, ⟨behind, whole⟩, -⟩ := Node.spells_of_matchStart? parameterized.yields matched
  obtain ⟨blanks', trimmed⟩ :=
    Text.trimEnd_prefix (Text.trimStart ((window.clip line).drop window.start))
  have split := Text.margin_append_trimStart ((window.clip line).drop window.start)
  rw [← trimmed, ← Text.trim, ← whole, List.append_assoc] at split
  rw [Signature.find?, drop_eq_cons there] at complete
  obtain rfl := Option.some.inj complete
  exact begins_gather split.symm (Text.all_isBlank_margin _) (parameterized.opens _ spelled).plain
    (parameterized.closes _ spelled) (parameterized.calm _ spelled)

end Lead
namespace Outline

variable {whole lines : List Text} {index : Nat}

/-- Every member of a class is declared in a piece of a line, by leads of that class. -/
theorem exists_declares_of_classAt? {found : Located ClassDeclaration}
    (at? : classAt? lines index = some found) :
    Pattern.Node.name.Spells found.item.name ∧ ∀ member ∈ found.item.methods,
      ∃ (segment : Segment) (signature : Signature), segment.In lines ∧
        Declares lines found.item.name segment member signature := by
  simp only [classAt?, Option.bind_eq_bind, Option.bind_eq_some_iff, Option.ite_none_left_eq_some,
    Option.some.injEq] at at?
  obtain ⟨line, -, -, lead, matched, name, named, signature, complete, rfl⟩ := at?
  refine ⟨Lead.spells_className matched named, fun member listed => ?_⟩
  obtain ⟨located, among, rfl⟩ := List.mem_map.mp listed
  exact exists_declares_of_mem (segments_in complete) among

/-- The signature of a function begins with the lead of a function. -/
theorem begins_of_functionAt? {found : Located Declaration}
    (at? : functionAt? whole lines index = some found) :
    ∃ line, lines[index]? = some line ∧ line ≠ [] ∧ found.firstLine = index ∧
      ∀ matched, Lead.functionLead.matchStart? line.trim = some matched →
        Lead.Begins matched.text found.item.signature := by
  simp only [functionAt?, Option.bind_eq_bind, Option.bind_eq_some_iff, Option.ite_none_left_eq_some,
    Option.ite_none_right_eq_some, Option.some.injEq] at at?
  obtain ⟨line, there, code, candidate, -, signature, complete, -, rfl⟩ := at?
  refine ⟨line, there, ?_, rfl, fun matched opened => ?_⟩
  · rintro rfl
    exact code rfl
  · exact Lead.begins_of_find? there complete Lead.parameterized_functionLead opened

/-- The signatures of members and functions begin with the leads that have parameters, as far as
the scanner comes. -/
theorem signatures_begin_with_leads (text : Text) :
    (∀ found ∈ locatedClasses text.lines, ∀ member ∈ found.item.methods,
      ∃ (segment : Segment) (signature : Signature), segment.In text.lines ∧
        Declares text.lines found.item.name segment member signature ∧
        ∀ lead ∈ Lead.memberLeads found.item.name, ∀ matched,
          lead.matchStart? (Text.trim segment.text) = some matched →
            Lead.Begins matched.text member.signature) ∧
      ∀ found ∈ locatedFunctions text.lines, ∀ matched,
        Lead.functionLead.matchStart? (Text.trim (text.lines.getD found.firstLine [])) = some matched →
          Lead.Begins matched.text found.item.signature := by
  refine ⟨fun found isClass member listed => ?_, fun found isFunction matched opened => ?_⟩
  · obtain ⟨start, at?⟩ := exists_of_mem_classesFrom isClass
    obtain ⟨named, declared⟩ := exists_declares_of_classAt? at?
    obtain ⟨segment, signature, ⟨line, there, piece⟩, declares⟩ := declared member listed
    refine ⟨segment, signature, ⟨line, there, piece⟩, declares, fun lead among matched opened => ?_⟩
    rw [declares.signature]
    refine Lead.begins_of_find? there declares.complete (Lead.parameterized_of_mem named lead among) ?_
    rwa [Segment.clip_eq, ← Text.slice, ← piece.text]
  · obtain ⟨index, at?⟩ := exists_of_mem_functionsFrom isFunction
    obtain ⟨line, there, code, rfl, begins⟩ := begins_of_functionAt? at?
    rw [getD_of_getElem? (getElem?_of_withoutClasses there code)] at opened
    exact begins matched opened

/-- A brace between angle brackets ends the first signature, and the second one has its whole
lead. -/
theorem signatures_begin_with_leads_of_bounds :
    let text : Text :=
      "function f<T extends \x7ba: string\x7d>(x: T): T \x7b\n\x7d\nfunction g<T>(x: T) \x7b\x7d\n".toList
    ∃ f g : Located Declaration, locatedFunctions text.lines = [f, g] ∧
      f.item.signature = "function f<T extends".toList ∧
      "function g<T>(".toList <+: g.item.signature := by
  intro text
  let f : Located Declaration :=
    ⟨{ name := "f".toList, signature := "function f<T extends".toList }, 0, 0⟩
  let g : Located Declaration :=
    ⟨{ name := "g".toList, signature := "function g<T>(x: T)".toList }, 2, 2⟩
  have found : locatedFunctions text.lines = [f, g] := by decide +kernel
  have begins := (signatures_begin_with_leads text).2
  rw [found] at begins
  have one : (Lead.functionLead.matchStart? (Text.trim (text.lines.getD 0 []))).map Pattern.Match.text =
      some "function f<T extends \x7ba: string\x7d>(".toList := by decide +kernel
  have two : (Lead.functionLead.matchStart? (Text.trim (text.lines.getD 2 []))).map Pattern.Match.text =
      some "function g<T>(".toList := by decide +kernel
  obtain ⟨first, opened, same⟩ := Option.map_eq_some_iff.mp one
  obtain ⟨second, opened', same'⟩ := Option.map_eq_some_iff.mp two
  have early := begins f (by simp) first opened
  have late := begins g (by simp) second opened'
  rw [same] at early
  rw [same'] at late
  exact ⟨f, g, found, early.cut '\x7b' 21 (by decide +kernel), late.whole (by decide +kernel)⟩

/-- So there is a signature without the parenthesis of its lead. -/
theorem signature_of_braced_bound :
    let text : Text := "function f<T extends \x7ba: string\x7d>(x: T): T \x7b\n\x7d\n".toList
    ∃ found ∈ locatedFunctions text.lines, ∃ matched,
      Lead.functionLead.matchStart? (Text.trim (text.lines.getD found.firstLine [])) = some matched ∧
      ¬ matched.text.normalizeBlanks <+: found.item.signature := by
  intro text
  let found : Located Declaration :=
    ⟨{ name := "f".toList, signature := "function f<T extends".toList }, 0, 0⟩
  have one : (Lead.functionLead.matchStart? (Text.trim (text.lines.getD 0 []))).map Pattern.Match.text =
      some "function f<T extends \x7ba: string\x7d>(".toList := by decide +kernel
  obtain ⟨matched, opened, same⟩ := Option.map_eq_some_iff.mp one
  exact ⟨found, by decide +kernel, matched, opened, by rw [same]; decide +kernel⟩

end Outline
end Codemap
