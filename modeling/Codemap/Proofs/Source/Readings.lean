import Codemap.Proofs.Source.Shift
import Codemap.Source.Body
import Mathlib.Algebra.BigOperators.Group.List.Basic
import Mathlib.Algebra.Ring.Int.Defs

namespace Codemap

/-!
# What the characters of a text count for

A scanner takes every character of a text for code, or for a part of a literal or of a comment.
For what it takes a character depends on where it is, in code, in a literal or in a block
comment, and on the characters beside; but neither on the delimiters that are open nor on what
it is to stop at.  So scanners that begin at different places of a text, and with different
counts, agree on every character that they share.

Of the characters taken for code the braces count.  How deep the braces are nested at a
character is known from the readings of all characters before it.
-/

/-- What a character belongs to. -/
inductive Role where
  | code
  | literal
  | comment
deriving DecidableEq, Repr

/-- Where a scanner is: in a literal with a quote, in a block comment, or in code; and whether
the next character has no effect of its own. -/
structure Mode where
  quote : Option Char := none
  inBlockComment : Bool := false
  inert : Bool := false
deriving DecidableEq, Repr

/-- A character of a text, and what it is taken for. -/
structure Reading where
  place : Place
  char : Char
  role : Role
deriving DecidableEq, Repr

namespace Mode

/-- What a character is taken for, and where the scanner is behind it.  There is nothing if a
line comment begins at the character. -/
def step? (mode : Mode) (before : Option Char) (c : Char) (rest : Text) : Option (Role × Mode) :=
  if mode.inert then
    some (if mode.quote.isSome then .literal else .comment, { mode with inert := false })
  else if mode.inBlockComment then
    some (.comment,
      if c = '*' ∧ rest.head? = some '/' then { mode with inBlockComment := false, inert := true }
      else mode)
  else
    match mode.quote with
    | some quote =>
        some (.literal,
          if c = '\\' then { mode with inert := true }
          else if c = quote then { mode with quote := none }
          else mode)
    | none =>
        if isQuote c then some (.literal, { mode with quote := some c })
        else if c = '/' ∧ rest.head? = some '*' then
          some (.comment, { mode with inBlockComment := true, inert := true })
        else if c = '/' ∧ rest.head? = some '/' then none
        else if c = '#' ∧ opensHashComment before rest then none
        else some (.code, mode)

end Mode

namespace Reading

/-- The readings of a line comment. -/
def remark (line column : Nat) : Text → List Reading
  | [] => []
  | c :: rest => ⟨⟨line, column⟩, c, .comment⟩ :: remark line (column + 1) rest

/-- The readings of the rest of a line. -/
def ofRest (line : Nat) (mode : Mode) (before : Option Char) (column : Nat) : Text → List Reading
  | [] => []
  | c :: rest =>
      match mode.step? before c rest with
      | some (role, next) =>
          ⟨⟨line, column⟩, c, role⟩ :: ofRest line next (some c) (column + 1) rest
      | none => remark line column (c :: rest)

/-- Where the scanner is at the end of a line. -/
def endOfRest (mode : Mode) (before : Option Char) : Text → Mode
  | [] => { mode with inert := false }
  | c :: rest =>
      match mode.step? before c rest with
      | some (_, next) => endOfRest next (some c) rest
      | none => mode

/-- The readings of a line, from a column on. -/
def ofLine (line : Nat) (mode : Mode) (text : Text) (column : Nat) : List Reading :=
  ofRest line mode (beforeColumn text column) column (text.drop column)

/-- Where the scanner is at the end of a line that it enters at a column. -/
def endOfLine (mode : Mode) (text : Text) (column : Nat) : Mode :=
  endOfRest mode (beforeColumn text column) (text.drop column)

/-- The readings of some lines, from a column of the first one on. -/
def ofLines (line : Nat) (mode : Mode) (column : Nat) : List Text → List Reading
  | [] => []
  | text :: later =>
      ofLine line mode text column ++ ofLines (line + 1) (endOfLine mode text column) 0 later

/-- Where the scanner is behind some lines that it enters at a column of the first one. -/
def endOfLines (mode : Mode) (column : Nat) : List Text → Mode
  | [] => mode
  | text :: later => endOfLines (endOfLine mode text column) 0 later

/-- What a character of code counts for the depth of braces. -/
def weight (reading : Reading) : Int :=
  match reading.role, reading.char with
  | .code, '{' => 1
  | .code, '}' => -1
  | _, _ => 0

/-- By how much some characters change the depth of braces. -/
def net (readings : List Reading) : Int :=
  (readings.map weight).sum

@[simp] theorem net_nil : net [] = 0 := rfl

@[simp] theorem net_cons (reading : Reading) (later : List Reading) :
    net (reading :: later) = reading.weight + net later := by
  simp [net]

@[simp] theorem net_append (early late : List Reading) : net (early ++ late) = net early + net late := by
  simp [net]

end Reading

/-- The kinds of delimiters. -/
inductive Bracket where
  | brace
  | paren
  | square
deriving DecidableEq, Repr

namespace Bracket

/-- The character that opens a pair of a kind. -/
def opener : Bracket → Char
  | brace => '{'
  | paren => '('
  | square => '['

/-- The character that closes it. -/
def closer : Bracket → Char
  | brace => '}'
  | paren => ')'
  | square => ']'

end Bracket

namespace Reading

/-- What a character of code counts for the depth of a kind of delimiters. -/
def tally (kind : Bracket) (reading : Reading) : Int :=
  match reading.role with
  | .code =>
      if reading.char = kind.opener then 1 else if reading.char = kind.closer then -1 else 0
  | _ => 0

/-- How many more delimiters of a kind some characters open than they close. -/
def surplus (kind : Bracket) (readings : List Reading) : Int :=
  (readings.map (tally kind)).sum

@[simp] theorem surplus_nil (kind : Bracket) : surplus kind [] = 0 := rfl

@[simp] theorem surplus_cons (kind : Bracket) (reading : Reading) (later : List Reading) :
    surplus kind (reading :: later) = reading.tally kind + surplus kind later := by
  simp [surplus]

@[simp] theorem surplus_append (kind : Bracket) (early late : List Reading) :
    surplus kind (early ++ late) = surplus kind early + surplus kind late := by
  simp [surplus]

theorem tally_brace (reading : Reading) : reading.tally .brace = reading.weight := by
  obtain ⟨place, c, role⟩ := reading
  cases role with
  | code =>
      by_cases opens : c = '{'
      · subst opens; rfl
      by_cases closes : c = '}'
      · subst closes; rfl
      simp [tally, weight, Bracket.opener, Bracket.closer, opens, closes]
  | _ => rfl

theorem surplus_brace (readings : List Reading) : surplus .brace readings = net readings := by
  rw [surplus, net, List.map_congr_left fun reading _ => tally_brace reading]

theorem tally_of_ne_code {reading : Reading} (other : reading.role ≠ .code) (kind : Bracket) :
    reading.tally kind = 0 := by
  obtain ⟨place, c, role⟩ := reading
  cases role with
  | code => exact absurd rfl other
  | _ => rfl

/-- A depth stays positive along some characters. -/
def Deep (depth : Int) (readings : List Reading) : Prop :=
  ∀ early, early <+: readings → 0 < depth + net early

theorem deep_nil {depth : Int} : Deep depth [] ↔ 0 < depth := by
  constructor
  · intro deep
    simpa using deep [] (List.prefix_refl [])
  · rintro positive early isPrefix
    rw [List.prefix_nil.mp isPrefix]
    simpa using positive

theorem deep_cons {depth : Int} {reading : Reading} {later : List Reading} :
    Deep depth (reading :: later) ↔ 0 < depth ∧ Deep (depth + reading.weight) later := by
  constructor
  · intro deep
    refine ⟨by simpa using deep [] List.nil_prefix, fun early isPrefix => ?_⟩
    have further := deep (reading :: early) (List.cons_prefix_cons.mpr ⟨rfl, isPrefix⟩)
    rw [net_cons] at further
    omega
  · rintro ⟨positive, deep⟩ early isPrefix
    cases early with
    | nil => simpa using positive
    | cons first early =>
        obtain ⟨rfl, onwards⟩ := List.cons_prefix_cons.mp isPrefix
        have further := deep early onwards
        rw [net_cons]
        omega

theorem Deep.append {depth : Int} {first second : List Reading} (deep : Deep depth first)
    (later : Deep (depth + net first) second) : Deep depth (first ++ second) := by
  induction first generalizing depth with
  | nil => simpa using later
  | cons reading rest inductionHypothesis =>
      obtain ⟨positive, deep⟩ := deep_cons.mp deep
      refine deep_cons.mpr ⟨positive, inductionHypothesis deep ?_⟩
      rwa [net_cons, ← Int.add_assoc] at later

/-- Only code counts. -/
theorem weight_of_ne_code {reading : Reading} (other : reading.role ≠ .code) : reading.weight = 0 := by
  obtain ⟨place, c, role⟩ := reading
  cases role with
  | code => exact absurd rfl other
  | literal => rfl
  | comment => rfl

/-- Only a closing brace counts against the depth. -/
theorem weight_nonneg {reading : Reading} (other : reading.char ≠ '}') : 0 ≤ reading.weight := by
  unfold weight
  split
  · decide
  · next close => exact absurd close other
  · decide

/-- A line comment does not count. -/
theorem surplus_remark (kind : Bracket) (line column : Nat) (text : Text) :
    surplus kind (remark line column text) = 0 := by
  induction text generalizing column with
  | nil => rfl
  | cons c rest inductionHypothesis =>
      rw [remark, surplus_cons, inductionHypothesis, tally_of_ne_code (by simp)]
      rfl

theorem deep_remark {depth : Int} (positive : 0 < depth) (line column : Nat) (text : Text) :
    Deep depth (remark line column text) := by
  induction text generalizing column with
  | nil => exact deep_nil.mpr positive
  | cons c rest inductionHypothesis =>
      rw [remark, deep_cons, weight_of_ne_code (by simp), Int.add_zero]
      exact ⟨positive, inductionHypothesis (column + 1)⟩

end Reading

/-! ## Scanners read alike -/

namespace Mode

/-- A character that is taken for code leaves the scanner in code. -/
theorem eq_of_step?_code {mode next : Mode} {before : Option Char} {c : Char} {rest : Text}
    (step : mode.step? before c rest = some (.code, next)) : mode = {} ∧ next = {} := by
  obtain ⟨quote, inBlockComment, inert⟩ := mode
  rw [step?] at step
  split at step
  · split at step <;> cases step
  · next awake =>
      split at step
      · cases step
      · next outside =>
          split at step
          · cases step
          · next open' =>
              split at step
              · cases step
              split at step
              · cases step
              split at step
              · cases step
              split at step
              · cases step
              cases step
              simp only [Bool.not_eq_true] at awake outside open'
              subst awake outside open'
              exact ⟨rfl, rfl⟩

/-- A line comment does not begin at a character without effect. -/
theorem inert_of_step?_none {mode : Mode} {before : Option Char} {c : Char} {rest : Text}
    (step : mode.step? before c rest = none) : mode.inert = false := by
  rw [step?] at step
  split at step
  · cases step
  · next awake => exact Bool.not_eq_true _ ▸ awake

/-- A character that opens neither a literal nor a comment is code. -/
theorem step?_of_plain {c : Char} (noQuote : isQuote c = false) (noSlash : c ≠ '/') (noHash : c ≠ '#')
    (before : Option Char) (rest : Text) : ({} : Mode).step? before c rest = some (.code, {}) := by
  simp [step?, noQuote, noSlash, noHash]

/-- The open literal, if one is open, was opened by a quote. -/
def Proper (mode : Mode) : Prop :=
  ∀ quote ∈ mode.quote, isQuote quote = true

/-- A blank leaves the scanner where it is. -/
theorem step?_of_blank {mode : Mode} (awake : mode.inert = false) (proper : mode.Proper) {c : Char}
    (blank : isBlank c = true) (before : Option Char) (rest : Text) :
    ∃ role, mode.step? before c rest = some (role, mode) := by
  obtain ⟨quote, inBlockComment, inert⟩ := mode
  obtain rfl : inert = false := awake
  have other {d : Char} (visible : isBlank d = false) : c ≠ d := Text.ne_of_isBlank blank visible
  have notQuote := Delimiters.isQuote_of_isBlank blank
  cases inBlockComment with
  | true => exact ⟨.comment, by simp [step?, other (show isBlank '*' = false from rfl)]⟩
  | false =>
      cases quote with
      | some quote =>
          have notLast : c ≠ quote := by
            rintro rfl
            rw [proper c rfl] at notQuote
            cases notQuote
          exact ⟨.literal, by simp [step?, other (show isBlank '\\' = false from rfl), notLast]⟩
      | none =>
          exact ⟨.code, step?_of_plain notQuote (other rfl) (other rfl) before rest⟩

/-- Of the characters behind only the next one matters. -/
theorem step?_congr (mode : Mode) (before : Option Char) (c : Char) {rest other : Text}
    (same : rest.head? = other.head?) : mode.step? before c rest = mode.step? before c other := by
  unfold step? opensHashComment
  rw [same]

end Mode

namespace Reading

theorem tally_of_isBlank {c : Char} (blank : isBlank c = true) (place : Place) (role : Role)
    (kind : Bracket) : tally kind ⟨place, c, role⟩ = 0 := by
  have other {d : Char} (visible : isBlank d = false) : c ≠ d := Text.ne_of_isBlank blank visible
  have opens : isBlank kind.opener = false := by cases kind <;> rfl
  have closes : isBlank kind.closer = false := by cases kind <;> rfl
  cases role with
  | code => rw [tally, if_neg (other opens), if_neg (other closes)]
  | _ => rfl

/-- Blanks count for nothing and leave the scanner where it is. -/
theorem ofRest_blanks (line column : Nat) {mode : Mode} (awake : mode.inert = false)
    (proper : mode.Proper) {blanks : Text} (blank : blanks.all isBlank = true)
    (before : Option Char) (text : Text) :
    ∃ early before', ofRest line mode before column (blanks ++ text) =
        early ++ ofRest line mode before' (column + blanks.length) text ∧
      endOfRest mode before (blanks ++ text) = endOfRest mode before' text ∧
      early.length = blanks.length ∧ ∀ kind, surplus kind early = 0 := by
  induction blanks generalizing before column with
  | nil => exact ⟨[], before, rfl, rfl, rfl, fun _ => rfl⟩
  | cons c rest inductionHypothesis =>
      obtain ⟨here, later⟩ := Bool.and_eq_true_iff.mp blank
      obtain ⟨role, step⟩ := Mode.step?_of_blank awake proper here before (rest ++ text)
      obtain ⟨early, before', split, ends, length, still⟩ :=
        inductionHypothesis (column + 1) later (some c)
      refine ⟨⟨⟨line, column⟩, c, role⟩ :: early, before', ?_, ?_, by simpa using length, fun kind => ?_⟩
      · rw [List.cons_append, ofRest, step]
        dsimp only
        rw [split, List.length_cons, List.cons_append]
        congr 3
        omega
      · rw [List.cons_append, endOfRest, step]
        exact ends
      · rw [surplus_cons, still, tally_of_isBlank here]
        rfl

end Reading

namespace Delimiters

variable {stops : Stops} {state : Delimiters} {inert : Bool} {before : Option Char} {column : Nat}
  {text : Text}

/-- Where a scanner in some state is. -/
def mode (state : Delimiters) (inert : Bool) : Mode where
  quote := state.quote
  inBlockComment := state.inBlockComment
  inert

/-- The state of a scanner that is elsewhere. -/
def turn (state : Delimiters) (mode : Mode) : Delimiters :=
  { state with quote := mode.quote, inBlockComment := mode.inBlockComment }

/-- How many delimiters of a kind are open. -/
def depth (state : Delimiters) : Bracket → Int
  | .brace => state.braces
  | .paren => state.parens
  | .square => state.brackets

theorem mode_count (state : Delimiters) (c : Char) : (state.count c).mode inert = state.mode inert := by
  unfold count
  split <;> rfl

/-- Counting a character changes the depth of each kind by what it counts for. -/
theorem depth_count (state : Delimiters) (kind : Bracket) (c : Char) (place : Place) :
    (state.count c).depth kind = state.depth kind + Reading.tally kind ⟨place, c, .code⟩ := by
  unfold count Reading.tally
  cases kind <;> split <;> simp_all [depth, Bracket.opener, Bracket.closer] <;> rfl

theorem braces_count (state : Delimiters) (c : Char) (place : Place) :
    (state.count c).braces = state.braces + Reading.weight ⟨place, c, .code⟩ := by
  rw [← Reading.tally_brace]
  exact state.depth_count .brace c place

/-- The condition under which a scan stops at a character of code. -/
def Halts (stops : Stops) (state : Delimiters) (c : Char) : Prop :=
  stops.atTerminator = true ∧ (c = '{' ∨ c = ';') ∧ state.balanced = true ∨
    stops.atClose = true ∧ c = '}' ∧ state.braces = 1

/-- A scan stops only at a character that is plain code. -/
theorem Halts.step? {c : Char} (halts : Halts stops state c) (before : Option Char) (rest : Text) :
    ({} : Mode).step? before c rest = some (.code, {}) := by
  rcases halts with ⟨-, rfl | rfl, -⟩ | ⟨-, rfl, -⟩ <;>
    exact Mode.step?_of_plain (by decide) (by decide) (by decide) before rest

theorem Halts.close {c : Char} (halts : Halts { atClose := true } state c) :
    c = '}' ∧ state.braces = 1 := by
  rcases halts with ⟨other, -⟩ | ⟨-, close⟩
  · cases other
  · exact close

/-- A terminator is seen where no brace is left open. -/
theorem Halts.braces_le {c : Char} (halts : Halts { atTerminator := true } state c) :
    state.braces ≤ 0 := by
  rcases halts with ⟨-, -, closed⟩ | ⟨other, -⟩
  · simp only [balanced, Bool.and_eq_true, decide_eq_true_eq] at closed
    exact closed.1.1.1
  · cases other

/-- A scan goes by the readings. -/
theorem feedFrom_step (c : Char) (rest : Text) :
    feedFrom stops state inert before column (c :: rest) =
      match (state.mode inert).step? before c rest with
      | none => { state, commentStart := some column }
      | some (.code, _) =>
          if stops.atTerminator ∧ (c = '{' ∨ c = ';') ∧ state.balanced then
            { state, halt := some (c, column) }
          else if stops.atClose ∧ c = '}' ∧ (state.count c).braces = 0 then
            { state := state.count c, halt := some (c, column) }
          else feedFrom stops (state.count c) false (some c) (column + 1) rest
      | some (_, next) =>
          feedFrom stops (state.turn next) next.inert (some c) (column + 1) rest := by
  obtain ⟨braces, parens, brackets, quote, inBlockComment⟩ := state
  rw [feedFrom, Mode.step?]
  cases inert with
  | true => cases quote <;> rfl
  | false =>
      cases inBlockComment with
      | true =>
          simp only [mode, Bool.false_eq_true, if_false, if_true]
          split <;> rfl
      | false =>
          simp only [mode, Bool.false_eq_true, if_false]
          cases quote with
          | some quote =>
              dsimp only
              split
              · rfl
              split <;> rfl
          | none =>
              dsimp only
              split
              · rfl
              split
              · rfl
              split
              · rfl
              split
              · rfl
              · rfl

/-- What a scan does at a character: it ends with a comment, it stops at code, or it goes on with
the depths that the reading of the character makes. -/
inductive Step (stops : Stops) (state : Delimiters) (inert : Bool) (before : Option Char)
    (column : Nat) (c : Char) (rest : Text) : Prop
  | remark (step : (state.mode inert).step? before c rest = none)
      (ends : feedFrom stops state inert before column (c :: rest) =
        { state, commentStart := some column })
  | halt {last : Delimiters} (step : (state.mode inert).step? before c rest = some (.code, {}))
      (halts : Halts stops state c)
      (ends : feedFrom stops state inert before column (c :: rest) =
        { state := last, halt := some (c, column) })
  | onward {role : Role} {next : Delimiters} {further : Bool}
      (step : (state.mode inert).step? before c rest = some (role, next.mode further))
      (depths : ∀ kind place, next.depth kind = state.depth kind + Reading.tally kind ⟨place, c, role⟩)
      (open' : stops.atClose = true → 0 < state.braces → 0 < next.braces)
      (goes : feedFrom stops state inert before column (c :: rest) =
        feedFrom stops next further (some c) (column + 1) rest)

theorem step (stops : Stops) (state : Delimiters) (inert : Bool) (before : Option Char)
    (column : Nat) (c : Char) (rest : Text) : Step stops state inert before column c rest := by
  have scan := @feedFrom_step stops state inert before column c rest
  cases taken : (state.mode inert).step? before c rest with
  | none =>
      rw [taken] at scan
      exact .remark taken scan
  | some pair =>
      obtain ⟨role, next⟩ := pair
      rw [taken] at scan
      by_cases code : role = .code
      · subst code
        obtain ⟨here, rfl⟩ := Mode.eq_of_step?_code taken
        dsimp only at scan
        split at scan
        · next terminator => exact .halt taken (Or.inl terminator) scan
        split at scan
        · next notTerminator close =>
            have weighs := braces_count state c ⟨0, column⟩
            obtain ⟨atClose, rfl, zero⟩ := close
            exact .halt taken (Or.inr ⟨atClose, rfl, by simp [Reading.weight] at weighs; omega⟩) scan
        · next notTerminator notClose =>
            obtain rfl : inert = false := congrArg Mode.inert here
            refine .onward (by rw [taken, mode_count, here]) (fun kind => depth_count state kind c) ?_ scan
            intro atClose positive
            have weighs := braces_count state c ⟨0, column⟩
            by_cases close : c = '}'
            · subst close
              have nonzero : (state.count '}').braces ≠ 0 := fun zero => notClose ⟨atClose, rfl, zero⟩
              simp [Reading.weight] at weighs
              omega
            · have light := Reading.weight_nonneg
                (show (Reading.mk ⟨0, column⟩ c .code).char ≠ '}' from close)
              omega
      · have goes : feedFrom stops state inert before column (c :: rest) =
            feedFrom stops (state.turn next) next.inert (some c) (column + 1) rest := by
          cases role with
          | code => exact absurd rfl code
          | _ => exact scan
        have turned : (state.mode inert).step? before c rest =
            some (role, (state.turn next).mode next.inert) := taken
        refine .onward turned (fun kind place => ?_) (fun _ => id) goes
        rw [Reading.tally_of_ne_code code, Int.add_zero]
        cases kind <;> rfl

/-- The depth does not fall to zero before a scan for the closing brace stops. -/
def StaysDeep (stops : Stops) (state : Delimiters) (readings : List Reading) : Prop :=
  stops.atClose = true → 0 < state.braces → Reading.Deep state.braces readings

/-- A scan that goes on to the end of a line has counted its readings. -/
structure EndsAs (stops : Stops) (state last : Delimiters) (mode : Mode)
    (readings : List Reading) : Prop where
  depths : ∀ kind, last.depth kind = state.depth kind + Reading.surplus kind readings
  mode : last.mode false = mode
  deep : StaysDeep stops state readings

theorem EndsAs.braces {last : Delimiters} {mode : Mode} {readings : List Reading}
    (ends : EndsAs stops state last mode readings) :
    last.braces = state.braces + Reading.net readings := by
  rw [← Reading.surplus_brace]
  exact ends.depths .brace

theorem endsAs (line : Nat) (ended : (feedFrom stops state inert before column text).halt = none) :
    EndsAs stops state (feedFrom stops state inert before column text).state
      (Reading.endOfRest (state.mode inert) before text)
      (Reading.ofRest line (state.mode inert) before column text) := by
  induction text generalizing state inert before column with
  | nil =>
      refine ⟨fun kind => by simp [Reading.ofRest], rfl, fun _ positive => ?_⟩
      exact Reading.deep_nil.mpr positive
  | cons c rest inductionHypothesis =>
      cases step stops state inert before column c rest with
      | remark step ends =>
          rw [ends, Reading.endOfRest, Reading.ofRest, step]
          have awake : inert = false := Mode.inert_of_step?_none step
          exact ⟨fun kind => by simp [Reading.surplus_remark], by rw [awake],
            fun _ positive => Reading.deep_remark positive line column (c :: rest)⟩
      | halt _ _ ends =>
          rw [ends] at ended
          cases ended
      | onward step depths open' goes =>
          rw [goes] at ended ⊢
          obtain ⟨counted, mode, deep⟩ := inductionHypothesis ended
          rw [Reading.endOfRest, Reading.ofRest, step]
          dsimp only
          have here kind := depths kind ⟨line, column⟩
          refine ⟨fun kind => ?_, mode, fun atClose positive => ?_⟩
          · rw [counted, here, Reading.surplus_cons]
            omega
          · rename_i next _
            have braces : next.braces = state.braces + _ := here .brace
            rw [Reading.tally_brace] at braces
            refine Reading.deep_cons.mpr ⟨positive, ?_⟩
            rw [← braces]
            exact deep atClose (open' atClose positive)

/-- So has one that goes on from a column to the end of a line. -/
theorem endsAs_feed (line : Nat) {start : Nat} (ended : (state.feed text start stops).halt = none) :
    EndsAs stops state (state.feed text start stops).state
      (Reading.endOfLine (state.mode false) text start)
      (Reading.ofLine line (state.mode false) text start) :=
  endsAs line ended

/-- A scan that stops has read the characters before, and stops at a character of code. -/
structure StopsAt (stops : Stops) (state : Delimiters) (line : Nat) (c : Char) (stop : Nat)
    (later : Text) (readings early : List Reading) : Prop where
  split : readings = early ++ ⟨⟨line, stop⟩, c, .code⟩ :: Reading.ofRest line {} (some c) (stop + 1) later
  deep : StaysDeep stops state early
  halts : ∃ last : Delimiters,
    (∀ kind, last.depth kind = state.depth kind + Reading.surplus kind early) ∧ Halts stops last c

theorem StopsAt.braces {line stop : Nat} {c : Char} {later : Text} {readings early : List Reading}
    (stopped : StopsAt stops state line c stop later readings early) :
    ∃ last : Delimiters, last.braces = state.braces + Reading.net early ∧ Halts stops last c := by
  obtain ⟨last, counted, halts⟩ := stopped.halts
  refine ⟨last, ?_, halts⟩
  rw [← Reading.surplus_brace]
  exact counted .brace

/-- What comes behind the place where a scan stops does not matter. -/
theorem stopsAt (line : Nat) {c : Char} {stop : Nat}
    (halted : (feedFrom stops state inert before column text).halt = some (c, stop)) (tail : Text) :
    ∃ skipped later early, text = skipped ++ c :: later ∧ stop = column + skipped.length ∧
      early.length = skipped.length ∧
      StopsAt stops state line c stop (later ++ tail)
        (Reading.ofRest line (state.mode inert) before column (text ++ tail)) early := by
  induction text generalizing state inert before column with
  | nil => cases halted
  | cons first rest inductionHypothesis =>
      cases step stops state inert before column first rest with
      | remark _ ends =>
          rw [ends] at halted
          cases halted
      | halt step halts ends =>
          rw [ends] at halted
          cases halted
          refine ⟨[], rest, [], rfl, rfl, rfl, ?_, fun _ positive =>
            Reading.deep_nil.mpr positive, state, by simp, halts⟩
          obtain ⟨here, -⟩ := Mode.eq_of_step?_code step
          rw [List.cons_append, Reading.ofRest, here, halts.step?]
          rfl
      | onward step depths open' goes =>
          rw [goes] at halted
          obtain ⟨skipped, later, early, rfl, rfl, length, split, deep, last, counted, halts⟩ :=
            inductionHypothesis halted
          have here kind := depths kind ⟨line, column⟩
          rename_i role next further
          refine ⟨first :: skipped, later, ⟨⟨line, column⟩, first, role⟩ :: early, rfl, by
            simp only [List.length_cons]; omega, by simpa using length, ?_, ?_, last, ?_, halts⟩
          · rw [List.cons_append, Reading.ofRest,
              Mode.step?_congr _ _ _ (show (skipped ++ c :: later ++ tail).head? =
                (skipped ++ c :: later).head? by cases skipped <;> rfl), step]
            dsimp only
            rw [split]
            rfl
          · intro atClose positive
            have braces : next.braces = state.braces + _ := here .brace
            rw [Reading.tally_brace] at braces
            refine Reading.deep_cons.mpr ⟨positive, ?_⟩
            rw [← braces]
            exact deep atClose (open' atClose positive)
          · intro kind
            rw [counted, here, Reading.surplus_cons]
            omega

/-- Where a scan stops that begins at a column of a line. -/
theorem stopsAt_feed (line : Nat) {start stop : Nat} {c : Char}
    (halted : (state.feed text start stops).halt = some (c, stop)) :
    ∃ early later, start + early.length = stop ∧
      StopsAt stops state line c stop later (Reading.ofLine line (state.mode false) text start)
        early := by
  obtain ⟨skipped, later, early, -, place, length, stopped⟩ := stopsAt line halted []
  rw [List.append_nil, List.append_nil] at stopped
  exact ⟨early, later, by omega, stopped⟩

end Delimiters
end Codemap
