import Codemap.Proofs.Result
import Codemap.Yaml.Lexer
import Codemap.Yaml.Node
import Mathlib.Data.List.Infix

namespace Codemap
namespace Yaml

/-!
# Where a text cannot be cut into tokens

A text that cannot be cut into tokens is malformed, with two exceptions: an escape in a quoted
scalar may name a code point beyond the last one, and a version may have too many digits.  So
each function of the lexer has one lemma here: begun within the text it ends within it, and else
it fails as malformed, at such an escape or at such a version.

The grammar adds a fault of its own, where collections are nested more deeply than there is room
for.  Every collection takes some of the room, and a token that opens one pays for it.
-/

/-- An escape that stands in a text names no code point. -/
def EscapeFails (text : Text) (why : Fault) : Prop :=
  ∃ letter digits n, '\\' :: letter :: digits <:+: text ∧
    Quoted.escapeLength? letter = some digits.length ∧ hexNumber? digits = some n ∧
      Quoted.codePoint n = .error why

/-- A number behind the name of the directive for the version has too many digits. -/
def VersionFails (text : Text) (why : Fault) : Prop :=
  ∃ digits behind, "YAML".toList ++ behind <:+ text ∧ digits <:+: behind ∧
    (∀ c ∈ digits, c.isDigit = true) ∧ Text.digitLimit < digits.length ∧
      why = .scalar (.tooManyDigits digits.length)

/-- Why a text cannot be cut into tokens. -/
def Uncut (text : Text) (why : Fault) : Prop :=
  why = .malformed ∨ EscapeFails text why ∨ VersionFails text why

theorem Uncut.malformed {text : Text} : Uncut text .malformed :=
  Or.inl rfl

variable {text : Text} {source : Source}

/-! ## Positions -/

namespace Source

theorem step_suffix (source : Source) : source.step.rest <:+ source.rest := by
  rw [step]
  split
  · exact List.suffix_rfl
  · next c rest same =>
      rw [same]
      exact List.suffix_cons c rest

theorem step_rest (source : Source) : source.step.rest = source.rest.tail := by
  rw [step]
  split
  · next none => rw [none, List.tail_nil]
  · next c rest same => rw [same, List.tail_cons]

theorem steps_rest (source : Source) (n : Nat) : (source.steps n).rest = source.rest.drop n := by
  induction n generalizing source with
  | zero => rfl
  | succ n inductionHypothesis =>
      rw [steps, inductionHypothesis, step_rest, List.drop_tail]

theorem steps_suffix (source : Source) (n : Nat) : (source.steps n).rest <:+ source.rest :=
  source.steps_rest n ▸ List.drop_suffix n source.rest

/-- A run and what follows it. -/
theorem takeRun_append (source : Source) (keep : Char → Bool) :
    (source.takeRun keep).1 ++ (source.takeRun keep).2.rest = source.rest := by
  have split : source.rest.takeWhile keep ++ source.rest.dropWhile keep = source.rest :=
    List.takeWhile_append_dropWhile
  have after : (source.takeRun keep).2.rest = source.rest.dropWhile keep := by
    have left : (source.rest.takeWhile keep ++ source.rest.dropWhile keep).drop
        (source.rest.takeWhile keep).length = source.rest.dropWhile keep := List.drop_left
    rw [split] at left
    exact (source.steps_rest _).trans left
  rw [after]
  exact split

theorem takeRun_suffix (source : Source) (keep : Char → Bool) :
    (source.takeRun keep).2.rest <:+ source.rest :=
  source.steps_suffix _

theorem skipRun_suffix (source : Source) (skip : Char → Bool) :
    (source.skipRun skip).rest <:+ source.rest :=
  source.takeRun_suffix skip

theorem skipSpaces_suffix (source : Source) : source.skipSpaces.rest <:+ source.rest :=
  source.skipRun_suffix _

theorem skipComment_suffix (source : Source) : source.skipComment.rest <:+ source.rest := by
  rw [skipComment]
  split
  · exact source.skipRun_suffix _
  · exact List.suffix_rfl

theorem lineBreak?_suffix {found : Text} {next : Source}
    (breaks : source.lineBreak? = some (found, next)) : next.rest <:+ source.rest := by
  rw [lineBreak?] at breaks
  split at breaks
  · cases breaks
    exact source.steps_suffix 2
  · split at breaks
    · cases breaks
      exact source.step_suffix
    split at breaks
    · cases breaks
      exact source.step_suffix
    · cases breaks
  · cases breaks

theorem settles_finishLine (within : source.rest <:+ text) :
    Settles (Uncut text) source.finishLine fun next => next.rest <:+ text := by
  have after := (source.skipSpaces.skipComment_suffix.trans source.skipSpaces_suffix).trans within
  rw [finishLine]
  split
  · next found next breaks => exact .of_ok ((lineBreak?_suffix breaks).trans after)
  · split
    · exact .of_ok after
    · exact .of_error .malformed

end Source

/-! ## The texts of scalars -/

namespace Plain

theorem breaks_suffix (found : Text) (fuel : Nat) (source : Source) :
    (breaks found fuel source).2.rest <:+ source.rest := by
  induction fuel generalizing found source with
  | zero => exact List.suffix_rfl
  | succ fuel inductionHypothesis =>
      rw [breaks]
      split
      · exact (inductionHypothesis found source.step).trans source.step_suffix
      split
      · exact List.suffix_rfl
      · next first next breaks =>
          have suffix := Source.lineBreak?_suffix breaks
          split
          · exact suffix
          · exact (inductionHypothesis _ next).trans suffix

theorem between_suffix (source : Source) : (between source).after.rest <:+ source.rest := by
  have suffix := source.takeRun_suffix (· == ' ')
  rw [between]
  dsimp only
  split
  · exact suffix
  · next first next breaks =>
      have further := (Source.lineBreak?_suffix breaks).trans suffix
      split
      · exact further
      have last := (breaks_suffix [] next.rest.length next).trans further
      split
      · next stop same => rwa [same] at last
      · next found stop same => rwa [same] at last

theorem readFrom_suffix (inFlow : Bool) (indent : Int) (found spaces : Text) (brokeLine : Bool)
    (fuel : Nat) (source : Source) :
    (readFrom inFlow indent found spaces brokeLine fuel source).after.rest <:+ source.rest := by
  induction fuel generalizing found spaces brokeLine source with
  | zero => exact List.suffix_rfl
  | succ fuel inductionHypothesis =>
      have gap := (between_suffix (source.steps (run inFlow source.rest).length)).trans
        (source.steps_suffix _)
      rw [readFrom]
      split
      · exact List.suffix_rfl
      dsimp only
      split
      · exact List.suffix_rfl
      split
      · exact gap
      · exact (inductionHypothesis _ _ _ _).trans gap

end Plain

namespace Quoted

theorem settles_breaks (found : Text) (fuel : Nat) (within : source.rest <:+ text) :
    Settles (Uncut text) (breaks found fuel source) fun read => read.2.rest <:+ text := by
  induction fuel generalizing found source with
  | zero => exact .of_ok within
  | succ fuel inductionHypothesis =>
      have inner := (source.skipRun_suffix fun c => c == ' ' || c == '\t').trans within
      rw [breaks]
      split
      · exact .of_error .malformed
      dsimp only
      split
      · next first next breaks =>
          exact inductionHypothesis _ ((Source.lineBreak?_suffix breaks).trans inner)
      · exact .of_ok inner

/-- An escape fails as malformed, or it stands in the text and names no code point. -/
theorem settles_escape (within : '\\' :: source.rest <:+ text) :
    Settles (Uncut text) (escape source) fun read => read.2.rest <:+ text := by
  have here : source.rest <:+ text := (List.suffix_cons _ _).trans within
  have after : source.step.rest <:+ text := source.step_suffix.trans here
  rw [escape]
  split
  · exact .of_error .malformed
  · next c peeked =>
      split
      · exact .of_ok after
      · next length _ known =>
          dsimp only
          split
          · exact .of_error .malformed
          next complete =>
          split
          · exact .of_error .malformed
          · next n number =>
              cases named : codePoint n with
              | ok found => exact .of_ok ((Source.steps_suffix _ _).trans after)
              | error why =>
                  obtain ⟨rest, split⟩ := List.head?_eq_some_iff.mp peeked
                  have stepped : source.step.rest = rest := by rw [Source.step, split]
                  rw [stepped] at complete number
                  refine .of_error (Or.inr (Or.inl ⟨c, rest.take length, n, ?_, ?_, number, named⟩))
                  · rw [split] at within
                    refine List.IsInfix.trans (List.IsPrefix.isInfix ?_) within.isInfix
                    exact List.cons_prefix_cons.mpr ⟨rfl, List.cons_prefix_cons.mpr
                      ⟨rfl, List.take_prefix length rest⟩⟩
                  · rw [known]
                    exact congrArg some
                      (Nat.le_antisymm (Nat.le_of_not_lt complete) (List.length_take_le ..))
      · split
        · next found next breaks =>
            exact (settles_breaks _ _ ((Source.lineBreak?_suffix breaks).trans here)).map
              fun _ holds => holds
        · exact .of_error .malformed

theorem settles_solid (isDouble : Bool) (found : List Nat) (fuel : Nat) (within : source.rest <:+ text) :
    Settles (Uncut text) (solid isDouble found fuel source) fun read => read.2.rest <:+ text := by
  induction fuel generalizing found source with
  | zero => exact .of_ok within
  | succ fuel inductionHypothesis =>
      rw [solid]
      generalize taken : source.takeRun _ = read
      obtain ⟨run, after⟩ := read
      have afterWithin : after.rest <:+ text := by
        rw [show after = (run, after).2 from rfl, ← taken]
        exact (source.takeRun_suffix _).trans within
      have stepWithin := after.step_suffix.trans afterWithin
      dsimp only
      split
      · split
        · exact inductionHypothesis _ stepWithin
        split
        · exact inductionHypothesis _ ((after.steps_suffix 2).trans afterWithin)
        · exact .of_ok afterWithin
      · split
        · exact .of_ok afterWithin
        · exact inductionHypothesis _ stepWithin
      · next peeked =>
          split
          · have escaped : Settles (Uncut text) (escape after.step) fun read => read.2.rest <:+ text := by
              obtain ⟨rest, same⟩ := List.head?_eq_some_iff.mp peeked
              refine settles_escape ?_
              rw [Source.step, same]
              exact same ▸ afterWithin
            split
            · next more next read => exact inductionHypothesis _ (escaped.ok _ read)
            · next why failed => exact .of_error (escaped.error _ failed)
          · exact inductionHypothesis _ stepWithin
      · exact .of_ok afterWithin

theorem settles_gap (within : source.rest <:+ text) :
    Settles (Uncut text) (gap source) fun read => read.2.rest <:+ text := by
  have after := (source.takeRun_suffix fun c => c == ' ' || c == '\t').trans within
  rw [gap]
  dsimp only
  split
  · exact .of_error .malformed
  split
  · exact .of_ok after
  · next first next breaks =>
      exact (settles_breaks _ _ ((Source.lineBreak?_suffix breaks).trans after)).map
        fun _ holds => holds

theorem settles_readFrom (isDouble : Bool) (quote : Char) (found : List Nat) (fuel : Nat)
    (within : source.rest <:+ text) :
    Settles (Uncut text) (readFrom isDouble quote found fuel source)
      fun read => read.after.rest <:+ text := by
  induction fuel generalizing found source with
  | zero => exact .of_error .malformed
  | succ fuel inductionHypothesis =>
      have solid := settles_solid isDouble found (source.rest.length + 1) within
      rw [readFrom]
      split
      · next why failed => exact .of_error (solid.error _ failed)
      · next part after read =>
          have afterWithin := solid.ok _ read
          split
          · exact .of_ok (after.step_suffix.trans afterWithin)
          have gap := settles_gap afterWithin
          split
          · next why failed => exact .of_error (gap.error _ failed)
          · next more next read => exact inductionHypothesis _ (gap.ok _ read)

theorem settles_read (isDouble : Bool) (within : source.rest <:+ text) :
    Settles (Uncut text) (read isDouble source) fun read => read.after.rest <:+ text :=
  settles_readFrom _ _ _ _ (source.step_suffix.trans within)

end Quoted

namespace Block

theorem settles_head (within : source.rest <:+ text) :
    Settles (Uncut text) (head source) fun read => read.2.rest <:+ text := by
  have once := source.step_suffix.trans within
  have twice := source.step.step_suffix.trans once
  have finish (found : Head) {after : Source} (within : after.rest <:+ text) :
      Settles (Uncut text) (if isSpaceOrEnd after.peek then .ok (found, after) else .error .malformed)
        fun read : Head × Source => read.2.rest <:+ text := by
    split
    · exact .of_ok within
    · exact .of_error .malformed
  have indented (c : Option Char) {why : Fault} (failed : indent? c = .error why) : why = .malformed := by
    unfold indent? at failed
    split at failed
    · split at failed
      · split at failed <;> cases failed
        rfl
      · cases failed
    · cases failed
  rw [head]
  dsimp only
  split
  · split
    · next why failed => exact .of_error (Or.inl (indented _ failed))
    · exact finish _ once
    · exact finish _ twice
  · split
    · next why failed => exact .of_error (Or.inl (indented _ failed))
    · exact finish _ within
    · split
      · exact finish _ twice
      · exact finish _ once

theorem leading_suffix (found : Text) (widest fuel : Nat) (source : Source) :
    (leading found widest fuel source).2.2.rest <:+ source.rest := by
  induction fuel generalizing found widest source with
  | zero => exact List.suffix_rfl
  | succ fuel inductionHypothesis =>
      rw [leading]
      split
      · exact (inductionHypothesis _ _ _).trans source.step_suffix
      split
      · next first next breaks =>
          exact (inductionHypothesis _ _ _).trans (Source.lineBreak?_suffix breaks)
      · exact List.suffix_rfl

theorem breaks_suffix (indent : Nat) (found : Text) (fuel : Nat) (source : Source) :
    (breaks indent found fuel source).2.rest <:+ source.rest := by
  induction fuel generalizing found source with
  | zero => exact List.suffix_rfl
  | succ fuel inductionHypothesis =>
      have inner : (source.skipSpacesTo indent).rest <:+ source.rest := source.steps_suffix _
      rw [breaks]
      split
      · next first next breaks =>
          exact ((inductionHypothesis _ _).trans (Source.lineBreak?_suffix breaks)).trans inner
      · exact inner

theorem body_suffix (isFolded : Bool) (indent : Nat) (found pending lastBreak : Text) (fuel : Nat)
    (source : Source) :
    (body isFolded indent found pending lastBreak fuel source).2.2.2.rest <:+ source.rest := by
  induction fuel generalizing found pending lastBreak source with
  | zero => exact List.suffix_rfl
  | succ fuel inductionHypothesis =>
      rw [body]
      split
      · exact List.suffix_rfl
      have line := source.takeRun_suffix fun c => !isBreak c
      have ended : (((source.takeRun fun c => !isBreak c).2.lineBreak?).getD
          ([], (source.takeRun fun c => !isBreak c).2)).2.rest <:+ source.rest := by
        cases breaks : (source.takeRun fun c => !isBreak c).2.lineBreak? with
        | none => exact line
        | some found => exact (Source.lineBreak?_suffix breaks).trans line
      have empties (fuel : Nat) := (breaks_suffix indent [] fuel _).trans ended
      dsimp only
      split
      · exact empties _
      · exact (inductionHypothesis _ _ _ _).trans (empties _)

theorem settles_read (isFolded : Bool) (parent : Int) (within : source.rest <:+ text) :
    Settles (Uncut text) (read isFolded parent source) fun read => read.after.rest <:+ text := by
  rw [read]
  refine (settles_head (source.step_suffix.trans within)).bind fun marks marksWithin => ?_
  refine (Source.settles_finishLine marksWithin).bind fun start startWithin => ?_
  have after (indent : Nat) (empties : Text) {first : Source} (within : first.rest <:+ text) :=
    (body_suffix isFolded indent [] empties [] (first.rest.length + 1) first).trans within
  refine .of_ok ?_
  cases marks.1.indent with
  | some n => exact after _ _ ((breaks_suffix ..).trans startWithin)
  | none => exact after _ _ ((leading_suffix ..).trans startWithin)

end Block

/-! ## The lexer -/

namespace Lexer

variable {lexer : Lexer}

/-- The lexer stands in the text, and none of its tokens is the end of what can be cut. -/
structure Within (text : Text) (lexer : Lexer) : Prop where
  source : lexer.source.rest <:+ text
  whole : ∀ why, Token.broken why ∉ lexer.tokens

/-- A token that stands for something that has been cut. -/
def Cut (token : Token) : Prop :=
  ∀ why, token ≠ .broken why

namespace Within

theorem add {token : Token} (within : lexer.Within text) (cut : Cut token) :
    (lexer.add token).Within text where
  source := within.source
  whole why member := by
    rcases List.mem_cons.mp member with same | member
    · exact cut why same.symm
    · exact within.whole why member

theorem putIn {token : Token} (within : lexer.Within text) (position : Nat) (cut : Cut token) :
    (lexer.putIn position token).Within text where
  source := within.source
  whole why member := by
    rcases List.mem_append.mp member with member | member
    · exact within.whole why (List.mem_of_mem_take member)
    · rcases List.mem_cons.mp member with same | member
      · exact cut why same.symm
      · exact within.whole why (List.mem_of_mem_drop member)

/-- Simple keys, indentation and the like do not matter. -/
theorem congr {other : Lexer} (within : lexer.Within text) (source : other.source = lexer.source)
    (tokens : other.tokens = lexer.tokens) : other.Within text :=
  ⟨source ▸ within.source, tokens ▸ within.whole⟩

/-- A token is added where another position is taken. -/
theorem emit {other : Lexer} {after : Source} {token : Token} (within : lexer.Within text)
    (tokens : other.tokens = lexer.tokens) (suffix : after.rest <:+ text) (cut : Cut token) :
    ((other.moveTo after).add token).Within text :=
  add ⟨suffix, tokens ▸ within.whole⟩ cut

theorem unwindBy (within : lexer.Within text) (column : Int) (fuel : Nat) :
    (unwindBy column fuel lexer).Within text := by
  induction fuel generalizing lexer with
  | zero => exact within
  | succ fuel inductionHypothesis =>
      rw [Lexer.unwindBy]
      split
      · exact within
      split
      · exact within
      · have closed : (lexer.add .blockEnd).Within text := within.add nofun
        exact inductionHypothesis (closed.congr rfl rfl)

theorem unwind (within : lexer.Within text) (column : Int) : (lexer.unwind column).Within text := by
  rw [Lexer.unwind]
  split
  · exact within.unwindBy _ _
  · exact within

theorem skipToToken (within : lexer.Within text) (fuel : Nat) :
    (skipToToken fuel lexer).Within text := by
  induction fuel generalizing lexer with
  | zero => exact within
  | succ fuel inductionHypothesis =>
      have after := (lexer.source.skipSpaces.skipComment_suffix.trans
        lexer.source.skipSpaces_suffix).trans within.source
      rw [Lexer.skipToToken]
      split
      · next first next breaks =>
          exact inductionHypothesis ⟨(Source.lineBreak?_suffix breaks).trans after, within.whole⟩
      · exact ⟨after, within.whole⟩

theorem dropKey (within : lexer.Within text) :
    Settles (Uncut text) lexer.dropKey fun next => next.Within text := by
  rw [Lexer.dropKey]
  split
  · exact .of_ok within
  split
  · exact .of_error .malformed
  · exact .of_ok (within.congr rfl rfl)

theorem saveKey (within : lexer.Within text) :
    Settles (Uncut text) lexer.saveKey fun next => next.Within text := by
  have dropped := within.dropKey
  rw [Lexer.saveKey]
  split
  · exact .of_ok within
  split
  · next why failed => exact .of_error (dropped.error _ failed)
  · next cleared kept => exact .of_ok ((dropped.ok _ kept).congr rfl rfl)

theorem forgetStale (within : lexer.Within text) :
    Settles (Uncut text) lexer.forgetStale fun next => next.Within text := by
  rw [Lexer.forgetStale]
  dsimp only
  split
  · exact .of_error .malformed
  · exact .of_ok (within.congr rfl rfl)

theorem openAt (within : lexer.Within text) (column : Nat) : (lexer.openAt column).2.Within text := by
  rw [Lexer.openAt]
  split
  · exact within.congr rfl rfl
  · exact within

theorem openBlock {start : Token} (within : lexer.Within text) (cut : Cut start) :
    Settles (Uncut text) (lexer.openBlock start) fun next => next.Within text := by
  have opened := within.openAt lexer.source.column
  rw [Lexer.openBlock]
  split
  · exact .of_ok within
  split
  · exact .of_error .malformed
  split
  · next next same =>
      rw [same] at opened
      exact .of_ok (opened.add cut)
  · next next same =>
      rw [same] at opened
      exact .of_ok opened

end Within

/-! ### Tokens by kind -/

section Fetch

variable (within : lexer.Within text)

include within

theorem settles_fetchEnd : Settles (Uncut text) lexer.fetchEnd fun next => next.Within text := by
  refine (within.unwind (-1)).dropKey.bind fun closed closedWithin => .of_ok ?_
  have ended : (closed.add .streamEnd).Within text := closedWithin.add nofun
  exact ended.congr rfl rfl

theorem settles_fetchSeparator {token : Token} (cut : Cut token) :
    Settles (Uncut text) (lexer.fetchSeparator token) fun next => next.Within text :=
  (within.unwind (-1)).dropKey.bind fun closed closedWithin => .of_ok
    (closedWithin.emit rfl ((closed.source.steps_suffix 3).trans closedWithin.source) cut)

theorem settles_fetchFlowStart {token : Token} (cut : Cut token) :
    Settles (Uncut text) (lexer.fetchFlowStart token) fun next => next.Within text :=
  within.saveKey.bind fun saved savedWithin => .of_ok
    (savedWithin.emit rfl (saved.source.step_suffix.trans savedWithin.source) cut)

theorem settles_fetchFlowEnd {token : Token} (cut : Cut token) :
    Settles (Uncut text) (lexer.fetchFlowEnd token) fun next => next.Within text := by
  refine within.dropKey.bind fun cleared clearedWithin => ?_
  split
  · exact .of_error .malformed
  · exact .of_ok
      (clearedWithin.emit rfl (cleared.source.step_suffix.trans clearedWithin.source) cut)

theorem settles_fetchFlowEntry :
    Settles (Uncut text) lexer.fetchFlowEntry fun next => next.Within text := by
  rw [fetchFlowEntry]
  refine Settles.bind (Within.dropKey (within.congr rfl rfl)) fun cleared clearedWithin => .of_ok ?_
  exact clearedWithin.emit rfl (cleared.source.step_suffix.trans clearedWithin.source) nofun

theorem settles_fetchBlockEntry :
    Settles (Uncut text) lexer.fetchBlockEntry fun next => next.Within text := by
  rw [fetchBlockEntry]
  have opens := @Within.openBlock text lexer .blockSequenceStart within nofun
  refine opens.bind fun opened openedWithin => ?_
  refine Settles.bind (Within.dropKey (openedWithin.congr rfl rfl)) fun cleared clearedWithin => .of_ok ?_
  exact clearedWithin.emit rfl (cleared.source.step_suffix.trans clearedWithin.source) nofun

theorem settles_fetchKey :
    Settles (Uncut text) lexer.fetchKey fun next => next.Within text := by
  have opens := @Within.openBlock text lexer .blockMappingStart within nofun
  rw [fetchKey]
  refine opens.bind fun opened openedWithin => ?_
  refine Settles.bind (Within.dropKey (openedWithin.congr rfl rfl)) fun cleared clearedWithin => .of_ok ?_
  exact clearedWithin.emit rfl (cleared.source.step_suffix.trans clearedWithin.source) nofun

theorem settles_fetchValue :
    Settles (Uncut text) lexer.fetchValue fun next => next.Within text := by
  have last {ready : Lexer} (ready' : ready.Within text) :
      Settles (Uncut text) (.ok ((ready.moveTo ready.source.step).add .value))
        fun next : Lexer => next.Within text :=
    .of_ok (ready'.emit rfl (ready.source.step_suffix.trans ready'.source) nofun)
  rw [fetchValue]
  split
  · next key waiting =>
      dsimp only
      generalize cleared : ({ lexer with
        simpleKeys := lexer.simpleKeys.filter fun key => key.flowLevel != lexer.flowLevel } : Lexer) =
          start
      have startWithin : start.Within text := by
        rw [← cleared]
        exact within.congr rfl rfl
      have announced : (start.putIn key.position .key).Within text :=
        startWithin.putIn key.position nofun
      have opened := announced.openAt key.column
      split
      · exact last (announced.congr rfl rfl)
      split
      · next next same =>
          rw [same] at opened
          have begun : (next.putIn key.position .blockMappingStart).Within text :=
            opened.putIn key.position nofun
          exact last (begun.congr rfl rfl)
      · next next same =>
          rw [same] at opened
          exact last (opened.congr rfl rfl)
  · have opens := @Within.openBlock text lexer .blockMappingStart within nofun
    refine opens.bind fun opened openedWithin => ?_
    exact Settles.bind (Within.dropKey (openedWithin.congr rfl rfl)) fun ready => last

end Fetch

/-! ### Names, tags and directives -/

theorem settles_readName (within : source.rest <:+ text) :
    Settles (Uncut text) (readName source) fun read => read.2.rest <:+ text := by
  have after := (source.step.takeRun_suffix isNameChar).trans (source.step_suffix.trans within)
  rw [readName]
  dsimp only
  split
  · exact .of_error .malformed
  · exact .of_ok after

theorem settles_readHandle (within : source.rest <:+ text) :
    Settles (Uncut text) (readHandle source) fun read => read.2.rest <:+ text := by
  have after := (source.step.takeRun_suffix isNameChar).trans (source.step_suffix.trans within)
  rw [readHandle]
  split
  · exact .of_error .malformed
  dsimp only
  split
  · exact .of_ok after
  split
  · exact .of_ok ((Source.step_suffix _).trans after)
  · exact .of_error .malformed

theorem settles_readEscapes (found : Bytes) (fuel : Nat) (within : source.rest <:+ text) :
    Settles (Uncut text) (readEscapes found fuel source) fun read => read.2.rest <:+ text := by
  induction fuel generalizing found source with
  | zero => exact .of_error .malformed
  | succ fuel inductionHypothesis =>
      rw [readEscapes]
      split
      · split
        · exact inductionHypothesis _ ((source.steps_suffix 3).trans within)
        · exact .of_error .malformed
      · split
        · exact .of_ok within
        · exact .of_error .malformed

theorem settles_readAddress (found : Text) (fuel : Nat) (within : source.rest <:+ text) :
    Settles (Uncut text) (readAddress found fuel source) fun read => read.2.rest <:+ text := by
  induction fuel generalizing found source with
  | zero => exact .of_error .malformed
  | succ fuel inductionHypothesis =>
      have after := (source.takeRun_suffix fun c => isAddressChar c && c != '%').trans within
      have escapes := settles_readEscapes []
        ((source.takeRun fun c => isAddressChar c && c != '%').2.rest.length + 1) after
      rw [readAddress]
      dsimp only
      split
      · split
        · next part next read => exact inductionHypothesis _ (escapes.ok _ read)
        · next why failed => exact .of_error (escapes.error _ failed)
      · exact .of_ok after

theorem settles_address (within : source.rest <:+ text) :
    Settles (Uncut text) (address source) fun read => read.2.rest <:+ text := by
  have whole := settles_readAddress [] (source.rest.length + 1) within
  rw [address]
  split
  · next why failed => exact .of_error (whole.error _ failed)
  · next part after read =>
      split
      · exact .of_error .malformed
      · exact .of_ok (whole.ok _ read)

theorem settles_readTag (within : source.rest <:+ text) :
    Settles (Uncut text) (readTag source) fun read => read.2.2.rest <:+ text := by
  have last {after : Source} (afterWithin : after.rest <:+ text) (handle : Option Text) (suffix : Text) :
      Settles (Uncut text)
        (if isSpaceOrEnd after.peek then .ok (handle, suffix, after) else .error .malformed)
        fun read : Option Text × Text × Source => read.2.2.rest <:+ text := by
    split
    · exact .of_ok afterWithin
    · exact .of_error .malformed
  have stepped := source.step_suffix.trans within
  have addressed {start : Source} (startWithin : start.rest <:+ text) (handle : Text) :
      Settles (Uncut text) (address start >>= fun read => (pure (some handle, read.1, read.2) >>=
        fun read => if isSpaceOrEnd read.2.2.peek then .ok read else .error .malformed))
        fun read : Option Text × Text × Source => read.2.2.rest <:+ text :=
    (settles_address startWithin).bind fun read readWithin => last readWithin (some handle) read.1
  rw [readTag]
  split
  · refine (settles_address ((source.steps_suffix 2).trans within)).bind fun read readWithin => ?_
    dsimp only
    split
    · exact last ((Source.step_suffix _).trans readWithin) none read.1
    · exact .of_error .malformed
  split
  · exact last stepped none ['!']
  dsimp only
  split
  · exact (settles_readHandle within).bind fun read readWithin => addressed readWithin read.1
  · exact addressed stepped ['!']

theorem settles_readVersionPart {behind : Text} (named : "YAML".toList ++ behind <:+ text)
    (within : source.rest <:+ behind) :
    Settles (Uncut text) (readVersionPart source) fun read => read.2.rest <:+ behind := by
  have after := (source.takeRun_suffix Char.isDigit).trans within
  rw [readVersionPart]
  dsimp only
  split
  · exact .of_error .malformed
  split
  · next long =>
      refine .of_error (Or.inr (Or.inr ⟨_, behind, named, ?_, ?_, long, rfl⟩))
      · exact List.IsInfix.trans ⟨[], _, source.takeRun_append Char.isDigit⟩ within.isInfix
      · exact List.all_eq_true.mp List.all_takeWhile
  · exact .of_ok after

theorem settles_readDirective (within : source.rest <:+ text) :
    Settles (Uncut text) (readDirective source) fun read => read.2.rest <:+ text := by
  have named := (source.step.takeRun_suffix isNameChar).trans (source.step_suffix.trans within)
  have spaced := (Source.skipSpaces_suffix _).trans named
  have last {after : Source} (afterWithin : after.rest <:+ text) (content : Directive) :
      Settles (Uncut text) (after.finishLine >>= fun next => pure (content, next))
        fun read : Directive × Source => read.2.rest <:+ text :=
    (Source.settles_finishLine afterWithin).bind fun _ nextWithin => .of_ok nextWithin
  rw [readDirective]
  dsimp only
  split
  · exact .of_error .malformed
  split
  · next version =>
      have stands : "YAML".toList ++ (source.step.takeRun isNameChar).2.rest <:+ text := by
        rw [← version, source.step.takeRun_append isNameChar]
        exact source.step_suffix.trans within
      refine (settles_readVersionPart stands (Source.skipSpaces_suffix _)).bind
        fun major majorWithin => ?_
      split
      · exact .of_error .malformed
      refine (settles_readVersionPart stands ((Source.step_suffix _).trans majorWithin)).bind
        fun minor minorWithin => ?_
      split
      · exact .of_error .malformed
      · exact last (minorWithin.trans named) _
  split
  · refine (settles_readHandle spaced).bind fun handle handleWithin => ?_
    split
    · exact .of_error .malformed
    refine (settles_address ((Source.skipSpaces_suffix _).trans handleWithin)).bind
      fun start startWithin => ?_
    split
    · exact .of_error .malformed
    · exact last startWithin _
  · exact last ((Source.skipRun_suffix _ _).trans named) _

section FetchText

variable {lexer : Lexer} (within : lexer.Within text)

include within

theorem settles_fetchName {token : Text → Token} (cut : ∀ name, Cut (token name)) :
    Settles (Uncut text) (lexer.fetchName token) fun next => next.Within text :=
  within.saveKey.bind fun _ savedWithin => (settles_readName savedWithin.source).bind
    fun read after => .of_ok (savedWithin.emit rfl after (cut read.1))

theorem settles_fetchTag : Settles (Uncut text) lexer.fetchTag fun next => next.Within text := by
  refine within.saveKey.bind fun _ savedWithin => (settles_readTag savedWithin.source).bind
    fun read after => .of_ok ?_
  exact savedWithin.emit rfl after nofun

theorem settles_fetchDirective :
    Settles (Uncut text) lexer.fetchDirective fun next => next.Within text := by
  refine (within.unwind (-1)).dropKey.bind fun _ closedWithin =>
    (settles_readDirective closedWithin.source).bind fun read after => .of_ok ?_
  exact closedWithin.emit rfl after nofun

theorem settles_fetchBlockScalar (isFolded : Bool) :
    Settles (Uncut text) (lexer.fetchBlockScalar isFolded) fun next => next.Within text := by
  rw [fetchBlockScalar]
  refine Settles.bind (Within.dropKey (within.congr rfl rfl)) fun cleared clearedWithin => ?_
  refine (Block.settles_read isFolded cleared.indent clearedWithin.source).bind
    fun found after => .of_ok ?_
  exact clearedWithin.emit rfl after nofun

theorem settles_fetchQuoted (isDouble : Bool) :
    Settles (Uncut text) (lexer.fetchQuoted isDouble) fun next => next.Within text := by
  refine within.saveKey.bind fun _ savedWithin =>
    (Quoted.settles_read isDouble savedWithin.source).bind fun found after => .of_ok ?_
  exact savedWithin.emit rfl after nofun

theorem settles_fetchPlain :
    Settles (Uncut text) lexer.fetchPlain fun next => next.Within text := by
  refine within.saveKey.bind fun saved savedWithin => .of_ok ?_
  exact savedWithin.emit rfl ((Plain.readFrom_suffix ..).trans savedWithin.source) nofun

/-! ### The next token -/

theorem settles_fetch : Settles (Uncut text) lexer.fetch fun next => next.Within text := by
  rw [fetch]
  dsimp only
  generalize begins : (if (lexer.source.index == 0 && lexer.source.peek == some '\uFEFF') = true then
    lexer.moveTo lexer.source.step else lexer) = begun
  have begunWithin : begun.Within text := by
    rw [← begins]
    split
    · exact ⟨lexer.source.step_suffix.trans within.source, within.whole⟩
    · exact within
  refine (begunWithin.skipToToken _).forgetStale.bind fun fresh freshWithin => ?_
  have ready := freshWithin.unwind fresh.source.column
  generalize fresh.unwind fresh.source.column = lexer at ready
  cases lexer.source.peek with
  | none => exact settles_fetchEnd ready
  | some c =>
      dsimp only
      refine .ite (settles_fetchDirective ready) ?_
      refine .ite (settles_fetchSeparator ready nofun) ?_
      refine .ite (settles_fetchSeparator ready nofun) ?_
      refine .ite (settles_fetchFlowStart ready nofun) ?_
      refine .ite (settles_fetchFlowStart ready nofun) ?_
      refine .ite (settles_fetchFlowEnd ready nofun) ?_
      refine .ite (settles_fetchFlowEnd ready nofun) ?_
      refine .ite (settles_fetchFlowEntry ready) ?_
      refine .ite (settles_fetchBlockEntry ready) ?_
      refine .ite (settles_fetchKey ready) ?_
      refine .ite (settles_fetchValue ready) ?_
      refine .ite (settles_fetchName ready fun _ => nofun) ?_
      refine .ite (settles_fetchName ready fun _ => nofun) ?_
      refine .ite (settles_fetchTag ready) ?_
      refine .ite (settles_fetchBlockScalar ready false) ?_
      refine .ite (settles_fetchBlockScalar ready true) ?_
      refine .ite (settles_fetchQuoted ready false) ?_
      refine .ite (settles_fetchQuoted ready true) ?_
      exact .ite (settles_fetchPlain ready) (.of_error .malformed)

/-- The lexer goes on until the text ends or cannot be cut. -/
theorem uncut_of_run {fuel : Nat} {why : Fault} (broken : .broken why ∈ run fuel lexer) :
    Uncut text why := by
  induction fuel generalizing lexer with
  | zero => exact absurd (List.mem_reverse.mp broken) (within.whole why)
  | succ fuel inductionHypothesis =>
      have fetched := settles_fetch within
      rw [run] at broken
      split at broken
      · exact absurd (List.mem_reverse.mp broken) (within.whole why)
      split at broken
      · next next ended => exact inductionHypothesis (fetched.ok _ ended) broken
      · next other failed =>
          rcases List.mem_cons.mp (List.mem_reverse.mp broken) with same | member
          · cases same
            exact fetched.error _ failed
          · exact absurd member (within.whole why)

end FetchText

end Lexer

/-- A text that cannot be cut is malformed, an escape in it names no code point, or its version has
too many digits. -/
theorem uncut_of_tokens {why : Fault} (broken : .broken why ∈ tokens text) : Uncut text why := by
  rw [tokens] at broken
  split at broken
  · have start : ({ source := { rest := text } } : Lexer).Within text :=
      ⟨List.suffix_rfl, fun _ => List.not_mem_nil⟩
    exact Lexer.uncut_of_run start broken
  · cases List.mem_singleton.mp broken
    exact .malformed

/-! ## The grammar -/

namespace Composer

/-- The collections for which a production still has to pay when it begins.  A sequence that is not
indented pays with its first entry, and no other production has a debt. -/
def Task.debt : Task → Int
  | .indentlessSequence _ => 1
  | _ => 0

variable {tokens : List Token} {composer : Composer} {debt : Int}

/-- More collections may be nested than there is room for. -/
def NestsDeeply (tokens : List Token) (why : Fault) : Prop :=
  why = .nestedTooDeeply ∧ stackRoom ≤ 2 * tokens.countP Token.opens

/-- Why tokens are no document: the grammar does not allow them, they end where the text cannot
be cut, or collections are nested too deeply. -/
def Ungrammatical (tokens : List Token) (why : Fault) : Prop :=
  why = .malformed ∨ .broken why ∈ tokens ∨ NestsDeeply tokens why

theorem Ungrammatical.malformed : Ungrammatical tokens .malformed :=
  Or.inl rfl

/-- A composer stands among the tokens.  The calls for which there is no room any more are paid
for by the tokens before, but for so many collections. -/
structure Reaches (tokens : List Token) (debt : Int) (composer : Composer) : Prop where
  within : composer.tokens <:+ tokens
  room : (stackRoom : Int) + 2 * composer.tokens.countP Token.opens ≤
    composer.room + 2 * tokens.countP Token.opens + 2 * debt

namespace Reaches

variable {other : Composer}

theorem mono {more : Int} (reaches : Reaches tokens debt composer) (few : debt ≤ more) :
    Reaches tokens more composer where
  within := reaches.within
  room := by
    have room := reaches.room
    omega

/-- The room and the tokens are all that counts. -/
theorem congr (reaches : Reaches tokens debt composer) (same : other.tokens = composer.tokens)
    (room : other.room = composer.room) : Reaches tokens debt other :=
  ⟨same ▸ reaches.within, by rw [same, room]; exact reaches.room⟩

theorem moveTo (reaches : Reaches tokens debt composer) (after : other.tokens <:+ composer.tokens)
    (same : other.room = composer.room) : Reaches tokens debt other where
  within := after.trans reaches.within
  room := by
    have fewer := after.sublist.countP_le (p := Token.opens)
    have room := reaches.room
    rw [same]
    omega

theorem advance (reaches : Reaches tokens debt composer) : Reaches tokens debt composer.advance :=
  reaches.moveTo (List.tail_suffix _) rfl

/-- A token that opens a collection pays for it. -/
theorem pay {token : Token} (reaches : Reaches tokens debt composer) (next : composer.peek = token)
    (opens : token.opens = true) : Reaches tokens (debt - 1) composer.advance where
  within := (List.tail_suffix _).trans reaches.within
  room := by
    have room := reaches.room
    change (stackRoom : Int) + 2 * composer.tokens.tail.countP Token.opens ≤ composer.room + _ + _
    rw [peek] at next
    cases same : composer.tokens with
    | nil =>
        rw [same] at next
        subst next
        cases opens
    | cons first rest =>
        rw [same] at next room
        obtain rfl : first = token := next
        rw [List.countP_cons_of_pos opens] at room
        rw [List.tail_cons]
        omega

end Reaches

theorem ungrammatical_refuse (reaches : Reaches tokens debt composer) :
    Ungrammatical tokens composer.refuse := by
  have within := reaches.within
  rw [refuse, peek]
  cases same : composer.tokens with
  | nil => exact .malformed
  | cons token rest =>
      rw [same] at within
      cases token with
      | broken why => exact Or.inr (Or.inl (within.mem List.mem_cons_self))
      | _ => exact .malformed

theorem reaches_properties (reaches : Reaches tokens debt composer) :
    Reaches tokens debt composer.properties.2 := by
  have one (token : Token) (rest : List Token) : rest <:+ token :: rest := List.suffix_cons token rest
  rw [properties]
  split
  · next same => exact reaches.moveTo (same ▸ (one _ _).trans (one _ _)) rfl
  · next same => exact reaches.moveTo (same ▸ (one _ _).trans (one _ _)) rfl
  · next same => exact reaches.moveTo (same ▸ one _ _) rfl
  · next same => exact reaches.moveTo (same ▸ one _ _) rfl
  · exact reaches

/-- A step of the grammar goes on in what is left of the tokens and of the room. -/
abbrev Proceeds {α : Type} (tokens : List Token) (debt : Int) (step : Except Fault (α × Composer)) :
    Prop :=
  Settles (Ungrammatical tokens) step fun read => Reaches tokens debt read.2

theorem proceeds_nameNode (reaches : Reaches tokens debt composer) (anchor : Option Text) (id : Nat) :
    Settles (Ungrammatical tokens) (composer.nameNode anchor id) (Reaches tokens debt) := by
  unfold nameNode
  split
  · exact .of_ok reaches
  split
  · exact .of_error .malformed
  · exact .of_ok (reaches.congr rfl rfl)

/-- A collection is opened on credit, unless there is no room: then there are many collections. -/
theorem proceeds_openCollection (reaches : Reaches tokens (debt - 1) composer) (few : debt ≤ 1)
    (anchor : Option Text) (node : Node) :
    Proceeds tokens debt (composer.openCollection anchor node) := by
  have room := reaches.room
  unfold openCollection
  split
  · next full =>
      refine .of_error (Or.inr (Or.inr ⟨rfl, ?_⟩))
      unfold callsInside at full
      unfold stackRoom at room ⊢
      omega
  · next free =>
      have opened : Reaches tokens debt
          ({ composer with room := composer.room - callsInside }.newNode node).2 := by
        refine ⟨reaches.within, ?_⟩
        unfold callsInside at free
        unfold newNode callsInside
        dsimp only
        omega
      exact (proceeds_nameNode opened anchor _).map fun _ named => named

theorem Reaches.close (reaches : Reaches tokens debt composer) (few : debt ≤ 1) (id : Nat)
    (node : Node) : Reaches tokens 0 (composer.closeCollection id node) where
  within := reaches.within
  room := by
    have room := reaches.room
    unfold closeCollection callsInside
    dsimp only
    omega

theorem settles_fullTag (composer : Composer) (tag : Option (Option Text × Text)) :
    Settles (Ungrammatical tokens) (composer.fullTag tag) fun _ => True := by
  unfold fullTag
  split
  · exact .of_ok trivial
  · exact .of_ok trivial
  split
  · exact .of_ok trivial
  · exact .of_error .malformed

section Run

variable {run : Task → Composer → Except Fault (Yield × Composer)}
  (proceeds : ∀ task composer, Reaches tokens task.debt composer →
    Proceeds tokens task.debt (run task composer))

include proceeds

theorem proceeds_nodeUnless (reaches : Reaches tokens 0 composer) (stops : Token → Bool)
    (block indentless : Bool) :
    Proceeds tokens 0 (nodeUnless run stops (.node block indentless) composer) := by
  have step := proceeds (.node block indentless) composer reaches
  rw [nodeUnless]
  split
  · exact .of_ok (reaches.congr rfl rfl)
  split
  · next id next ended => exact .of_ok (step.ok _ ended)
  · exact .of_error .malformed
  · next why failed => exact .of_error (step.error _ failed)

theorem proceeds_content (reaches : Reaches tokens 0 composer) (block indentless : Bool)
    (found : Properties) : Proceeds tokens 0 (content run block indentless found composer) := by
  rw [content]
  refine (settles_fullTag composer found.tag).bind fun tag _ => ?_
  extract_lets sequenceKind sequence mappingKind mapping scalar
  have ofSequence (task : Task) {next : Composer} (few : task.debt ≤ 1)
      (reaches : Reaches tokens (task.debt - 1) next) : Proceeds tokens 0 (sequence task next) := by
    refine (proceeds_openCollection reaches few _ _).bind fun opened openedReaches => ?_
    refine (proceeds task opened.2 openedReaches).bind fun read readReaches => ?_
    split
    · exact .of_ok (readReaches.close few _ _)
    · exact .of_error .malformed
  have ofMapping (task : Task) {next : Composer} (few : task.debt ≤ 1)
      (reaches : Reaches tokens (task.debt - 1) next) : Proceeds tokens 0 (mapping task next) := by
    refine (proceeds_openCollection reaches few _ _).bind fun opened openedReaches => ?_
    refine (proceeds task opened.2 openedReaches).bind fun read readReaches => ?_
    split
    · exact .of_ok (readReaches.close few _ _)
    · exact .of_error .malformed
  have ofScalar (kind : Tag) (held : Content) {next : Composer} (reaches : Reaches tokens 0 next) :
      Proceeds tokens 0 (scalar kind held next) := by
    have added : Reaches tokens 0 (next.newNode (.scalar kind held)).2 := reaches.congr rfl rfl
    exact (proceeds_nameNode added _ _).bind fun _ named => .of_ok named
  have refused : Proceeds tokens 0 (throw composer.refuse : Except Fault (Nat × Composer)) :=
    .of_error (ungrammatical_refuse reaches)
  split
  · exact ofScalar _ _ reaches.advance
  · next peeked => exact ofSequence _ (by decide) (reaches.pay peeked rfl)
  · next peeked => exact ofMapping _ (by decide) (reaches.pay peeked rfl)
  · exact .ite (ofSequence _ (by decide) reaches) (.ite (ofScalar _ _ reaches) refused)
  · next peeked =>
      exact .ite (ofSequence _ (by decide) (reaches.pay peeked rfl))
        (.ite (ofScalar _ _ reaches) refused)
  · next peeked =>
      exact .ite (ofMapping _ (by decide) (reaches.pay peeked rfl))
        (.ite (ofScalar _ _ reaches) refused)
  · exact .ite (ofScalar _ _ reaches) refused

end Run

/-- An entry of a flow collection comes first or after a comma. -/
theorem proceeds_entry {α : Type} {next : Composer → Except Fault (α × Composer)} {isFirst : Bool}
    (reaches : Reaches tokens 0 composer)
    (each : ∀ entry : Composer, Reaches tokens 0 entry → Proceeds tokens 0 (next entry)) :
    Proceeds tokens 0 (if isFirst then pure composer >>= next
      else if composer.peek = .flowEntry then pure composer.advance >>= next
      else throw composer.refuse >>= next) :=
  .ite (each composer reaches)
    (.ite (each composer.advance reaches.advance) (.of_error (ungrammatical_refuse reaches)))

/-- Every production of the grammar proceeds in the tokens. -/
theorem proceeds_run (fuel : Nat) (task : Task) (reaches : Reaches tokens task.debt composer) :
    Proceeds tokens task.debt (run fuel task composer) := by
  induction fuel generalizing task composer with
  | zero => exact .of_error .malformed
  | succ fuel inductionHypothesis =>
      have steps (task : Task) (composer : Composer) (reaches : Reaches tokens task.debt composer) :
          Proceeds tokens task.debt (run fuel task composer) := inductionHypothesis task reaches
      have part {composer : Composer} (reaches : Reaches tokens 0 composer) (stops : Token → Bool)
          (block indentless : Bool) := proceeds_nodeUnless steps reaches stops block indentless
      have refused {α : Type} {composer : Composer} (reaches : Reaches tokens 0 composer) :
          Proceeds tokens 0 (.error composer.refuse : Except Fault (α × Composer)) :=
        .of_error (ungrammatical_refuse reaches)
      have empty {composer : Composer} (reaches : Reaches tokens 0 composer) :
          Reaches tokens 0 composer.emptyScalar.2 := reaches.congr rfl rfl
      unfold run
      cases task with
      | node block indentless =>
          dsimp only
          split
          · split
            · exact .of_ok reaches.advance
            · exact .of_error .malformed
          · exact (proceeds_content steps (reaches_properties reaches) block indentless _).bind
              fun _ contentReaches => .of_ok contentReaches
      | blockSequence items =>
          dsimp only
          split
          · exact (part reaches.advance _ _ _).bind fun read readReaches => steps _ _ readReaches
          · exact .of_ok reaches.advance
          · exact refused reaches
      | indentlessSequence items =>
          dsimp only
          split
          · next peeked =>
              -- The first entry pays for the sequence; from then on there is no debt.
              refine (part (reaches.pay peeked rfl) _ _ _).bind fun read readReaches => ?_
              exact steps (.indentlessSequence _) _ (readReaches.mono Int.one_nonneg)
          · exact .of_ok reaches
      | blockMapping pairs =>
          dsimp only
          split
          · exact (part reaches.advance _ _ _).bind fun read readReaches => steps _ _ readReaches
          · exact .of_ok reaches.advance
          · exact refused reaches
      | blockValue pairs key =>
          dsimp only
          split
          · exact (part reaches.advance _ _ _).bind fun read readReaches => steps _ _ readReaches
          · exact steps _ _ (empty reaches)
      | flowSequence items isFirst =>
          dsimp only
          refine .ite (.of_ok reaches.advance) (proceeds_entry reaches fun entry entryReaches => ?_)
          split
          · next peeked =>
              have paid := entryReaches.pay peeked rfl
              refine (proceeds_openCollection paid Int.one_nonneg _ _).bind fun opened openedReaches => ?_
              refine (steps .singlePair _ openedReaches).bind fun read readReaches => ?_
              split
              · exact steps _ _ (readReaches.close Int.one_nonneg _ _)
              · exact .of_error .malformed
          · exact .of_ok entryReaches.advance
          · refine (steps (.node false false) _ entryReaches).bind fun read readReaches => ?_
            split
            · exact steps _ _ readReaches
            · exact .of_error .malformed
      | singlePair =>
          dsimp only
          refine (part reaches _ _ _).bind fun key keyReaches => ?_
          split
          · exact (part keyReaches.advance _ _ _).bind fun value valueReaches => .of_ok valueReaches
          · exact .of_ok (empty keyReaches)
      | flowMapping pairs isFirst =>
          dsimp only
          refine .ite (.of_ok reaches.advance) (proceeds_entry reaches fun entry entryReaches => ?_)
          split
          · exact (part entryReaches.advance _ _ _).bind fun read readReaches =>
              steps _ _ readReaches
          · exact .of_ok entryReaches.advance
          · refine (steps (.node false false) _ entryReaches).bind fun read readReaches => ?_
            split
            · exact steps _ _ (empty readReaches)
            · exact .of_error .malformed
      | flowValue pairs key =>
          dsimp only
          split
          · exact (part reaches.advance _ _ _).bind fun read readReaches => steps _ _ readReaches
          · exact steps _ _ (empty reaches)

/-- Directives that are read leave the rest of the tokens. -/
theorem settles_directives (version : Bool) (declared : List (Text × Text))
    {rest : List Token} (within : rest <:+ tokens) :
    Settles (Ungrammatical tokens) (directives version declared rest)
      fun read => read.2 <:+ tokens := by
  induction rest generalizing version declared with
  | nil => exact .of_ok within
  | cons token rest inductionHypothesis =>
      have later := (List.suffix_cons token rest).trans within
      unfold directives
      split
      · next same =>
          cases same
          exact .ite (.of_error .malformed) (inductionHypothesis _ _ later)
      · next same =>
          cases same
          exact .ite (.of_error .malformed) (inductionHypothesis _ _ later)
      · next same =>
          cases same
          exact inductionHypothesis _ _ later
      · exact .of_ok within

theorem settles_onlyEnds {rest : List Token} (within : rest <:+ tokens) :
    Settles (Ungrammatical tokens) (onlyEnds rest) fun _ => True := by
  induction rest with
  | nil => exact .of_error .malformed
  | cons token rest inductionHypothesis =>
      unfold onlyEnds
      split
      · next same =>
          cases same
          exact inductionHypothesis ((List.suffix_cons _ _).trans within)
      · exact .of_ok trivial
      · next same =>
          cases same
          exact .of_error (Or.inr (Or.inl (within.mem List.mem_cons_self)))
      · exact .of_error .malformed

/-- A composer that begins has all the room. -/
theorem reaches_start {rest : List Token} (within : rest <:+ tokens) (handles : List (Text × Text)) :
    Reaches tokens 0 { tokens := rest, handles } where
  within := within
  room := by
    have fewer := within.sublist.countP_le (p := Token.opens)
    dsimp only
    omega

/-- Why tokens are no document. -/
theorem ungrammatical_of_document {why : Fault} (failed : document tokens = .error why) :
    Ungrammatical tokens why := by
  have finish (id : Nat) {last : Composer} (reaches : Reaches tokens 0 last) :
      Settles (Ungrammatical tokens) (onlyEnds last.tokens >>= fun _ => pure (some id, last))
        fun _ : Option Nat × Composer => True :=
    (settles_onlyEnds reaches.within).bind fun _ _ => .of_ok trivial
  suffices ends : Settles (Ungrammatical tokens) (document tokens) fun _ => True from
    ends.error why failed
  unfold document
  dsimp only
  split
  rotate_left 2
  · exact .of_ok trivial
  · have start := reaches_start (@List.suffix_rfl _ tokens) defaultHandles
    refine (proceeds_run _ (.node true false) start).bind fun read readReaches => ?_
    split
    · exact finish _ readReaches
    · exact .of_error .malformed
  -- A document begins with its directives, if it has any, and a mark.
  all_goals
    refine (settles_directives _ _ List.suffix_rfl).bind fun read readWithin => ?_
    split
    · next rest same =>
        rw [same] at readWithin
        have begun := reaches_start ((List.suffix_cons _ rest).trans readWithin)
          (read.1 ++ defaultHandles)
        have empty : Reaches _ 0
            (emptyScalar { tokens := rest, handles := read.1 ++ defaultHandles }).2 :=
          begun.congr rfl rfl
        split
        · exact finish _ empty
        · exact finish _ empty
        · exact finish _ empty
        · exact finish _ empty
        · refine (proceeds_run _ (.node true false) begun).bind fun read readReaches => ?_
          split
          · exact finish _ readReaches
          · exact .of_error .malformed
    · next same => exact .of_error (Or.inr (Or.inl (readWithin.mem (same ▸ List.mem_cons_self))))
    · exact .of_error .malformed

end Composer
end Yaml
end Codemap
