import Codemap.Pattern.Reader
import Codemap.Proofs.Number.Decimal
import Codemap.Proofs.Result
import Mathlib.Data.List.Infix

namespace Codemap
namespace Pattern

/-!
# Why a pattern is refused

Most patterns that are refused are malformed.  The other faults have their places in the
pattern: a number of repetitions that is too large, or that has too many digits, stands behind
an opening brace, options that exclude one another stand behind parentheses, and a pattern that
is nested too deeply opens a group again and again.

Reading is a chain of steps, and every step goes on in what is left of the tokens.  So each
function of the reader has one lemma here: begun within the tokens of the pattern it ends
within them, or fails as malformed, at a count that stands among them, or for want of room.
Calls are paid for by the parentheses that have been passed: two by each while the pattern is
read, and three by each when it is translated.
-/

/-- Characters write digits to a base. -/
abbrev WriteDigits (base : Nat) (run : Text) (digits : List Nat) : Prop :=
  List.Forall₂ (fun c digit => c.toNat < 128 ∧ Text.digitIn? base c = some digit) run digits

/-- Digits stand among tokens, one token each. -/
def DigitsStand (tokens : List Text) (digits : List Nat) : Prop :=
  ∃ run : Text, run.map ([·]) <:+: tokens ∧ WriteDigits 10 run digits

/-- A number that stands behind an opening brace among the tokens of a pattern is no count. -/
def CountFails (source : List Text) (why : PatternFault) : Prop :=
  ∃ inside digits last, ['\x7b'] :: inside <:+ source ∧ DigitsStand inside digits ∧
    countOf? last digits = .error why

/-- More groups may be nested than there is room for, with three calls each. -/
def NestsDeeply (source : List Text) (why : PatternFault) : Prop :=
  why = .nestedTooDeeply ∧ stackRoom ≤ 3 * source.count ['(']

/-- A step of reading yields what has a property, or it fails as malformed, at a count or for want
of room. -/
abbrev Ends {α : Type} (source : List Text) (step : Except PatternFault α) (yields : α → Prop) :
    Prop :=
  Settles (fun why => why = .malformed ∨ CountFails source why ∨ NestsDeeply source why) step yields

namespace Ends

variable {α β : Type} {source : List Text} {yields : α → Prop}

theorem malformed : Ends source (.error .malformed : Except PatternFault α) yields :=
  .of_error (Or.inl rfl)

/-- What is asked for is checked before the step goes on. -/
theorem guard {refused : Prop} [Decidable refused] {after : β → Except PatternFault α}
    {otherwise : Except PatternFault α} (passes : Ends source otherwise yields) :
    Ends source (if refused then throw .malformed >>= after else otherwise) yields := by
  split
  · exact Ends.malformed
  · exact passes

end Ends

/-! ## Escapes, classes and options -/

section Notation

variable {source tokens : List Text}

/-- Digits are read from characters that write them, one token each. -/
theorem takeDigits_eq (base count : Nat) (tokens : List Text) :
    ∃ run : Text, tokens = run.map ([·]) ++ (takeDigits base count tokens).2 ∧
      WriteDigits base run (takeDigits base count tokens).1 := by
  fun_induction takeDigits base count tokens with
  | case1 count c rest ascii digit same digits last taken inductionHypothesis =>
      rcases inductionHypothesis with ⟨run, split, written⟩
      rw [taken] at split written
      exact ⟨c :: run, congrArg _ split, .cons ⟨ascii, same⟩ written⟩
  | _ => exact ⟨[], rfl, .nil⟩

theorem takeDigits_suffix (base count : Nat) (tokens : List Text) :
    (takeDigits base count tokens).2 <:+ tokens := by
  rcases takeDigits_eq base count tokens with ⟨run, split, -⟩
  exact ⟨_, split.symm⟩

theorem ends_hexEscape (count : Nat) :
    Ends source (hexEscape count tokens) fun read => read.2 <:+ tokens := by
  unfold hexEscape
  dsimp only
  split
  · exact .of_ok (takeDigits_suffix ..)
  · exact Ends.malformed

theorem ends_upTo (stop found : Text) :
    Ends source (upTo stop found tokens) fun read => read.2 <:+ tokens := by
  induction tokens generalizing found with
  | nil => exact Ends.malformed
  | cons token rest inductionHypothesis =>
      unfold upTo
      split
      · split
        · exact Ends.malformed
        · exact .of_ok (List.suffix_cons _ _)
      · exact (inductionHypothesis _).imp fun _ within => within.trans (List.suffix_cons _ _)

theorem ends_nameEscape :
    Ends source (nameEscape tokens) fun read => read.2 <:+ tokens := by
  unfold nameEscape
  split
  · next rest =>
      refine (ends_upTo _ _).bind ?_
      rintro ⟨name, last⟩ within
      dsimp only at within ⊢
      split
      · exact .of_ok (within.trans (List.suffix_cons _ _))
      · exact Ends.malformed
  · exact Ends.malformed

theorem ends_escapedSelf (c : Char) : Ends source (escapedSelf c) fun _ => True := by
  unfold escapedSelf
  split
  · exact Ends.malformed
  · exact .of_ok trivial

theorem ends_readEscape (c : Char) :
    Ends source (readEscape c tokens) fun read => read.2 <:+ tokens := by
  have digits (base count : Nat) := takeDigits_suffix base count tokens
  unfold readEscape
  split
  · exact .of_ok List.suffix_rfl
  · exact .of_ok List.suffix_rfl
  · exact .of_ok List.suffix_rfl
  · exact (ends_hexEscape _).map fun _ holds => holds
  · split
    · exact ends_nameEscape.map fun _ holds => holds
    split
    · exact .of_ok (digits 8 2)
    · split
      · split
        · next second rest taken =>
            have restWithin : rest <:+ tokens := by
              have suffix := digits 10 1
              rwa [taken] at suffix
            split
            · next third last takenAgain =>
                have lastWithin : last <:+ tokens := by
                  have suffix := (takeDigits_suffix 8 1 rest).trans restWithin
                  rwa [takenAgain] at suffix
                dsimp only
                split
                · split
                  · exact .of_ok lastWithin
                  · exact Ends.malformed
                · exact .of_ok restWithin
            · exact .of_ok restWithin
        · exact .of_ok List.suffix_rfl
      · exact (ends_escapedSelf c).map fun _ _ => List.suffix_rfl

theorem ends_readClassEscape (c : Char) :
    Ends source (readClassEscape c tokens) fun read => read.2 <:+ tokens := by
  unfold readClassEscape
  split
  · exact .of_ok List.suffix_rfl
  · exact .of_ok List.suffix_rfl
  · exact (ends_hexEscape _).map fun _ holds => holds
  · split
    · exact ends_nameEscape.map fun _ holds => holds
    split
    · split
      · dsimp only
        split
        · exact .of_ok (takeDigits_suffix 8 2 tokens)
        · exact Ends.malformed
      · exact .of_ok List.suffix_rfl
    · exact (ends_escapedSelf c).map fun _ _ => List.suffix_rfl

theorem ends_readMember (token : Text) :
    Ends source (readMember token tokens) fun read => read.2 <:+ tokens := by
  unfold readMember
  split
  · split
    · exact Ends.malformed
    · exact .of_ok List.suffix_rfl
  · split
    · exact ends_readClassEscape _
    · exact Ends.malformed
  · exact Ends.malformed

theorem suffix_tail {token : Text} (within : token :: tokens <:+ source) : tokens <:+ source :=
  (List.suffix_cons token tokens).trans within

theorem ends_readMembers (isAscii isFirst : Bool) (items : List (Option ClassItem)) (fuel : Nat) :
    Ends source (readMembers isAscii isFirst items fuel tokens) fun read => read.2 <:+ tokens := by
  induction fuel generalizing isFirst items tokens with
  | zero =>
      unfold readMembers
      exact Ends.malformed
  | succ fuel inductionHypothesis =>
      cases tokens with
      | nil =>
          unfold readMembers
          exact Ends.malformed
      | cons token tokens =>
          unfold readMembers
          split
          · exact .of_ok (List.suffix_cons _ _)
          · refine (ends_readMember token).bind ?_
            rintro ⟨member, rest⟩ restWithin
            have within : rest <:+ token :: tokens := restWithin.trans (List.suffix_cons _ _)
            dsimp only
            split
            · exact .of_ok (suffix_tail (suffix_tail within))
            · refine (ends_readMember _).bind ?_
              rintro ⟨other, last⟩ lastWithin
              have after := lastWithin.trans (suffix_tail (suffix_tail within))
              dsimp only
              split
              · split
                · exact Ends.malformed
                · exact (inductionHypothesis _ _).imp fun _ further => further.trans after
              · exact Ends.malformed
            · exact Ends.malformed
            · exact (inductionHypothesis _ _).imp fun _ further => further.trans within

theorem ends_readClass (options : Options) :
    Ends source (readClass options tokens) fun read => read.2 <:+ tokens := by
  unfold readClass
  dsimp only
  refine (ends_readMembers _ _ _ _).bind ?_
  rintro ⟨members, last⟩ lastWithin
  refine .of_ok (lastWithin.trans ?_)
  split
  · exact List.suffix_cons _ _
  · exact List.suffix_rfl

theorem ends_readLetters (found : List Char) :
    Ends source (readLetters found tokens) fun read => read.2.2 <:+ tokens ∧
      ∃ letters, read.1 = found ++ letters ∧ (∀ c ∈ letters, c ∈ optionLetters) ∧
        tokens = letters.map ([·]) ++ read.2.1 :: read.2.2 := by
  induction tokens generalizing found with
  | nil => exact Ends.malformed
  | cons token rest inductionHypothesis =>
      unfold readLetters
      split
      · next c =>
          split
          · next letter =>
              refine (inductionHypothesis (found ++ [c])).imp ?_
              rintro ⟨all, stop, last⟩ ⟨lastWithin, letters, rfl, listed, split⟩
              refine ⟨lastWithin.trans (List.suffix_cons _ _), c :: letters, by simp, ?_,
                congrArg _ split⟩
              exact List.forall_mem_cons.mpr ⟨by simpa using letter, listed⟩
          · exact .of_ok ⟨List.suffix_cons _ _, [], by simp⟩
      · exact Ends.malformed

/-- Letters of options stand in front of tokens, up to a closing parenthesis. -/
def LettersStand (tokens : List Text) (letters : Text) : Prop :=
  (∀ c ∈ letters, c ∈ optionLetters) ∧ ∃ rest, tokens = letters.map ([·]) ++ [')'] :: rest

theorem ends_readOptions :
    Ends source (readOptions tokens) fun read => read.2.2 <:+ tokens ∧
      (read.2.1 = true → LettersStand tokens read.1.turnedOn) := by
  unfold readOptions
  refine (ends_readLetters []).bind ?_
  rintro ⟨turnedOn, stop, rest⟩ ⟨restWithin, letters, listed, known, split⟩
  dsimp only at restWithin split listed ⊢
  rw [List.nil_append] at listed
  subst listed
  refine Ends.guard ?_
  split
  · next closing => exact .of_ok ⟨restWithin, fun _ => ⟨known, rest, closing ▸ split⟩⟩
  refine Ends.guard ?_
  split
  · exact .of_ok ⟨restWithin, nofun⟩
  refine Ends.guard ?_
  refine (ends_readLetters []).bind ?_
  rintro ⟨turnedOff, last, final⟩ ⟨finalWithin, -⟩
  exact Ends.guard (.guard (.of_ok ⟨finalWithin.trans restWithin, nofun⟩))

end Notation

/-! ## Repetitions, groups and the whole pattern -/

section Reader

variable {source tokens : List Text} {reading : Reading} {slack : Nat}

/-- A change of options for the whole pattern stands in parentheses. -/
def ChangeStands (source : List Text) (change : OptionChange) : Prop :=
  ∃ inside, ['('] :: ['?'] :: inside <:+ source ∧ LettersStand inside change.turnedOn

/-- A part that has been read between two places takes few calls: three for each parenthesis
between them, and some to spare. -/
def Cheap (before after : List Text) (spare : Nat) (part : Part) : Prop :=
  part.calls + 3 * after.count ['('] ≤ 3 * before.count ['('] + spare

namespace Cheap

variable {before after : List Text} {spare : Nat} {part : Part}

theorem further (cheap : Cheap before after spare part) (further : tokens <:+ after) :
    Cheap before tokens spare part := by
  have fewer := further.sublist.count_le ['(']
  unfold Cheap at cheap ⊢
  omega

theorem since (cheap : Cheap before after spare part) (earlier : before <:+ tokens) :
    Cheap tokens after spare part := by
  have fewer := earlier.sublist.count_le ['(']
  unfold Cheap at cheap ⊢
  omega

theorem of_calls {calls : Nat} (none : part.calls = 0) (within : after <:+ before) :
    Cheap before after calls part := by
  have fewer := within.sublist.count_le ['(']
  unfold Cheap
  omega

/-- A part around another takes one call more. -/
theorem around {other : Part} (cheap : Cheap before after spare part)
    (calls : other.calls ≤ part.calls + 1) : Cheap before after (spare + 1) other := by
  unfold Cheap at cheap ⊢
  omega

end Cheap

/-- A reading is at a place in the pattern, and has met the changes of options there.  The calls
for which there is no room any more, and some others, are paid for by the parentheses before the
place. -/
structure Stands (source : List Text) (slack : Nat) (reading : Reading) : Prop where
  within : reading.tokens <:+ source
  changes : ∀ change ∈ reading.changes, ChangeStands source change
  room : stackRoom + slack + 2 * reading.tokens.count ['('] ≤ reading.room + 2 * source.count ['(']

theorem Stands.moveTo (stands : Stands source slack reading) (after : tokens <:+ reading.tokens) :
    Stands source slack (reading.moveTo tokens) where
  within := after.trans stands.within
  changes := stands.changes
  room := by
    have fewer := after.sublist.count_le ['(']
    have room := stands.room
    change _ ≤ reading.room + _
    change stackRoom + slack + 2 * tokens.count ['('] ≤ _
    omega

/-- Behind a parenthesis there is room for two calls more. -/
theorem Stands.inside {rest : List Text} (stands : Stands source slack reading)
    (opened : reading.tokens = ['('] :: rest) : Stands source (slack + 2) (reading.moveTo rest) where
  within := suffix_tail (opened ▸ stands.within)
  changes := stands.changes
  room := by
    have room := stands.room
    rw [opened, List.count_cons_self] at room
    change stackRoom + (slack + 2) + 2 * rest.count ['('] ≤ reading.room + _
    omega

theorem Stands.outside (stands : Stands source (slack + 2) reading) : Stands source slack reading where
  within := stands.within
  changes := stands.changes
  room := by
    have room := stands.room
    omega

theorem ends_expect (stands : Stands source slack reading) (token : Text) :
    Ends source (reading.expect token) fun next =>
      Stands source slack next ∧ next.tokens <:+ reading.tokens := by
  unfold Reading.expect
  split
  · next next rest same =>
      have within : rest <:+ reading.tokens := same ▸ List.suffix_cons _ _
      split
      · exact .of_ok ⟨stands.moveTo within, within⟩
      · exact Ends.malformed
  · exact Ends.malformed

theorem ends_checkBehind (reading : Reading) (index : Nat) :
    Ends source (reading.checkBehind index) fun _ => True := by
  unfold Reading.checkBehind
  split
  · exact .of_ok trivial
  · split
    · exact .of_ok trivial
    · exact Ends.malformed

theorem ends_reference (reading : Reading) (options : Options) (index : Nat) :
    Ends source (reading.reference options index) fun part => part.calls = 0 := by
  unfold Reading.reference
  split
  · exact (ends_checkBehind reading index).bind fun _ _ => .of_ok rfl
  · exact Ends.malformed

theorem ends_escapePart (reading : Reading) (options : Options) (escape : Escape) :
    Ends source (escapePart reading options escape) fun part => part.calls = 0 := by
  unfold escapePart
  split
  · exact .of_ok rfl
  · exact .of_ok rfl
  · exact .of_ok rfl
  · exact ends_reference reading options _

theorem digitsStand_of_suffix {rest : List Text} (count : Nat) (within : rest <:+ tokens) :
    DigitsStand tokens (takeDigits 10 count rest).1 := by
  rcases takeDigits_eq 10 count rest with ⟨run, split, written⟩
  exact ⟨run, (split ▸ List.prefix_append ..).isInfix.trans within.isInfix, written⟩

theorem ends_countOf {digits : List Nat} (within : ['\x7b'] :: tokens <:+ source)
    (stand : DigitsStand tokens digits) (last : List Text) :
    Ends source (countOf? last digits) fun _ => True :=
  ⟨fun _ _ => trivial, fun _ same => Or.inr (Or.inl ⟨tokens, digits, last, within, stand, same⟩)⟩

theorem ends_readBraces (within : ['\x7b'] :: tokens <:+ source) :
    Ends source (readBraces tokens) fun read =>
      ∀ count last, read = some (count, last) → last <:+ tokens := by
  unfold readBraces
  split
  · exact .of_ok (by simp)
  split
  next low afterLow taken =>
    have lowStand : DigitsStand tokens low := by
      have stand := @digitsStand_of_suffix tokens tokens tokens.length List.suffix_rfl
      rwa [taken] at stand
    have afterWithin : afterLow <:+ tokens := by
      have suffix := takeDigits_suffix 10 tokens.length tokens
      rwa [taken] at suffix
    split
    next high rest same =>
      have highStand : DigitsStand tokens high ∧ rest <:+ tokens := by
        split at same
        · next later =>
            have laterWithin : later <:+ tokens := suffix_tail afterWithin
            have stand := @digitsStand_of_suffix tokens later later.length laterWithin
            have suffix := (takeDigits_suffix 10 later.length later).trans laterWithin
            rw [same] at stand suffix
            exact ⟨stand, suffix⟩
        · cases same
          exact ⟨lowStand, afterWithin⟩
      split
      · next last =>
          have lastWithin : last <:+ tokens := suffix_tail highStand.2
          refine (ends_countOf within lowStand last).bind fun least _ => ?_
          refine (ends_countOf within highStand.1 last).bind fun most _ => ?_
          split
          · exact Ends.guard (.of_ok (by simp [lastWithin]))
          · exact .of_ok (by simp [lastWithin])
      · exact .of_ok (by simp)

/-- A count is read, or gives a fault where it stands. -/
theorem ends_readCount (token : Text) (within : token :: tokens <:+ source) :
    Ends source (readCount token tokens) fun read =>
      ∀ count last, read = some (count, last) → last <:+ tokens := by
  unfold readCount
  split
  · exact .of_ok (by simp)
  · exact .of_ok (by simp)
  · exact .of_ok (by simp)
  · exact ends_readBraces within
  · exact .of_ok (by simp)

/-- The calls that a part of a sequence has to spare. -/
def Part.spare (part : Part) : Nat :=
  if part.kind = .repetition then 1 else 0

/-- The parts of a sequence take few calls. -/
def AllCheap (before after : List Text) (parts : List Part) : Prop :=
  ∀ part ∈ parts, Cheap before after part.spare part

theorem AllCheap.further {before after : List Text} {parts : List Part}
    (cheap : AllCheap before after parts) (further : tokens <:+ after) :
    AllCheap before tokens parts :=
  fun part listed => (cheap part listed).further further

theorem AllCheap.cons {before after : List Text} {part : Part} {parts : List Part}
    (first : Cheap before after 0 part) (cheap : AllCheap before after parts) :
    AllCheap before after (part :: parts) :=
  List.forall_mem_cons.mpr ⟨Nat.le_add_right_of_le first, cheap⟩

/-- Parts one after another take as few calls as each of them. -/
theorem Cheap.sequence {before after : List Text} {parts : List Part}
    (within : after <:+ before) (cheap : ∀ part ∈ parts, Cheap before after 1 part) :
    Cheap before after 1 (Part.sequence parts) := by
  have fewer := within.sublist.count_le ['(']
  unfold Cheap Part.sequence
  dsimp only
  induction parts with
  | nil =>
      rw [List.foldr_nil]
      omega
  | cons part parts inductionHypothesis =>
      rw [List.forall_mem_cons] at cheap
      have first : part.calls + _ ≤ _ + 1 := cheap.1
      have others := inductionHypothesis cheap.2
      rw [List.foldr_cons]
      omega

/-- A choice takes one call more than one of its alternatives. -/
theorem Cheap.choice {before after : List Text} {parts : List Part}
    (within : after <:+ before) (cheap : ∀ part ∈ parts, Cheap before after 1 part) :
    Cheap before after 2 (Part.choice parts) := by
  cases parts with
  | nil => exact .of_calls rfl within
  | cons first rest =>
      unfold Part.choice
      dsimp only
      split
      · exact .of_calls rfl within
      · exact (Cheap.sequence within cheap).around le_rfl

theorem AllCheap.sequence {before after : List Text} {parts : List Part}
    (cheap : AllCheap before after parts) (within : after <:+ before) :
    Cheap before after 1 (Part.sequence parts) := by
  refine .sequence within fun part listed => (cheap part listed).trans ?_
  have few : part.spare ≤ 1 := by
    unfold Part.spare
    split <;> decide
  omega

theorem ends_repeatLast {before after : List Text} (count : Count) {parts : List Part}
    (cheap : AllCheap before after parts) (within : tokens <:+ after) :
    Ends source (repeatLast count parts tokens) fun read =>
      read.2 <:+ tokens ∧ AllCheap before read.2 read.1 := by
  unfold repeatLast
  split
  · exact Ends.malformed
  · next last parts =>
      rw [AllCheap, List.forall_mem_cons] at cheap
      split
      · next single =>
          have most : Cheap before after 0 last := by
            have own := cheap.1
            rwa [Part.spare, single] at own
          have repeated {rest : List Text} (further : rest <:+ tokens) (greed : Greed)
              (part : Part) (kind : part.kind = .repetition) (calls : part.calls = last.calls + 1) :
              AllCheap before rest (part :: parts) := by
            refine List.forall_mem_cons.mpr ⟨?_, fun other listed =>
              (cheap.2 other listed).further (further.trans within)⟩
            rw [Part.spare, if_pos kind]
            exact (most.further (further.trans within)).around calls.le
          refine .of_ok ?_
          dsimp only
          split
          · exact ⟨List.suffix_cons _ _, repeated (List.suffix_cons _ _) .lazy _ rfl rfl⟩
          · exact ⟨List.suffix_cons _ _, repeated (List.suffix_cons _ _) .possessive _ rfl rfl⟩
          · exact ⟨List.suffix_rfl, repeated List.suffix_rfl .greedy _ rfl rfl⟩
      · exact Ends.malformed

/-- A part has been read up to a place in the pattern, and takes few calls. -/
structure ReadAt (source : List Text) (slack : Nat) (before : List Text) (spare : Nat)
    (read : Part × Reading) : Prop where
  stands : Stands source slack read.2
  cheap : Cheap before read.2.tokens spare read.1
  further : read.2.tokens <:+ before

/-- A function that reads the inside of a group ends at a place in the pattern. -/
def InnerEnds (source : List Text) (inner : Inner) : Prop :=
  ∀ slack options reading, Stands source slack reading →
    Ends source (inner options reading) (ReadAt source slack reading.tokens 2)

/-- The same behind a parenthesis, whose two calls the function may need. -/
def NestedEnds (source : List Text) (inner : Inner) : Prop :=
  ∀ slack options reading, Stands source (slack + 2) reading →
    Ends source (inner options reading) (ReadAt source (slack + 2) reading.tokens 2)

/-- There is room for a nested call, or more parentheses stand in the pattern than are borne. -/
theorem ends_nested {inner : Inner} {calls : Nat} (ends : InnerEnds source inner)
    (few : calls ≤ 2) : NestedEnds source (nested calls inner) := by
  intro slack options reading stands
  have room := stands.room
  have fewer := stands.within.sublist.count_le ['(']
  unfold nested
  split
  · next full => exact .of_error (Or.inr (Or.inr ⟨rfl, by omega⟩))
  next free =>
  have deeper : Stands source (slack + 2 - calls) { reading with room := reading.room - calls } :=
    ⟨stands.within, stands.changes, by dsimp only; omega⟩
  refine (ends _ options _ deeper).bind ?_
  rintro ⟨part, next⟩ ⟨nextStands, cheap, further⟩
  refine .of_ok ⟨⟨nextStands.within, nextStands.changes, ?_⟩, cheap, further⟩
  have nextRoom := nextStands.room
  dsimp only at nextRoom ⊢
  omega

theorem ends_enclosed {inner : Inner} (ends : NestedEnds source inner) (options : Options)
    (stands : Stands source (slack + 2) reading) :
    Ends source (enclosed inner options reading) (ReadAt source (slack + 2) reading.tokens 2) := by
  unfold enclosed
  refine (ends slack options reading stands).bind ?_
  rintro ⟨part, next⟩ ⟨nextStands, cheap, further⟩
  refine (ends_expect nextStands _).bind ?_
  rintro last ⟨lastStands, lastFurther⟩
  exact .of_ok ⟨lastStands, cheap.further lastFurther, lastFurther.trans further⟩

/-- What a parenthesis opened ends at a place in the pattern.  If it was a part, it takes few calls,
and if it was a change of options for the whole pattern, then the change stands there. -/
structure OpenedAt (source : List Text) (slack : Nat) (before : List Text)
    (read : Opened × Reading) : Prop where
  stands : Stands source slack read.2
  further : read.2.tokens <:+ before
  cheap : ∀ part, read.1 = .part part → Cheap before read.2.tokens 3 part
  change : ∀ change, read.1 = .options change → ChangeStands source change

theorem OpenedAt.part {before : List Text} {part : Part}
    (stands : Stands source (slack + 2) reading) (further : reading.tokens <:+ before)
    (cheap : Cheap before reading.tokens 3 part) :
    OpenedAt source slack before (.part part, reading) where
  stands := stands.outside
  further := further
  cheap := by
    rintro _ ⟨⟩
    exact cheap
  change := nofun

/-- A part around the one that has been read. -/
theorem ReadAt.around {before : List Text} {part other : Part}
    (read : ReadAt source (slack + 2) before 2 (part, reading))
    (calls : other.calls ≤ part.calls + 1) : OpenedAt source slack before (.part other, reading) :=
  .part read.stands read.further (read.cheap.around calls)

/-- The room, the changes and the tokens are all that counts. -/
theorem Stands.congr {other : Reading} (stands : Stands source slack reading)
    (tokens : other.tokens = reading.tokens) (changes : other.changes = reading.changes)
    (room : other.room = reading.room) : Stands source slack other :=
  ⟨tokens ▸ stands.within, changes ▸ stands.changes, by rw [tokens, room]; exact stands.room⟩

theorem ends_readGroup {inner : Inner} (ends : NestedEnds source inner) (options : Options)
    (name : Option Text) (stands : Stands source (slack + 2) reading) :
    Ends source (readGroup inner options name reading)
      (OpenedAt source slack reading.tokens) := by
  have opened (names : List (Text × Nat)) (groups : List (Option Width)) :
      Stands source (slack + 2) { reading with groups, names } := stands.congr rfl rfl rfl
  have closed {body : Part} {next : Reading} (groups : List (Option Width))
      (read : ReadAt source (slack + 2) reading.tokens 2 (body, next)) :
      ReadAt source (slack + 2) reading.tokens 2 (body, { next with groups }) :=
    ⟨read.stands.congr rfl rfl rfl, read.cheap, read.further⟩
  unfold readGroup
  dsimp only
  split
  · rw [pure_bind]
    refine (ends_enclosed ends options (opened _ _)).bind ?_
    rintro ⟨body, next⟩ read
    exact .of_ok ((closed _ read).around le_rfl)
  · refine Ends.guard ?_
    rw [pure_bind]
    refine (ends_enclosed ends options (opened _ _)).bind ?_
    rintro ⟨body, next⟩ read
    exact .of_ok ((closed _ read).around le_rfl)

theorem ends_readAhead {inner : Inner} (ends : NestedEnds source inner) (options : Options)
    (negated : Bool) (stands : Stands source (slack + 2) reading) :
    Ends source (readAhead inner options negated reading)
      (OpenedAt source slack reading.tokens) := by
  unfold readAhead
  refine (ends_enclosed ends options stands).bind ?_
  rintro ⟨body, next⟩ read
  exact .of_ok (read.around le_rfl)

theorem ends_readBehind {inner : Inner} (ends : NestedEnds source inner) (options : Options)
    (negated : Bool) (stands : Stands source (slack + 2) reading) :
    Ends source (readBehind inner options negated reading)
      (OpenedAt source slack reading.tokens) := by
  unfold readBehind
  dsimp only
  refine .bind (ends slack options _ (stands.congr rfl rfl rfl)) ?_
  rintro ⟨body, next⟩ ⟨nextStands, cheap, further⟩
  have ready : Stands source (slack + 2) { next with behindFrom := reading.behindFrom } :=
    nextStands.congr rfl rfl rfl
  refine (ends_expect ready _).bind ?_
  rintro last ⟨lastStands, lastFurther⟩
  have closed : ReadAt source (slack + 2) reading.tokens 2
      (body, { last with hasLooseBehind := last.hasLooseBehind ||
        (body.width.least ≠ body.width.most ∨ behindLimit < body.width.least : Bool) }) :=
    ⟨lastStands.congr rfl rfl rfl, cheap.further lastFurther, lastFurther.trans further⟩
  exact .of_ok (closed.around le_rfl)

theorem ends_conditionGroup (reading : Reading) (name : Text) :
    Ends source (conditionGroup reading name) fun _ => True := by
  unfold conditionGroup
  split
  · split
    · exact .of_ok trivial
    · exact Ends.malformed
  · split
    · split
      · exact .of_ok trivial
      · exact Ends.malformed
    · exact Ends.malformed

theorem ends_readCondition {branch : Inner} (ends : NestedEnds source branch) (options : Options)
    (stands : Stands source (slack + 2) reading) :
    Ends source (readCondition branch options reading)
      (OpenedAt source slack reading.tokens) := by
  unfold readCondition
  refine (ends_upTo _ _).bind ?_
  rintro ⟨name, rest⟩ restWithin
  refine (ends_conditionGroup reading name).bind ?_
  rintro ⟨index, isNumber⟩ -
  refine (ends_checkBehind reading index).bind fun _ _ => ?_
  dsimp only at restWithin ⊢
  refine .bind (ends slack options _ ((stands.moveTo restWithin).congr rfl rfl rfl)) ?_
  rintro ⟨yes, next⟩ ⟨nextStands, yesCheap, further⟩
  dsimp only at nextStands yesCheap further ⊢
  have since := yesCheap.since restWithin
  split
  · next later same =>
      have laterWithin : later <:+ next.tokens := same ▸ List.suffix_cons _ _
      refine (ends slack options _ (nextStands.moveTo laterWithin)).bind ?_
      rintro ⟨no, last⟩ ⟨lastStands, noCheap, lastFurther⟩
      refine (ends_expect lastStands _).bind ?_
      rintro closed ⟨closedStands, closedFurther⟩
      have toEnd := (closedFurther.trans lastFurther).trans laterWithin
      have first := since.further toEnd
      have second := (noCheap.since ((laterWithin.trans further).trans restWithin)).further closedFurther
      refine .of_ok (.part closedStands ((toEnd.trans further).trans restWithin) ?_)
      unfold Cheap at first second ⊢
      dsimp only at first second ⊢
      omega
  · refine (ends_expect nextStands _).bind ?_
    rintro closed ⟨closedStands, closedFurther⟩
    exact .of_ok (.part closedStands ((closedFurther.trans further).trans restWithin)
      ((since.further closedFurther).around le_rfl))

theorem ends_skipRemark :
    Ends source (skipRemark tokens) fun rest => rest <:+ tokens := by
  induction tokens with
  | nil => exact Ends.malformed
  | cons token rest inductionHypothesis =>
      unfold skipRemark
      split
      · exact .of_ok (List.suffix_cons _ _)
      · exact inductionHypothesis.imp fun _ within => within.trans (List.suffix_cons _ _)

/-- What stands further inside a parenthesis stands inside it. -/
theorem OpenedAt.since {before : List Text} {read : Opened × Reading}
    (opened : OpenedAt source slack before read) (earlier : before <:+ tokens) :
    OpenedAt source slack tokens read where
  stands := opened.stands
  further := opened.further.trans earlier
  cheap part same := (opened.cheap part same).since earlier
  change := opened.change

theorem ends_readParenthesis {inner branch : Inner} (innerEnds : NestedEnds source inner)
    (branchEnds : NestedEnds source branch) (options : Options)
    (stands : Stands source (slack + 2) reading) (opened : ['('] :: reading.tokens <:+ source) :
    Ends source (readParenthesis inner branch options reading)
      (OpenedAt source slack reading.tokens) := by
  have behind {first second : Text} {rest : List Text}
      (same : reading.tokens = first :: second :: rest) : rest <:+ reading.tokens :=
    same ▸ (List.suffix_cons _ _).trans (List.suffix_cons _ _)
  have moved {rest : List Text} {step : Except PatternFault (Opened × Reading)}
      (within : rest <:+ reading.tokens) (ends : Ends source step (OpenedAt source slack rest)) :
      Ends source step (OpenedAt source slack reading.tokens) :=
    ends.imp fun _ opened => opened.since within
  unfold readParenthesis
  split
  · next rest same =>
      have restWithin : rest <:+ reading.tokens := (List.suffix_cons _ _).trans (behind same)
      refine (ends_upTo _ _).bind ?_
      rintro ⟨name, last⟩ lastWithin
      have within := lastWithin.trans restWithin
      exact Ends.guard (moved within (ends_readGroup innerEnds options _ (stands.moveTo within)))
  · next rest same =>
      have restWithin : rest <:+ reading.tokens := (List.suffix_cons _ _).trans (behind same)
      refine (ends_upTo _ _).bind ?_
      rintro ⟨name, last⟩ lastWithin
      have within := lastWithin.trans restWithin
      dsimp only at within ⊢
      split
      · exact (ends_reference reading options _).bind fun part none =>
          .of_ok (.part (stands.moveTo within) within (.of_calls none within))
      · exact Ends.malformed
  · next rest same =>
      refine moved (behind same) ?_
      refine (ends_enclosed innerEnds options (stands.moveTo (behind same))).bind ?_
      rintro ⟨part, next⟩ read
      exact .of_ok (read.around (Nat.le_succ _))
  · next rest same =>
      refine ends_skipRemark.bind fun last lastWithin => ?_
      have within := lastWithin.trans (behind same)
      exact .of_ok ⟨(stands.moveTo within).outside, within, nofun, nofun⟩
  · next rest same =>
      exact moved (behind same)
        (ends_readAhead innerEnds options false (stands.moveTo (behind same)))
  · next rest same =>
      exact moved (behind same)
        (ends_readAhead innerEnds options true (stands.moveTo (behind same)))
  · next rest same =>
      have within : rest <:+ reading.tokens := (List.suffix_cons _ _).trans (behind same)
      exact moved within (ends_readBehind innerEnds options false (stands.moveTo within))
  · next rest same =>
      have within : rest <:+ reading.tokens := (List.suffix_cons _ _).trans (behind same)
      exact moved within (ends_readBehind innerEnds options true (stands.moveTo within))
  · next rest same =>
      exact moved (behind same) (ends_readCondition branchEnds options (stands.moveTo (behind same)))
  · next rest same =>
      refine moved (behind same) ?_
      refine (ends_enclosed innerEnds options (stands.moveTo (behind same))).bind ?_
      rintro ⟨part, next⟩ read
      exact .of_ok (read.around le_rfl)
  · next c rest _ _ _ _ _ _ _ _ _ _ same =>
      have restWithin : [c] :: rest <:+ reading.tokens := same ▸ List.suffix_cons _ _
      refine Ends.guard (ends_readOptions.bind ?_)
      rintro ⟨change, isGlobal, last⟩ ⟨lastWithin, letters⟩
      have within := lastWithin.trans restWithin
      have lastStands := stands.moveTo within
      dsimp only
      split
      · next whole =>
          refine .of_ok ⟨lastStands.outside, within, nofun, ?_⟩
          rintro _ ⟨⟩
          exact ⟨_, same ▸ opened, letters whole⟩
      · refine moved within ((ends_enclosed innerEnds _ lastStands).bind ?_)
        rintro ⟨part, next⟩ read
        exact .of_ok (read.around le_rfl)
  · exact Ends.malformed
  · exact ends_readGroup innerEnds options none stands

theorem startOf_parenthesis {token : Text} (start : startOf token = .parenthesis) :
    token = ['('] := by
  unfold startOf at start
  split at start
  · cases start
  split at start
  · next same => exact same
  split at start
  · split at start <;> cases start
  · cases start

theorem skipToBreak_suffix (tokens : List Text) : skipToBreak tokens <:+ tokens := by
  induction tokens with
  | nil => exact List.suffix_rfl
  | cons token rest inductionHypothesis =>
      unfold skipToBreak
      split
      · exact List.suffix_cons _ _
      · exact inductionHypothesis.trans (List.suffix_cons _ _)

theorem calls_of_simplePart? {options : Options} {token : Text} {part : Part}
    (simple : simplePart? options token = some part) : part.calls = 0 := by
  unfold simplePart? at simple
  split at simple
  · cases simple
    rfl
  · cases simple
    rfl
  · cases simple
    rfl
  · split at simple
    · cases simple
    · cases simple
      rfl
  · cases simple

/-- The parts of a sequence have been read up to a place in the pattern. -/
structure SequenceAt (source : List Text) (slack : Nat) (before : List Text)
    (parts : List Part) (reading : Reading) : Prop where
  stands : Stands source slack reading
  further : reading.tokens <:+ before
  cheap : AllCheap before reading.tokens parts

namespace SequenceAt

variable {before : List Text} {parts : List Part}

theorem moveTo (found : SequenceAt source slack before parts reading)
    (after : tokens <:+ reading.tokens) :
    SequenceAt source slack before parts (reading.moveTo tokens) :=
  ⟨found.stands.moveTo after, after.trans found.further, found.cheap.further after⟩

/-- Another part that takes no calls. -/
theorem leaf {part : Part} (found : SequenceAt source slack before parts reading)
    (none : part.calls = 0) : SequenceAt source slack before (part :: parts) reading :=
  ⟨found.stands, found.further, .cons (.of_calls none found.further) found.cheap⟩

theorem sequence (found : SequenceAt source slack before parts reading) :
    ReadAt source slack before 1 (Part.sequence parts.reverse, reading) where
  stands := found.stands
  cheap := AllCheap.sequence (by simpa [AllCheap] using found.cheap) found.further
  further := found.further

end SequenceAt

/-- With so much fuel alternatives and sequences end at a place in the pattern. -/
structure FuelEnds (source : List Text) (fuel : Nat) : Prop where
  choice : ∀ isOutermost, InnerEnds source (readChoice fuel isOutermost)
  others : ∀ slack options reading, Stands source slack reading →
    Ends source (readOthers fuel options reading) fun read =>
      Stands source slack read.2 ∧ read.2.tokens <:+ reading.tokens ∧
        ∀ part ∈ read.1, Cheap reading.tokens read.2.tokens 1 part
  sequence : ∀ slack mayChange options before parts reading,
    SequenceAt source slack before parts reading →
    Ends source (readSequence fuel mayChange options parts reading) fun read =>
      SequenceAt source slack before read.1 read.2.2

theorem FuelEnds.zero : FuelEnds source 0 where
  choice isOutermost slack options reading _ := by
    unfold readChoice
    exact Ends.malformed
  others slack options reading _ := by
    unfold readOthers
    exact Ends.malformed
  sequence slack mayChange options before parts reading _ := by
    unfold readSequence
    exact Ends.malformed

theorem Stands.sequence (stands : Stands source slack reading) :
    SequenceAt source slack reading.tokens [] reading :=
  ⟨stands, List.suffix_rfl, nofun⟩

/-- The alternatives behind a bar join the one before it. -/
theorem ReadAt.alternatives {before rest : List Text} {part : Part} {others : List Part}
    {last : Reading} (first : ReadAt source slack before 1 (part, reading))
    (bar : rest <:+ reading.tokens) (further : last.tokens <:+ rest)
    (cheap : ∀ other ∈ others, Cheap rest last.tokens 1 other) :
    last.tokens <:+ before ∧ ∀ other ∈ part :: others, Cheap before last.tokens 1 other := by
  have since : rest <:+ before := bar.trans first.further
  refine ⟨further.trans since, List.forall_mem_cons.mpr ⟨?_, ?_⟩⟩
  · exact first.cheap.further (further.trans bar)
  · exact fun other listed => (cheap other listed).since since

section Step

variable {fuel : Nat} (ends : FuelEnds source fuel)
include ends

theorem FuelEnds.choice_succ (isOutermost : Bool) :
    InnerEnds source (readChoice (fuel + 1) isOutermost) := by
  intro slack options reading stands
  unfold readChoice
  refine (ends.sequence slack isOutermost options _ [] reading stands.sequence).bind ?_
  rintro ⟨parts, settled, next⟩ found
  have first := found.sequence
  dsimp only at found first ⊢
  split
  · next rest same =>
      have restWithin : rest <:+ next.tokens := same ▸ List.suffix_cons _ _
      refine (ends.others slack settled _ (found.stands.moveTo restWithin)).bind ?_
      rintro ⟨others, last⟩ ⟨lastStands, further, cheap⟩
      rcases first.alternatives restWithin further cheap with ⟨toEnd, all⟩
      exact .of_ok ⟨lastStands, .choice toEnd all, toEnd⟩
  · exact .of_ok ⟨first.stands, Nat.le_succ_of_le first.cheap, first.further⟩

theorem FuelEnds.others_succ (options : Options) (stands : Stands source slack reading) :
    Ends source (readOthers (fuel + 1) options reading) fun read =>
      Stands source slack read.2 ∧ read.2.tokens <:+ reading.tokens ∧
        ∀ part ∈ read.1, Cheap reading.tokens read.2.tokens 1 part := by
  unfold readOthers
  refine (ends.sequence slack false options _ [] reading stands.sequence).bind ?_
  rintro ⟨parts, settled, next⟩ found
  have first := found.sequence
  dsimp only at found first ⊢
  split
  · next rest same =>
      have restWithin : rest <:+ next.tokens := same ▸ List.suffix_cons _ _
      refine (ends.others slack options _ (found.stands.moveTo restWithin)).bind ?_
      rintro ⟨others, last⟩ ⟨lastStands, further, cheap⟩
      exact .of_ok ⟨lastStands, first.alternatives restWithin further cheap⟩
  · refine .of_ok ⟨first.stands, first.further, ?_⟩
    exact List.forall_mem_singleton.mpr first.cheap

/-- A branch of a condition ends like a sequence. -/
theorem FuelEnds.branch : InnerEnds source fun options reading => do
    let (found, _, last) ← readSequence fuel false options [] reading
    return (Part.sequence found.reverse, last) := by
  intro slack options reading stands
  refine (ends.sequence slack false options _ [] reading stands.sequence).bind ?_
  rintro ⟨parts, settled, last⟩ found
  have first := found.sequence
  exact .of_ok ⟨first.stands, Nat.le_succ_of_le first.cheap, first.further⟩

theorem FuelEnds.sequence_succ (mayChange : Bool) (options : Options) {before : List Text}
    {parts : List Part} (found : SequenceAt source slack before parts reading) :
    Ends source (readSequence (fuel + 1) mayChange options parts reading) fun read =>
      SequenceAt source slack before read.1 read.2.2 := by
  unfold readSequence
  split
  · exact .of_ok found
  · next token rest same =>
      have restWithin : rest <:+ reading.tokens := same ▸ List.suffix_cons _ _
      have restFound := found.moveTo restWithin
      dsimp only
      split
      · exact .of_ok found
      split
      · exact Ends.malformed
      split
      · exact ends.sequence _ _ _ _ _ _ restFound
      split
      · exact ends.sequence _ _ _ _ _ _ (restFound.moveTo (skipToBreak_suffix rest))
      split
      · next simple => exact ends.sequence _ _ _ _ _ _ (restFound.leaf (calls_of_simplePart? simple))
      cases start : startOf token with
      | escape c =>
          refine (ends_readEscape c).bind ?_
          rintro ⟨escape, last⟩ lastWithin
          refine (ends_escapePart reading options escape).bind fun part none => ?_
          exact ends.sequence _ _ _ _ _ _ ((restFound.moveTo lastWithin).leaf none)
      | cls =>
          refine (ends_readClass options).bind ?_
          rintro ⟨cls, last⟩ lastWithin
          exact ends.sequence _ _ _ _ _ _ ((restFound.moveTo lastWithin).leaf rfl)
      | parenthesis =>
          have opening : reading.tokens = ['('] :: rest := startOf_parenthesis start ▸ same
          refine .bind (ends_readParenthesis (ends_nested (ends.choice false) le_rfl)
            (ends_nested ends.branch (by decide)) options (found.stands.inside opening)
            (opening ▸ found.stands.within)) ?_
          rintro ⟨opened, last⟩ closed
          have after : SequenceAt source slack before parts last :=
            ⟨closed.stands, (closed.further.trans restWithin).trans found.further,
              found.cheap.further (closed.further.trans restWithin)⟩
          cases opened with
          | part part =>
              -- The parenthesis itself pays for the three calls that the group may take.
              have cheap : Cheap reading.tokens last.tokens 0 part := by
                have inside : part.calls + _ ≤ 3 * rest.count ['('] + 3 := closed.cheap part rfl
                rw [Cheap, opening, List.count_cons_self]
                omega
              exact ends.sequence _ _ _ _ _ _
                ⟨after.stands, after.further, .cons (cheap.since found.further) after.cheap⟩
          | comment => exact ends.sequence _ _ _ _ _ _ after
          | options change =>
              dsimp only
              split
              · refine ends.sequence _ _ _ _ _ _ ⟨⟨after.stands.within, ?_, after.stands.room⟩,
                  after.further, after.cheap⟩
                exact List.forall_mem_cons.mpr ⟨closed.change change rfl, after.stands.changes⟩
              · exact Ends.malformed
      | count =>
          refine (ends_readCount token (same ▸ found.stands.within)).bind fun read lastWithin => ?_
          split
          · exact ends.sequence _ _ _ _ _ _ (restFound.leaf rfl)
          · next count last =>
              have within := (lastWithin count last rfl).trans restWithin
              refine (ends_repeatLast count found.cheap within).bind ?_
              rintro ⟨repeated, final⟩ ⟨finalWithin, cheap⟩
              have final := found.stands.moveTo (finalWithin.trans within)
              exact ends.sequence _ _ _ _ _ _ ⟨final.congr rfl rfl rfl,
                (finalWithin.trans within).trans found.further, cheap⟩

end Step

theorem fuelEnds (source : List Text) (fuel : Nat) : FuelEnds source fuel := by
  induction fuel with
  | zero => exact .zero
  | succ fuel inductionHypothesis =>
      exact ⟨inductionHypothesis.choice_succ,
        fun _ options _ stands => inductionHypothesis.others_succ options stands,
        fun _ mayChange options _ _ _ found =>
          inductionHypothesis.sequence_succ mayChange options found⟩

/-- A check that fails gives its fault. -/
theorem error_of_check {α β : Type} {refused : Prop} [Decidable refused] {fault why : PatternFault}
    {after : β → Except PatternFault α} {otherwise : Except PatternFault α}
    (failed : (if refused then throw fault >>= after else otherwise) = .error why) :
    (refused ∧ why = fault) ∨ otherwise = .error why := by
  split at failed
  · next holds => exact Or.inl ⟨holds, (Except.error.inj failed).symm⟩
  · exact Or.inr failed

/-- A pattern that is refused though it is not malformed has a count that fails, many parentheses,
or changes of options for the whole pattern that exclude one another. -/
theorem ofText_error {options : Options} {text : Text} {why : PatternFault}
    (refused : Node.ofText options text = .error why) :
    why = .malformed ∨ CountFails (cut text) why ∨ NestsDeeply (cut text) why ∨
      why = .incompatibleOptions ∧
        ∃ ascii full, ChangeStands (cut text) ascii ∧ ChangeStands (cut text) full ∧
          'a' ∈ ascii.turnedOn ∧ 'u' ∈ full.turnedOn := by
  have start : Stands (cut text) 0 { tokens := cut text } :=
    ⟨List.suffix_rfl, by simp, by simp⟩
  have read := (fuelEnds (cut text) (4 * (cut text).length + 8)).choice true 0 options _ start
  unfold Node.ofText at refused
  dsimp only at refused
  rcases error_of_bind refused with failed | ⟨⟨part, last⟩, done, failed⟩
  · exact (read.error why failed).imp_right (Or.imp_right Or.inl)
  have found := read.ok _ done
  have stands : Stands (cut text) 0 last := found.stands
  dsimp only at failed
  rcases error_of_check failed with ⟨letters, rfl⟩ | failed
  · rw [Bool.and_eq_true, List.contains_iff_mem, List.contains_iff_mem, List.mem_flatMap,
      List.mem_flatMap] at letters
    rcases letters with ⟨⟨ascii, asciiListed, asciiLetter⟩, full, fullListed, fullLetter⟩
    exact Or.inr (Or.inr (Or.inr ⟨rfl, ascii, full, stands.changes ascii asciiListed,
      stands.changes full fullListed, asciiLetter, fullLetter⟩))
  rcases error_of_check failed with ⟨-, rfl⟩ | failed
  · exact Or.inl rfl
  rcases error_of_check failed with ⟨-, rfl⟩ | failed
  · exact Or.inl rfl
  rcases error_of_check failed with ⟨-, rfl⟩ | failed
  · exact Or.inl rfl
  rcases error_of_check failed with ⟨full, rfl⟩ | failed
  · have cheap : part.calls + _ ≤ _ + 2 := found.cheap
    refine Or.inr (Or.inr (Or.inl ⟨rfl, ?_⟩))
    dsimp only at full cheap
    unfold stackRoom at full ⊢
    omega
  cases failed

end Reader

/-! ## Faults in the text of a pattern -/

section Written

variable {source tokens : List Text} {text : Text}

theorem flatten_cut (text : Text) : (cut text).flatten = text := by
  fun_induction cut text with
  | case1 => rfl
  | case2 c rest inductionHypothesis =>
      rw [List.flatten_cons, inductionHypothesis]
      rfl
  | case3 c rest _ inductionHypothesis =>
      rw [List.flatten_cons, inductionHypothesis]
      rfl

theorem flatten_singletons (run : Text) : (run.map ([·])).flatten = run := by
  induction run with
  | nil => rfl
  | cons c rest inductionHypothesis =>
      rw [List.map_cons, List.flatten_cons, inductionHypothesis]
      rfl

theorem flatten_suffix (within : tokens <:+ cut text) : tokens.flatten <:+ text := by
  rcases within with ⟨before, split⟩
  exact ⟨before.flatten, by rw [← List.flatten_append, split, flatten_cut]⟩

theorem isDigit_of_digitIn? {c : Char} {digit : Nat} (ascii : c.toNat < 128)
    (same : Text.digitIn? 10 c = some digit) : c.isDigit = true := by
  have all : ∀ n < 128, (Text.digitIn? 10 (Char.ofNat n)).isSome = true →
      (Char.ofNat n).isDigit = true := by decide +kernel
  have own := all c.toNat ascii
  rw [Char.ofNat_toNat] at own
  exact own (by rw [same]; rfl)

theorem lt_of_digitIn? {base digit : Nat} {c : Char} (same : Text.digitIn? base c = some digit) :
    digit < base := by
  rw [Text.digitIn?, Option.bind_eq_some_iff] at same
  rcases same with ⟨value, -, same⟩
  split at same
  · next small => exact Option.some.inj same ▸ small
  · cases same

/-- A number is smaller than the power of ten with as many zeros as it has digits. -/
theorem numberOfDigits_lt {digits : List Nat} (small : ∀ digit ∈ digits, digit < 10) :
    Text.numberOfDigits 10 digits < Nat.pow 10 digits.length := by
  induction digits using List.reverseRecOn with
  | nil => decide
  | append_singleton digits last inductionHypothesis =>
      rw [List.forall_mem_append, List.forall_mem_singleton] at small
      have before := inductionHypothesis small.1
      have power : Nat.pow 10 (digits.length + 1) = Nat.pow 10 digits.length * 10 := rfl
      rw [Binary64.numberOfDigits_append_singleton, List.length_append, List.length_singleton, power]
      omega

/-- A count that fails has at least ten digits. -/
theorem length_of_countOf? {digits : List Nat} {last : List Text} {why : PatternFault}
    (small : ∀ digit ∈ digits, digit < 10) (fails : countOf? last digits = .error why)
    (notMalformed : why ≠ .malformed) : 10 ≤ digits.length := by
  have bound := numberOfDigits_lt small
  by_contra! short
  have value : Text.numberOfDigits 10 digits < countLimit :=
    bound.trans_le ((Nat.pow_le_pow_right (by decide) (Nat.le_of_lt_succ short)).trans (by decide))
  unfold countOf? at fails
  dsimp only at fails
  split at fails
  · cases fails
  split at fails
  · exact notMalformed (Except.error.inj fails).symm
  split at fails
  · next long =>
      rw [Text.digitLimit] at long
      omega
  · rw [if_neg (Nat.not_le.mpr value)] at fails
    cases fails

/-- At least ten digits stand in a text behind an opening brace. -/
def HasLongCount (text : Text) : Prop :=
  ∃ before between run after, text = before ++ '\x7b' :: (between ++ (run ++ after)) ∧
    (∀ c ∈ run, c.isDigit = true) ∧ 10 ≤ run.length

theorem digits_of_written {run : Text} {digits : List Nat} (written : WriteDigits 10 run digits) :
    (∀ c ∈ run, c.isDigit = true) ∧ (∀ digit ∈ digits, digit < 10) ∧
      run.length = digits.length := by
  induction written with
  | nil => simp
  | cons first _ inductionHypothesis =>
      rcases inductionHypothesis with ⟨digitsWritten, small, same⟩
      exact ⟨List.forall_mem_cons.mpr ⟨isDigit_of_digitIn? first.1 first.2, digitsWritten⟩,
        List.forall_mem_cons.mpr ⟨lt_of_digitIn? first.2, small⟩, congrArg _ same⟩

theorem hasLongCount_of_countFails {why : PatternFault} (fails : CountFails (cut text) why)
    (notMalformed : why ≠ .malformed) : HasLongCount text := by
  rcases fails with ⟨inside, digits, last, within, ⟨run, ⟨between, after, split⟩, written⟩, count⟩
  rcases digits_of_written written with ⟨digitsWritten, small, same⟩
  have long := length_of_countOf? small count notMalformed
  rcases flatten_suffix within with ⟨before, whole⟩
  refine ⟨before, between.flatten, run, after.flatten, ?_, digitsWritten, same ▸ long⟩
  rw [← whole, ← split]
  simp [flatten_singletons]

/-- Letters of options stand in parentheses in a text, behind a question mark. -/
def HasOptions (text letters : Text) : Prop :=
  (∀ c ∈ letters, c ∈ optionLetters) ∧ '(' :: '?' :: (letters ++ [')']) <:+: text

theorem hasOptions_of_changeStands {change : OptionChange}
    (stands : ChangeStands (cut text) change) : HasOptions text change.turnedOn := by
  rcases stands with ⟨inside, within, known, rest, rfl⟩
  refine ⟨known, (List.IsInfix.trans ⟨[], rest.flatten, ?_⟩ (flatten_suffix within).isInfix)⟩
  simp [flatten_singletons]

/-- So many parentheses open in a text that the calls for nested groups may not fit. -/
def HasDeepNesting (text : Text) : Prop :=
  stackRoom ≤ 3 * text.count '('

theorem count_flatten_le (tokens : List Text) : tokens.count ['('] ≤ tokens.flatten.count '(' := by
  induction tokens with
  | nil => exact le_rfl
  | cons token rest inductionHypothesis =>
      rw [List.count_cons, List.flatten_cons, List.count_append]
      split
      · next same =>
          rw [beq_iff_eq] at same
          subst same
          rw [List.count_singleton_self]
          omega
      · omega

theorem hasDeepNesting_of_nestsDeeply {why : PatternFault} (nests : NestsDeeply (cut text) why) :
    HasDeepNesting text := by
  have fewer := count_flatten_le (cut text)
  have deep := nests.2
  rw [flatten_cut] at fewer
  unfold HasDeepNesting
  omega

/-- A pattern that is refused though it is not malformed has a count of at least ten digits, very
many parentheses, or it asks for the letters of one script and for those of all. -/
theorem written_of_refused {options : Options} {why : PatternFault}
    (refused : Node.ofText options text = .error why) (notMalformed : why ≠ .malformed) :
    HasLongCount text ∨ HasDeepNesting text ∨
      ∃ ascii full, HasOptions text ascii ∧ HasOptions text full ∧ 'a' ∈ ascii ∧ 'u' ∈ full := by
  rcases ofText_error refused with
    malformed | fails | nests | ⟨-, ascii, full, stands, others, letters⟩
  · exact absurd malformed notMalformed
  · exact Or.inl (hasLongCount_of_countFails fails notMalformed)
  · exact Or.inr (Or.inl (hasDeepNesting_of_nestsDeeply nests))
  · exact Or.inr (Or.inr
      ⟨_, _, hasOptions_of_changeStands stands, hasOptions_of_changeStands others, letters⟩)

end Written

end Pattern
end Codemap
