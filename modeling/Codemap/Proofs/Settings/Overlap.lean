import Codemap.Proofs.Settings.Change
import Mathlib.Data.List.Induction
import Mathlib.Data.List.Perm.Basic
import Mathlib.Logic.Function.Basic

namespace Codemap
namespace Overlap

/-!
# Edits that overlap

Several requests may edit one settings file at a time.  Each reads the whole file and later
writes the whole file, and between the two steps of one request others may take theirs:
nothing orders them.  So a request may write a document that it made from what the file held
before others wrote it, and what they wrote is then gone.

A request overtakes another if it writes the file, having read it before the other wrote it.
The file is always as some of the requests would have left it, one after another, and every
other request that was saved has been overtaken by one of these.  If no request writes between
the two steps of another, all of them together have left it.
-/

open Yaml

/-! ## Requests in progress -/

/-- How far a request has come. -/
inductive Stage where
  | waiting
  /-- The document that is to be written. -/
  | holding (edited : Document)
  | saved
  /-- Refused, or without anything to do. -/
  | ended
deriving DecidableEq, Repr

/-- What may happen next: a request, given by its number, reads the file or writes it. -/
inductive Action where
  | load (number : Nat)
  | save (number : Nat)
deriving DecidableEq, Repr

/-- The files, and how far the requests have come. -/
structure Progress where
  tree : Tree
  stage : Nat → Stage := fun _ => .waiting

/-- A request has come further. -/
def Progress.put (progress : Progress) (number : Nat) (stage : Stage) : Progress :=
  { progress with stage := Function.update progress.stage number stage }

/-- The document that a change makes of what the file holds. -/
def edit (editor : Editor) (tree : Tree) (change : Edit.Change) :
    Except SettingsFault (Option Document) := do
  change.run (← editor.read tree)

variable (editor : Editor) (changes : List Edit.Change)

/-- The next step of a request, if it has such a step. -/
def step (progress : Progress) : Action → Option Progress
  | .load number =>
      match progress.stage number, changes[number]? with
      | .waiting, some change =>
          match edit editor progress.tree change with
          | .ok (some edited) => some (progress.put number (.holding edited))
          | _ => some (progress.put number .ended)
      | _, _ => none
  | .save number =>
      match progress.stage number with
      | .holding edited =>
          match editor.write progress.tree edited with
          | .ok after => some (Progress.put { progress with tree := after } number .saved)
          | .error _ => some (progress.put number .ended)
      | _ => none

/-- The steps of a schedule, one after another. -/
def run (progress : Progress) (schedule : List Action) : Option Progress :=
  schedule.foldlM (step editor changes) progress

/-- The files after a change, which are the same if the change fails. -/
def attempt (tree : Tree) (change : Edit.Change) : Tree :=
  (editor.carryOut tree change).toOption.getD tree

/-- The files after some of the requests, each beginning when the one before has ended. -/
def oneByOne (tree : Tree) (order : List Nat) : Tree :=
  order.foldl (fun tree number => (changes[number]?).elim tree (attempt editor tree)) tree

variable {editor changes} {start tree other after : Tree} {progress next : Progress}
  {action : Action} {number : Nat} {edited document : Document} {change : Edit.Change}
  {sheet another : Option Document} {order : List Nat} {schedule : List Action}

/-! ## What the file shows -/

/-- The document that was written last, or nothing while the files are as at the start. -/
inductive Shows (editor : Editor) (start : Tree) : Option Document → Tree → Prop
  | untouched : Shows editor start none start
  | written {sheet : Option Document} {tree after : Tree} {document : Document}
      (before : Shows editor start sheet tree) (written : editor.write tree document = .ok after) :
      Shows editor start (some document) after

section Shows

variable (placed : editor.Placed)

include placed

/-- What a file holds depends on what was written last. -/
theorem Shows.readBytes_eq (shows : Shows editor start sheet tree)
    (again : Shows editor start sheet other) :
    tree.readBytes editor.file = other.readBytes editor.file := by
  cases shows with
  | untouched =>
      cases again
      rfl
  | written _ written =>
      cases again with
      | written _ rewritten =>
          obtain ⟨time, stored⟩ := Editor.stored_of_write placed written
          obtain ⟨later, storedAgain⟩ := Editor.stored_of_write placed rewritten
          simp only [Tree.readBytes, stored, storedAgain]

theorem Shows.edit_eq (shows : Shows editor start sheet tree)
    (again : Shows editor start sheet other) (change : Edit.Change) :
    edit editor tree change = edit editor other change := by
  rw [edit, edit, Editor.read, Editor.read,
    Settings.readDocument_congr (shows.readBytes_eq placed again)]

/-- The file can be written at all times, or never. -/
theorem Shows.write_iff (shows : Shows editor start sheet tree) (document : Document) :
    (∃ after, editor.write tree document = .ok after) ↔
      ∃ after, editor.write start document = .ok after := by
  have anyDocument (tree : Tree) (first second : Document) :
      (∃ after, editor.write tree first = .ok after) → ∃ after, editor.write tree second = .ok after := by
    rintro ⟨after, written⟩
    cases rewritten : editor.write tree second with
    | ok other => exact ⟨other, rfl⟩
    | error why =>
        rw [(Editor.write_error_iff first).mp rewritten] at written
        cases written
  induction shows generalizing document with
  | untouched => rfl
  | written before written inductionHypothesis =>
      obtain ⟨time, stored⟩ := Editor.stored_of_write placed written
      constructor
      · intro _
        exact (inductionHypothesis document).mp (anyDocument _ _ _ ⟨_, written⟩)
      · intro _
        exact Editor.write_of_stored placed stored document

end Shows

/-! ## Steps -/

/-- What a step can be: a request reads the file and has something to write, or ends; or it
writes the file, or fails to. -/
theorem step_cases (stepped : step editor changes progress action = some next) :
    (∃ number change, action = .load number ∧ progress.stage number = .waiting ∧
      changes[number]? = some change ∧
        ((∃ edited, edit editor progress.tree change = .ok (some edited) ∧
            next = progress.put number (.holding edited)) ∨
          (∀ edited, edit editor progress.tree change ≠ .ok (some edited)) ∧
            next = progress.put number .ended)) ∨
    ∃ number edited, action = .save number ∧ progress.stage number = .holding edited ∧
      ((∃ after, editor.write progress.tree edited = .ok after ∧
          next = Progress.put { progress with tree := after } number .saved) ∨
        (∃ why, editor.write progress.tree edited = .error why) ∧
          next = progress.put number .ended) := by
  cases action with
  | load number =>
      left
      rw [step] at stepped
      split at stepped
      · next change waiting there =>
          refine ⟨number, change, rfl, waiting, there, ?_⟩
          split at stepped
          · next edited made =>
              exact Or.inl ⟨edited, made, (Option.some.inj stepped).symm⟩
          · next unmade =>
              exact Or.inr ⟨unmade, (Option.some.inj stepped).symm⟩
      · cases stepped
  | save number =>
      right
      rw [step] at stepped
      split at stepped
      · next edited holding =>
          refine ⟨number, edited, rfl, holding, ?_⟩
          split at stepped
          · next after written =>
              exact Or.inl ⟨after, written, (Option.some.inj stepped).symm⟩
          · next why failed =>
              exact Or.inr ⟨⟨why, failed⟩, (Option.some.inj stepped).symm⟩
      · cases stepped

theorem stage_put (progress : Progress) (number : Nat) (stage : Stage) (other : Nat) :
    (progress.put number stage).stage other = if other = number then stage else progress.stage other :=
  Function.update_apply progress.stage number stage other

/-! ## Requests one after another -/

theorem oneByOne_concat (there : changes[number]? = some change) (order : List Nat) :
    oneByOne editor changes tree (order ++ [number]) =
      attempt editor (oneByOne editor changes tree order) change := by
  simp only [oneByOne, List.foldl_append, List.foldl_cons, List.foldl_nil, there, Option.elim]

theorem attempt_of_written (made : edit editor tree change = .ok (some edited))
    (written : editor.write tree edited = .ok after) : attempt editor tree change = after := by
  obtain ⟨document, read, ran⟩ := ok_of_bind made
  rw [attempt, Editor.carryOut_eq, read]
  simp only [bind, Except.bind, ran, Editor.writeIfEdited, written]
  rfl

theorem attempt_of_unwritten {why : SettingsFault} (made : edit editor tree change = .ok (some edited))
    (failed : editor.write tree edited = .error why) : attempt editor tree change = tree := by
  obtain ⟨document, read, ran⟩ := ok_of_bind made
  rw [attempt, Editor.carryOut_eq, read]
  simp only [bind, Except.bind, ran, Editor.writeIfEdited, failed]
  rfl

theorem attempt_of_unedited (unmade : ∀ edited, edit editor tree change ≠ .ok (some edited)) :
    attempt editor tree change = tree := by
  rw [attempt, Editor.carryOut_eq]
  cases read : editor.read tree with
  | error why => rfl
  | ok document =>
      cases ran : change.run document with
      | error why =>
          simp only [bind, Except.bind, ran]
          rfl
      | ok outcome =>
          cases outcome with
          | none =>
              simp only [bind, Except.bind, ran]
              rfl
          | some edited =>
              refine absurd ?_ (unmade edited)
              rw [edit, read]
              exact ran

/-! ## Requests that are overtaken -/

/-- A request has been overtaken by one of several others: its own writing fell between the two
steps of the other. -/
def Overtaken (past : List Action) (chain : List Nat) (number : Nat) : Prop :=
  ∃ other ∈ chain, [.load other, .save number, .save other].Sublist past

/-- Requests that were saved, and what the file shows after them, one after another. -/
structure Account (editor : Editor) (changes : List Edit.Change) (start : Tree)
    (stage : Nat → Stage) (chain : List Nat) (sheet : Option Document) : Prop where
  shows : Shows editor start sheet (oneByOne editor changes start chain)
  nodup : chain.Nodup
  saved : ∀ number ∈ chain, stage number = .saved

/-- Some requests account for what a request has read, of which it has made the document that it
holds.  The others that were saved have been overtaken, or they will be if the request is
saved. -/
def Held (editor : Editor) (changes : List Edit.Change) (start : Tree) (past : List Action)
    (stage : Nat → Stage) (number : Nat) (edited : Document) : Prop :=
  ∃ chain sheet change, Account editor changes start stage chain sheet ∧
    changes[number]? = some change ∧
    edit editor (oneByOne editor changes start chain) change = .ok (some edited) ∧
    .load number ∈ past ∧
    ∀ other, stage other = .saved →
      other ∈ chain ∨ Overtaken past chain other ∨ [.load number, .save other].Sublist past

/-- Some requests account for what the file shows, and the other ones that were saved have been
overtaken by them; and some account for what each request has read. -/
structure Accounted (editor : Editor) (changes : List Edit.Change) (start : Tree)
    (past : List Action) (progress : Progress) : Prop where
  shown : ∃ chain sheet, Account editor changes start progress.stage chain sheet ∧
    Shows editor start sheet progress.tree ∧
      ∀ number, progress.stage number = .saved → number ∈ chain ∨ Overtaken past chain number
  held : ∀ number edited, progress.stage number = .holding edited →
    Held editor changes start past progress.stage number edited

theorem Overtaken.later {past : List Action} {chain : List Nat} (overtaken : Overtaken past chain number)
    (action : Action) : Overtaken (past ++ [action]) chain number := by
  obtain ⟨other, member, between⟩ := overtaken
  exact ⟨other, member, between.trans (List.sublist_append_left past [action])⟩

theorem Account.congr {stage later : Nat → Stage} {chain : List Nat}
    (account : Account editor changes start stage chain sheet)
    (kept : ∀ number, stage number = .saved → later number = .saved) :
    Account editor changes start later chain sheet :=
  ⟨account.shows, account.nodup, fun number member => kept number (account.saved number member)⟩

/-- What a request has read stays accounted for while others are saved. -/
theorem Held.later {past : List Action} {stage later : Nat → Stage}
    (held : Held editor changes start past stage number edited) (action : Action)
    (kept : ∀ other, stage other = .saved → later other = .saved)
    (new : ∀ other, later other = .saved → stage other = .saved ∨ action = .save other) :
    Held editor changes start (past ++ [action]) later number edited := by
  obtain ⟨chain, sheet, change, account, there, made, loaded, others⟩ := held
  refine ⟨chain, sheet, change, account.congr kept, there, made, List.mem_append_left _ loaded,
    fun other saved => ?_⟩
  rcases new other saved with before | rfl
  · rcases others other before with member | overtaken | between
    · exact Or.inl member
    · exact Or.inr (Or.inl (overtaken.later action))
    · exact Or.inr (Or.inr (between.trans (List.sublist_append_left _ _)))
  · have first : [Action.load number].Sublist past := List.singleton_sublist.mpr loaded
    exact Or.inr (Or.inr (first.append (List.Sublist.refl [_])))

theorem accounted_start (editor : Editor) (changes : List Edit.Change) (start : Tree) :
    Accounted editor changes start [] { tree := start } where
  shown := ⟨[], none, ⟨.untouched, List.nodup_nil, fun _ member => absurd member List.not_mem_nil⟩,
    .untouched, fun number saved => by cases saved⟩
  held := fun number edited holding => by cases holding

/-- A step without a write, by which no request is saved, leaves the account as it is. -/
theorem Accounted.quiet {past : List Action} (accounted : Accounted editor changes start past progress)
    {stage : Stage} (action : Action) (unsaved : progress.stage number ≠ .saved)
    (notSaved : stage ≠ .saved)
    (held : ∀ edited, stage = .holding edited → ∃ change, changes[number]? = some change ∧
      edit editor progress.tree change = .ok (some edited) ∧ action = .load number)
    (placed : editor.Placed) :
    Accounted editor changes start (past ++ [action]) (progress.put number stage) := by
  have kept (other : Nat) : (progress.put number stage).stage other = .saved ↔
      progress.stage other = .saved := by
    rw [stage_put]
    split
    · next same =>
        subst same
        exact ⟨fun saved => absurd saved notSaved, fun saved => absurd saved unsaved⟩
    · rfl
  obtain ⟨chain, sheet, account, shows, others⟩ := accounted.shown
  refine ⟨⟨chain, sheet, account.congr fun other => (kept other).mpr, shows, fun other saved => ?_⟩, ?_⟩
  · exact (others other ((kept other).mp saved)).imp_right fun overtaken => overtaken.later action
  · intro other edited holding
    rw [stage_put] at holding
    split at holding
    · next same =>
        subst same
        obtain ⟨change, there, made, rfl⟩ := held edited holding
        refine ⟨chain, sheet, change, account.congr fun other => (kept other).mpr, there, ?_, by simp,
          fun other saved => ?_⟩
        · rw [account.shows.edit_eq placed shows change, made]
        · exact (others other ((kept other).mp saved)).imp_right fun overtaken =>
            Or.inl (overtaken.later _)
    · exact (accounted.held other edited holding).later action (fun other => (kept other).mpr)
        fun another saved => Or.inl ((kept another).mp saved)

/-- A request that is saved comes after those that account for what it has read. -/
theorem Account.append {stage later : Nat → Stage} {chain : List Nat}
    (account : Account editor changes start stage chain sheet)
    (there : changes[number]? = some change)
    (made : edit editor (oneByOne editor changes start chain) change = .ok (some edited))
    (writable : ∃ again, editor.write (oneByOne editor changes start chain) edited = .ok again)
    (unsaved : stage number ≠ .saved) (kept : ∀ other, stage other = .saved → later other = .saved)
    (saved : later number = .saved) :
    Account editor changes start later (chain ++ [number]) (some edited) := by
  obtain ⟨again, rewritten⟩ := writable
  refine ⟨?_, ?_, fun other member => ?_⟩
  · rw [oneByOne_concat there, attempt_of_written made rewritten]
    exact account.shows.written rewritten
  · refine List.nodup_append.mpr ⟨account.nodup, List.nodup_singleton number, ?_⟩
    rintro _ member _ same rfl
    exact unsaved (account.saved number (List.mem_singleton.mp same ▸ member))
  · rcases List.mem_append.mp member with member | member
    · exact kept other (account.saved other member)
    · rw [List.mem_singleton.mp member, saved]

/-- A request that is saved accounts for the file together with those that account for what it
had read. -/
theorem Accounted.save {past : List Action} (accounted : Accounted editor changes start past progress)
    (placed : editor.Placed) (holding : progress.stage number = .holding edited)
    (written : editor.write progress.tree edited = .ok after) :
    Accounted editor changes start (past ++ [.save number])
      (Progress.put { progress with tree := after } number .saved) := by
  have kept (other : Nat) (saved : progress.stage other = .saved) :
      (Progress.put { progress with tree := after } number .saved).stage other = .saved := by
    rw [stage_put]
    split
    · rfl
    · exact saved
  obtain ⟨_, sheet, _, shows, _⟩ := accounted.shown
  constructor
  · obtain ⟨chain, before, change, account, there, made, -, others⟩ :=
      accounted.held number edited holding
    have writable : ∃ again, editor.write (oneByOne editor changes start chain) edited = .ok again :=
      (account.shows.write_iff placed edited).mpr ((shows.write_iff placed edited).mp ⟨_, written⟩)
    refine ⟨chain ++ [number], some edited,
      account.append there made writable (by simp [holding]) kept (by simp [stage_put]),
      shows.written written, fun other saved => ?_⟩
    rw [stage_put] at saved
    split at saved
    · next same =>
        subst same
        exact Or.inl (by simp)
    · rcases others other saved with member | ⟨another, member, between⟩ | between
      · exact Or.inl (List.mem_append_left _ member)
      · exact Or.inr ⟨another, List.mem_append_left _ member,
          between.trans (List.sublist_append_left _ _)⟩
      · exact Or.inr ⟨number, by simp, between.append (List.Sublist.refl [_])⟩
  · intro other document stillHolding
    rw [stage_put] at stillHolding
    split at stillHolding
    · cases stillHolding
    · refine (accounted.held other document stillHolding).later _ kept fun another saved => ?_
      rw [stage_put] at saved
      split at saved
      · next same => exact Or.inr (by rw [same])
      · exact Or.inl saved

theorem Accounted.step {past : List Action} (accounted : Accounted editor changes start past progress)
    (placed : editor.Placed) (stepped : step editor changes progress action = some next) :
    Accounted editor changes start (past ++ [action]) next := by
  rcases step_cases stepped with ⟨number, change, rfl, waiting, there, taken⟩ |
    ⟨number, edited, rfl, holding, taken⟩
  · have unsaved : progress.stage number ≠ .saved := by simp [waiting]
    rcases taken with ⟨edited, made, rfl⟩ | ⟨_, rfl⟩
    · refine accounted.quiet _ unsaved (by simp) (fun document same => ?_) placed
      cases same
      exact ⟨change, there, made, rfl⟩
    · exact accounted.quiet _ unsaved (by simp) (fun document same => by cases same) placed
  · have unsaved : progress.stage number ≠ .saved := by simp [holding]
    rcases taken with ⟨after, written, rfl⟩ | ⟨_, rfl⟩
    · exact accounted.save placed holding written
    · exact accounted.quiet _ unsaved (by simp) (fun document same => by cases same) placed

theorem run_concat (progress : Progress) (past : List Action) (action : Action) :
    run editor changes progress (past ++ [action]) =
      (run editor changes progress past).bind fun reached => step editor changes reached action := by
  rw [run, List.foldlM_append]
  simp [run, List.foldlM]

theorem accounted_of_run (placed : editor.Placed)
    (ran : run editor changes { tree := start } schedule = some progress) :
    Accounted editor changes start schedule progress := by
  induction schedule using List.reverseRecOn generalizing progress with
  | nil =>
      cases ran
      exact accounted_start editor changes start
  | append_singleton past action inductionHypothesis =>
      rw [run_concat] at ran
      obtain ⟨reached, ran, stepped⟩ := Option.bind_eq_some_iff.mp ran
      exact (inductionHypothesis ran).step placed stepped

/-! ## Requests that are not overtaken -/

/-- No request writes the file between the two steps of another. -/
def Undisturbed (schedule : List Action) : Prop :=
  ∀ number other, ¬ [.load other, .save number, .save other].Sublist schedule

/-- The requests that are over account for the file in some order; a request that holds a
document would make it again of what the file holds, or it has been disturbed. -/
structure Serial (editor : Editor) (changes : List Edit.Change) (start : Tree)
    (past : List Action) (progress : Progress) : Prop where
  shown : ∃ order sheet, Shows editor start sheet (oneByOne editor changes start order) ∧
    Shows editor start sheet progress.tree ∧ order.Nodup ∧
      ∀ number, number ∈ order ↔ progress.stage number = .saved ∨ progress.stage number = .ended
  held : ∀ number edited, progress.stage number = .holding edited →
    ∃ change, changes[number]? = some change ∧ .load number ∈ past ∧
      (edit editor progress.tree change = .ok (some edited) ∨
        ∃ other, [.load number, .save other].Sublist past)
  known : ∀ number, progress.stage number ≠ .waiting → number < changes.length

theorem serial_start (editor : Editor) (changes : List Edit.Change) (start : Tree) :
    Serial editor changes start [] { tree := start } where
  shown := ⟨[], none, .untouched, .untouched, List.nodup_nil, fun number => by simp⟩
  held := fun number edited holding => by cases holding
  known := fun number begun => absurd rfl begun

/-- What a request holds, it would make again of the file as long as this is not written. -/
theorem Serial.held_later {past : List Action} (serial : Serial editor changes start past progress)
    {tree : Tree} (stale : tree = progress.tree ∨ ∃ number, action = .save number)
    (holding : progress.stage number = .holding edited) :
    ∃ change, changes[number]? = some change ∧ .load number ∈ past ++ [action] ∧
      (edit editor tree change = .ok (some edited) ∨
        ∃ other, [.load number, .save other].Sublist (past ++ [action])) := by
  obtain ⟨change, known, loaded, made⟩ := serial.held number edited holding
  refine ⟨change, known, List.mem_append_left _ loaded, ?_⟩
  rcases made with made | ⟨other, between⟩
  · rcases stale with rfl | ⟨other, rfl⟩
    · exact Or.inl made
    · have first : [Action.load number].Sublist past := List.singleton_sublist.mpr loaded
      exact Or.inr ⟨other, first.append (List.Sublist.refl [_])⟩
  · exact Or.inr ⟨other, between.trans (List.sublist_append_left _ _)⟩

/-- A request that has begun is one of those that were made. -/
theorem Serial.known_put {past : List Action} (serial : Serial editor changes start past progress)
    {stage : Stage} {other : Nat} (there : changes[number]? = some change)
    (begun : (progress.put number stage).stage other ≠ .waiting) : other < changes.length := by
  rw [stage_put] at begun
  split at begun
  · next same =>
      subst same
      exact (List.getElem?_eq_some_iff.mp there).1
  · exact serial.known other begun

/-- A request that is over comes last in the order. -/
theorem Serial.finish {past : List Action} (serial : Serial editor changes start past progress)
    {stage : Stage} {tree : Tree} (action : Action)
    (there : changes[number]? = some change)
    (isOver : stage = .saved ∨ stage = .ended)
    (pending : progress.stage number ≠ .saved ∧ progress.stage number ≠ .ended)
    (effect : ∀ sheet other, Shows editor start sheet progress.tree → Shows editor start sheet other →
      ∃ later, Shows editor start later tree ∧ Shows editor start later (attempt editor other change))
    (stale : tree = progress.tree ∨ action = .save number) :
    Serial editor changes start (past ++ [action]) (Progress.put { progress with tree } number stage) := by
  obtain ⟨order, sheet, ordered, shows, nodup, listed⟩ := serial.shown
  refine ⟨?_, ?_, ?_⟩
  · obtain ⟨later, shown, applied⟩ := effect sheet _ shows ordered
    refine ⟨order ++ [number], later, ?_, shown, ?_, fun other => ?_⟩
    · rw [oneByOne_concat there]
      exact applied
    · refine List.nodup_append.mpr ⟨nodup, List.nodup_singleton number, ?_⟩
      rintro other member _ same rfl
      rw [List.mem_singleton.mp same] at member
      rcases (listed number).mp member with saved | ended
      · exact pending.1 saved
      · exact pending.2 ended
    · rw [List.mem_append, List.mem_singleton, listed, stage_put]
      split
      · next same => simp [same, isOver]
      · next different => simp [different]
  · intro other document holding
    rw [stage_put] at holding
    split at holding
    · rcases isOver with rfl | rfl <;> cases holding
    · exact serial.held_later (stale.imp_right fun saves => ⟨number, saves⟩) holding
  · exact fun other begun => serial.known_put there begun

/-- A request that has read the file holds the document that it would make now. -/
theorem Serial.hold {past : List Action} (serial : Serial editor changes start past progress)
    (waiting : progress.stage number = .waiting) (there : changes[number]? = some change)
    (made : edit editor progress.tree change = .ok (some edited)) :
    Serial editor changes start (past ++ [.load number]) (progress.put number (.holding edited)) := by
  obtain ⟨order, sheet, ordered, shows, nodup, listed⟩ := serial.shown
  refine ⟨⟨order, sheet, ordered, shows, nodup, fun other => ?_⟩, ?_, ?_⟩
  · rw [listed, stage_put]
    split
    · next same => simp [same, waiting]
    · rfl
  · intro other document holding
    rw [stage_put] at holding
    split at holding
    · next same =>
        subst same
        cases holding
        exact ⟨change, there, by simp, Or.inl made⟩
    · exact serial.held_later (Or.inl rfl) holding
  · exact fun other begun => serial.known_put there begun

theorem Serial.step {past : List Action} (serial : Serial editor changes start past progress)
    (placed : editor.Placed) (stepped : step editor changes progress action = some next)
    (undisturbed : Undisturbed (past ++ [action])) :
    Serial editor changes start (past ++ [action]) next := by
  rcases step_cases stepped with ⟨number, change, rfl, waiting, there, taken⟩ |
    ⟨number, edited, rfl, holding, taken⟩
  · rcases taken with ⟨edited, made, rfl⟩ | ⟨unmade, rfl⟩
    · exact serial.hold waiting there made
    · refine serial.finish _ there (Or.inr rfl) (by simp [waiting]) ?_ (Or.inl rfl)
      intro sheet other shows again
      refine ⟨sheet, shows, ?_⟩
      rwa [attempt_of_unedited]
      rwa [← shows.edit_eq placed again change]
  · obtain ⟨change, there, loaded, made⟩ := serial.held number edited holding
    -- Nobody has written the file since the request has read it.
    have made : edit editor progress.tree change = .ok (some edited) := by
      rcases made with made | ⟨other, between⟩
      · exact made
      · exact absurd (between.append (List.Sublist.refl [_])) (undisturbed other number)
    have pending : progress.stage number ≠ .saved ∧ progress.stage number ≠ .ended := by
      simp [holding]
    rcases taken with ⟨after, written, rfl⟩ | ⟨⟨why, failed⟩, rfl⟩
    · refine serial.finish _ there (Or.inl rfl) pending ?_ (Or.inr rfl)
      intro sheet other shows again
      obtain ⟨later, rewritten⟩ : ∃ later, editor.write other edited = .ok later :=
        (again.write_iff placed edited).mpr ((shows.write_iff placed edited).mp ⟨_, written⟩)
      refine ⟨some edited, shows.written written, ?_⟩
      rw [attempt_of_written (by rw [← shows.edit_eq placed again change, made]) rewritten]
      exact again.written rewritten
    · refine serial.finish _ there (Or.inr rfl) pending ?_ (Or.inl rfl)
      intro sheet other shows again
      refine ⟨sheet, shows, ?_⟩
      cases rewritten : editor.write other edited with
      | error reason =>
          rwa [attempt_of_unwritten (by rw [← shows.edit_eq placed again change, made]) rewritten]
      | ok later =>
          obtain ⟨after, written⟩ := (shows.write_iff placed edited).mpr
            ((again.write_iff placed edited).mp ⟨_, rewritten⟩)
          rw [failed] at written
          cases written

theorem serial_of_run (placed : editor.Placed) (undisturbed : Undisturbed schedule)
    (ran : run editor changes { tree := start } schedule = some progress) :
    Serial editor changes start schedule progress := by
  induction schedule using List.reverseRecOn generalizing progress with
  | nil =>
      cases ran
      exact serial_start editor changes start
  | append_singleton past action inductionHypothesis =>
      rw [run_concat] at ran
      obtain ⟨reached, ran, stepped⟩ := Option.bind_eq_some_iff.mp ran
      refine (inductionHypothesis (fun number other between => ?_) ran).step placed stepped undisturbed
      exact undisturbed number other (between.trans (List.sublist_append_left _ _))

/-- However requests overlap, the file ends as if some of those that were saved had come one
after another, and the others have been overtaken by these.  If no request writes the file
between the two steps of another and all are over, the file ends as if all requests had come
one after another in some order. -/
theorem overlapping_edits (placed : editor.Placed)
    (ran : run editor changes { tree := start } schedule = some progress) :
    (∃ order, order.Nodup ∧ (∀ number ∈ order, progress.stage number = .saved) ∧
      progress.tree.readBytes editor.file =
        (oneByOne editor changes start order).readBytes editor.file ∧
      ∀ number, progress.stage number = .saved →
        number ∈ order ∨ Overtaken schedule order number) ∧
    (Undisturbed schedule → (∀ number < changes.length,
        progress.stage number = .saved ∨ progress.stage number = .ended) →
      ∃ order, order.Perm (List.range changes.length) ∧
        progress.tree.readBytes editor.file =
          (oneByOne editor changes start order).readBytes editor.file) := by
  constructor
  · obtain ⟨order, sheet, account, shows, others⟩ := (accounted_of_run placed ran).shown
    exact ⟨order, account.nodup, account.saved, shows.readBytes_eq placed account.shows, others⟩
  · intro undisturbed complete
    have serial := serial_of_run placed undisturbed ran
    obtain ⟨order, sheet, ordered, shows, nodup, listed⟩ := serial.shown
    refine ⟨order, ?_, shows.readBytes_eq placed ordered⟩
    refine (List.perm_ext_iff_of_nodup nodup List.nodup_range).mpr fun number => ?_
    rw [listed, List.mem_range]
    refine ⟨fun finished => serial.known number ?_, complete number⟩
    rintro waiting
    rw [waiting] at finished
    rcases finished with impossible | impossible <;> cases impossible

/-- Two requests that give different keys a value. -/
def twoChanges : List Edit.Change :=
  [.set ['a'] { root := .int 1 }, .set ['b'] { root := .int 2 }]

/-- One after the other, both take effect. -/
theorem overlapping_edits_serial : ∃ final order,
    run Editor.lonelyEditor twoChanges { tree := Editor.bareFolder } [.load 0, .save 0, .load 1, .save 1] =
      some final ∧
    order.Perm (List.range 2) ∧
    final.tree.readBytes Editor.lonelyEditor.file =
      (oneByOne Editor.lonelyEditor twoChanges Editor.bareFolder order).readBytes
        Editor.lonelyEditor.file := by
  have finished : (run Editor.lonelyEditor twoChanges { tree := Editor.bareFolder }
      [.load 0, .save 0, .load 1, .save 1]).map (fun final => (final.stage 0, final.stage 1)) =
        some (.saved, .saved) := by decide +kernel
  obtain ⟨final, ran, stages⟩ := Option.map_eq_some_iff.mp finished
  have undisturbed : Undisturbed [.load 0, .save 0, .load 1, .save 1] := by
    intro number other between
    have loads : other = 0 ∨ other = 1 := by
      simpa using between.subset (List.mem_cons_self (a := Action.load other))
    have saves : number = 0 ∨ number = 1 := by
      simpa using between.subset (List.mem_cons_of_mem _ List.mem_cons_self)
    rcases loads with rfl | rfl <;> rcases saves with rfl | rfl <;> revert between <;> decide
  have complete : ∀ number < twoChanges.length,
      final.stage number = .saved ∨ final.stage number = .ended := by
    intro number few
    have saved := Prod.mk.inj stages
    rcases number with - | - | number
    · exact Or.inl saved.1
    · exact Or.inl saved.2
    · exact absurd few (by simp [twoChanges])
  obtain ⟨order, complete, same⟩ :=
    (overlapping_edits Editor.lonelyEditor_placed ran).2 undisturbed complete
  exact ⟨final, order, ran, complete, same⟩

theorem order_of_two (permuted : order.Perm (List.range 2)) : order = [0, 1] ∨ order = [1, 0] := by
  have members (number : Nat) : number ∈ order ↔ number < 2 := by
    rw [permuted.mem_iff, List.mem_range]
  have nodup := permuted.nodup_iff.mpr List.nodup_range
  have length := permuted.length_eq
  rcases order with - | ⟨first, - | ⟨second, - | ⟨third, rest⟩⟩⟩
  · cases length
  · cases length
  · have early := (members first).mp (by simp)
    have late := (members second).mp (by simp)
    have different : first ≠ second := by simpa using nodup
    simp only [List.cons.injEq, and_true]
    omega
  · simp at length

/-- If both read the file before either writes it, the first of them has no effect, although it
was saved, and no order explains what is left. -/
theorem overlapping_edits_lose :
    (run Editor.lonelyEditor twoChanges { tree := Editor.bareFolder }
      [.load 0, .load 1, .save 0, .save 1]).map (fun final =>
        (final.stage 0, final.stage 1, final.tree.readBytes Editor.lonelyEditor.file)) =
      some (.saved, .saved, .ok (Utf8.encode "b: 2\n".toList)) ∧
    ∀ order, order.Perm (List.range 2) →
      (oneByOne Editor.lonelyEditor twoChanges Editor.bareFolder order).readBytes
        Editor.lonelyEditor.file ≠ .ok (Utf8.encode "b: 2\n".toList) := by
  refine ⟨by decide +kernel, fun order permuted => ?_⟩
  rcases order_of_two permuted with rfl | rfl
  · decide +kernel
  · decide +kernel

end Overlap
end Codemap
