import Codemap.Proofs.Settings.Attempt
import Codemap.Proofs.Settings.Checks

namespace Codemap

/-!
# Edits and the loading after them

An edit looks at the document and not at what it means, so it may leave settings that are
refused, and every later edit is refused with them: the settings are loaded first.  What an
edit must not do is to give a setting that is checked a value that fails the check.  Edits
that do not, one after the other, leave a file that is loaded.
-/

open Yaml

namespace Settings

variable {environment : Environment} {tree ready after : Tree} {asked : Option Path} {file : Path}
  {settings : Settings} {document edited : Document} {change : Edit.Change}

/-! ## Files that are loaded -/

/-- The settings file is missing, or its document passes all checks. -/
inductive Healthy (environment : Environment) (file : Path) (tree : Tree) : Prop
  | missing (missing : tree.status file = .ok none)
  | stored {content : Bytes} {changed : Int} {document : Document}
      (stored : tree.entry file = .ok (.file content changed))
      (read : readDocument tree file = .ok document)
      (passes : ∀ check : Check, check.Passes environment tree file document)

/-- The file that settings come from. -/
theorem file_of_load (located : locate environment tree asked = .ok file)
    (loaded : load environment tree asked = .ok settings) : settings.file = file := by
  rw [load, located] at loaded
  obtain ⟨_, ⟨⟩, loaded⟩ := ok_of_bind loaded
  obtain ⟨status, -, loaded⟩ := ok_of_bind loaded
  split at loaded
  · cases loaded
    rfl
  · obtain ⟨document, -, made⟩ := ok_of_bind loaded
    obtain ⟨_, _, _, _, -, -, -, -, rfl⟩ := of_ofDocument made
    rfl

/-- What a settings file looks like whose settings have been loaded. -/
theorem cases_of_load (located : locate environment tree asked = .ok file)
    (loaded : load environment tree asked = .ok settings) :
    (tree.status file = .ok none ∧ settings.logFile = none) ∨
      ∃ content changed document, tree.entry file = .ok (.file content changed) ∧
        readDocument tree file = .ok document ∧
        ofDocument environment tree file document = .ok settings := by
  rw [load, located] at loaded
  obtain ⟨_, ⟨⟩, loaded⟩ := ok_of_bind loaded
  obtain ⟨found, there, loaded⟩ := ok_of_bind loaded
  have there : tree.status file = .ok found := by
    rw [status] at there
    split at there
    · next same =>
        cases there
        exact same
    · cases there
  cases found with
  | none =>
      cases loaded
      exact Or.inl ⟨there, rfl⟩
  | some found =>
      obtain ⟨document, read, made⟩ := ok_of_bind loaded
      have stored := Tree.entry_of_status there
      cases found with
      | file content changed => exact Or.inr ⟨content, changed, document, stored, read, made⟩
      | directory children =>
          rw [readDocument_eq, Tree.readText, Tree.readBytes, stored] at read
          cases read

/-- Settings can be loaded from a healthy file. -/
theorem Healthy.load (healthy : Healthy environment file tree)
    (located : locate environment tree asked = .ok file) :
    ∃ settings, Settings.load environment tree asked = .ok settings := by
  cases healthy with
  | missing missing =>
      have lacking : Settings.status tree file = .ok none := by rw [Settings.status, missing]
      rw [Settings.load, located]
      simp only [bind, Except.bind, lacking]
      exact ⟨_, rfl⟩
  | stored stored read passes =>
      obtain ⟨settings, made⟩ := exists_ofDocument_iff.mpr fun check => (passes check).holds
      exact ⟨settings, by rw [load_of_stored located stored, read]; exact made⟩

/-- A file from which settings have been loaded is healthy, if the log is another file. -/
theorem healthy_of_load (located : locate environment tree asked = .ok file)
    (loaded : load environment tree asked = .ok settings) (elsewhere : settings.logFile ≠ some file) :
    Healthy environment file tree := by
  rcases cases_of_load located loaded with ⟨missing, -⟩ | ⟨content, changed, document, stored, read, made⟩
  · exact .missing missing
  · exact .stored stored read (Check.passes_of_ofDocument made elsewhere)

/-- What is read of a healthy file passes all checks. -/
theorem Healthy.passes (healthy : Healthy environment file tree)
    (read : readDocument tree file = .ok document) (check : Check) :
    check.Passes environment tree file document := by
  cases healthy with
  | missing missing =>
      rw [readDocument_eq, Tree.readText, Tree.readBytes] at read
      rw [Tree.status] at missing
      split at missing
      · cases missing
      · cases missing
      · next why _ failed =>
          rw [failed] at read
          cases why <;> cases read
          exact Check.passes_empty check
  | stored _ again passes =>
      rw [again] at read
      cases read
      exact passes check

/-! ## The log -/

/-- The log of settings that have been loaded passes the check. -/
theorem Healthy.elsewhere (healthy : Healthy environment file tree)
    (located : locate environment tree asked = .ok file)
    (loaded : Settings.load environment tree asked = .ok settings) :
    settings.logFile ≠ some file := by
  rcases cases_of_load located loaded with ⟨-, none⟩ | ⟨content, changed, document, -, read, made⟩
  · rw [none]
    exact nofun
  · intro logged
    obtain ⟨content, named, placed⟩ := placeOf_logFile made logged
    exact (healthy.passes read .log).elsewhere rfl content named placed

/-- The path of a log is written out in full. -/
theorem resolved_log (grounded : Grounded environment tree none) (resolved : file.Resolved)
    (made : ofDocument environment tree file document = .ok settings) {log : Path}
    (logged : settings.logFile = some log) : log.Resolved := by
  obtain ⟨text, -, placed⟩ := placeOf_logFile made logged
  exact resolved_placeOf grounded resolved.parent.legible.segments placed

end Settings

namespace CommandLine

variable {settings : Settings} {tree ready : Tree} {log file : Path} {content : Bytes}
  {changed : Int}

/-- Writing the log leaves every other file as it is. -/
theorem stored_of_writeLog (resolved : log.Resolved) (readable : tree.readBytes log ≠ .error .isDirectory)
    {lines : Bytes} (written : tree.writeBytes log lines = .ok ready) (place : file.Resolved)
    (proper : file.names ≠ []) (elsewhere : log ≠ file)
    (stored : tree.entry file = .ok (.file content changed)) :
    ready.entry file = .ok (.file content changed) ∧ ready.current = tree.current := by
  have named := Tree.named_of_entry place.plain place.legible stored
  have there := Tree.at?_of_entry place.plain stored
  have apart : file.names ≠ log.names := by
    intro same
    refine elsewhere ?_
    rw [Path.mk.injEq]
    exact ⟨resolved.root.trans place.root.symm, same.symm⟩
  -- The root is a directory, and what is read of a directory is a fault.
  have below : log.names ≠ [] := by
    intro none
    obtain ⟨children, top⟩ : ∃ children, tree.root.at? [] = some (.directory children) :=
      Entry.directory_above there proper
    refine readable ?_
    rw [Tree.readBytes, Tree.entry_of_at? resolved.legible.rooted (by simp [none])
      (by rw [none]; exact top)]
  obtain ⟨-, current⟩ := Tree.stored_of_writeBytes resolved.plain resolved.legible below written
  refine ⟨Tree.entry_of_at? place.legible.rooted named ?_, current⟩
  exact Tree.file_of_writeBytes resolved.plain resolved.legible below there apart written

/-- So does opening it, with the directories that are made for it. -/
theorem stored_of_openLog (resolved : log.Resolved) (logged : settings.logFile = some log)
    (opened : openLog settings tree = .ok ready) (place : file.Resolved) (proper : file.names ≠ [])
    (elsewhere : log ≠ file) (stored : tree.entry file = .ok (.file content changed)) :
    ready.entry file = .ok (.file content changed) ∧ ready.current = tree.current := by
  rw [openLog, logged] at opened
  obtain ⟨grown, made, opened⟩ := ok_of_bind opened
  have named := Tree.named_of_entry place.plain place.legible stored
  have there := Tree.file_of_makeDirectories resolved.parent.plain resolved.parent.legible proper
    (Tree.at?_of_entry place.plain stored) made
  have grownStored : grown.entry file = .ok (.file content changed) :=
    Tree.entry_of_at? place.legible.rooted named there
  have current := Tree.current_of_makeDirectories made
  split at opened
  · cases opened
    exact ⟨grownStored, current⟩
  · next lacking =>
      obtain ⟨again, still⟩ := stored_of_writeLog resolved (by rw [lacking]; exact nofun) opened
        place proper elsewhere grownStored
      exact ⟨again, still.trans current⟩
  · cases opened

/-- And so does adding records to it. -/
theorem stored_of_addRecords (resolved : log.Resolved) (logged : settings.logFile = some log)
    (place : file.Resolved) (proper : file.names ≠ []) (elsewhere : log ≠ file)
    (stored : tree.entry file = .ok (.file content changed)) (now : Text) (records : List Notice) :
    (addRecords settings now records tree).entry file = .ok (.file content changed) ∧
      (addRecords settings now records tree).current = tree.current := by
  rw [addRecords, logged]
  dsimp only
  split
  · exact ⟨stored, rfl⟩
  split
  · exact ⟨stored, rfl⟩
  · next before read =>
      split
      · exact ⟨stored, rfl⟩
      · next written =>
          exact stored_of_writeLog resolved (by rw [read]; exact nofun) written place proper
            elsewhere stored

end CommandLine

namespace Settings

variable {environment : Environment} {tree ready after : Tree} {asked : Option Path} {file : Path}
  {settings : Settings} {document edited : Document} {change : Edit.Change} {attempt : Attempt}

/-- If there is a log, it is beside the settings file, which is there. -/
def LogBeside (settings : Settings) (file : Path) (tree : Tree) : Prop :=
  ∀ log, settings.logFile = some log → log.Resolved ∧ log ≠ file ∧
    ∃ content changed, tree.entry file = .ok (.file content changed)

theorem Healthy.logBeside (healthy : Healthy environment file tree)
    (placed : Editor.Placed { file }) (grounded : Grounded environment tree none)
    (located : locate environment tree asked = .ok file)
    (loaded : Settings.load environment tree asked = .ok settings) : LogBeside settings file tree := by
  intro log logged
  rcases cases_of_load located loaded with
    ⟨-, none⟩ | ⟨content, changed, document, stored, read, made⟩
  · rw [logged] at none
    cases none
  · refine ⟨resolved_log grounded placed.resolved made logged, ?_, content, changed, stored⟩
    exact fun same => healthy.elsewhere located loaded (by rw [logged, same])

/-- A file that stays as it is stays healthy. -/
theorem Healthy.of_stored (healthy : Healthy environment file tree) {content : Bytes} {changed : Int}
    (stored : tree.entry file = .ok (.file content changed))
    (again : after.entry file = .ok (.file content changed)) (current : after.current = tree.current) :
    Healthy environment file after ∧ after.readBytes file = tree.readBytes file := by
  have same : after.readBytes file = tree.readBytes file := by
    rw [Tree.readBytes, Tree.readBytes, again, stored]
  cases healthy with
  | missing missing =>
      rw [Tree.status, stored] at missing
      cases missing
  | @stored _ _ document _ read passes =>
      refine ⟨.stored again ((readDocument_congr same).trans read) fun check => ?_, same⟩
      exact (passes check).of_same current fun name _ => sameSetting_of_same (.refl document) name

/-- Between the loading and the edit a healthy file stays as it is. -/
theorem Healthy.opened (healthy : Healthy environment file tree) (placed : Editor.Placed { file })
    (beside : LogBeside settings file tree) (opened : Attempt.Opened settings tree ready) :
    Healthy environment file ready ∧ ready.current = tree.current ∧
      ready.readBytes file = tree.readBytes file ∧ LogBeside settings file ready := by
  cases opened with
  | still => exact ⟨healthy, rfl, rfl, beside⟩
  | logged opened =>
      cases logged : settings.logFile with
      | none =>
          rw [CommandLine.openLog, logged] at opened
          cases opened
          exact ⟨healthy, rfl, rfl, beside⟩
      | some log =>
          obtain ⟨resolved, elsewhere, content, changed, stored⟩ := beside log logged
          obtain ⟨again, current⟩ := CommandLine.stored_of_openLog resolved logged opened
            placed.resolved placed.below elsewhere stored
          obtain ⟨kept, same⟩ := healthy.of_stored stored again current
          refine ⟨kept, current, same, fun other another => ?_⟩
          exact ⟨(beside other another).1, (beside other another).2.1, content, changed, again⟩

/-- After the edit it stays as it is, too. -/
theorem Healthy.closed (healthy : Healthy environment file tree) (placed : Editor.Placed { file })
    (beside : LogBeside settings file tree) (closed : Attempt.Closed settings tree after) :
    Healthy environment file after ∧ after.current = tree.current := by
  cases closed with
  | still => exact ⟨healthy, rfl⟩
  | logged now records =>
      cases logged : settings.logFile with
      | none =>
          rw [CommandLine.addRecords, logged]
          exact ⟨healthy, rfl⟩
      | some log =>
          obtain ⟨resolved, elsewhere, content, changed, stored⟩ := beside log logged
          obtain ⟨again, current⟩ := CommandLine.stored_of_addRecords resolved logged
            placed.resolved placed.below elsewhere stored now records
          exact ⟨(healthy.of_stored stored again current).1, current⟩

/-! ## Edits that keep the settings in order -/

/-- A change does no harm to a document: what it makes can be read back, and for every check
the settings that it looks at are beside the change, or what the change makes passes it. -/
structure Harmless (environment : Environment) (tree : Tree) (file : Path) (document : Document)
    (change : Edit.Change) (edited : Document) : Prop where
  readsBack : ReadsBack edited
  passes : ∀ check : Check,
    (∀ name ∈ check.names, change.Spares document [name.toList] ∧
      change.Unaliased document [name.toList]) ∨
    check.Passes environment tree file edited

/-- What a harmless change makes passes all checks once it has been read again. -/
theorem Harmless.passes_again {again : Document} (mapping : IsMapping document)
    (ran : change.run document = .ok (some edited)) (same : edited.Same again)
    (mappingAgain : IsMapping again) (current : after.current = tree.current)
    (before : ∀ check : Check, check.Passes environment tree file document)
    (harmless : Harmless environment tree file document change edited) (check : Check) :
    check.Passes environment after file again := by
  rcases harmless.passes check with beside | passes
  · refine (before check).of_same current fun name listed => ?_
    obtain ⟨spared, unaliased⟩ := beside name listed
    have shown := (Edit.Change.same_shownAt_of_spares mapping ran spared unaliased).trans
      (Edit.same_shownAt same [name.toList])
    rwa [shownAt_eq mapping, shownAt_eq mappingAgain] at shown
  · exact passes.of_same current fun name _ => sameSetting_of_same same name

/-- A harmless change leaves a healthy file. -/
theorem Healthy.carryOut (healthy : Healthy environment file tree) (placed : Editor.Placed { file })
    (harmless : ∀ document edited, readDocument tree file = .ok document →
      change.run document = .ok (some edited) →
        Harmless environment tree file document change edited)
    (carried : Editor.carryOut { file } tree change = .ok after) :
    Healthy environment file after ∧ after.current = tree.current := by
  rw [Editor.carryOut_eq] at carried
  obtain ⟨document, read, carried⟩ := ok_of_bind carried
  obtain ⟨outcome, ran, written⟩ := ok_of_bind carried
  rcases outcome with - | edited
  · cases written
    exact ⟨healthy, rfl⟩
  · have harmless := harmless document edited read ran
    obtain ⟨time, stored⟩ := Editor.stored_of_write placed written
    obtain ⟨again, readAgain, same⟩ := Editor.read_of_write placed harmless.readsBack written
    have current : after.current = tree.current := Editor.current_of_write placed written
    refine ⟨.stored stored readAgain fun check => ?_, current⟩
    exact harmless.passes_again (isMapping_readDocument read) ran same
      (isMapping_readDocument readAgain) current (healthy.passes read) check

/-- A log beside the settings file is beside it after a change. -/
theorem LogBeside.carryOut (beside : LogBeside settings file tree) (placed : Editor.Placed { file })
    (carried : Editor.carryOut { file } tree change = .ok after) : LogBeside settings file after := by
  intro log logged
  obtain ⟨resolved, elsewhere, there⟩ := beside log logged
  refine ⟨resolved, elsewhere, ?_⟩
  rw [Editor.carryOut_eq] at carried
  obtain ⟨document, -, carried⟩ := ok_of_bind carried
  obtain ⟨outcome, -, written⟩ := ok_of_bind carried
  rcases outcome with - | edited
  · cases written
    exact there
  · obtain ⟨time, stored⟩ := Editor.stored_of_write placed written
    exact ⟨_, time, stored⟩

/-! ## One attempt after the other -/

/-- An attempt to edit a settings file that is successful. -/
structure Successful (environment : Environment) (file : Path) (tree : Tree) (attempt : Attempt) :
    Prop where
  edits : attempt.wish?.isSome = true
  located : locate environment tree attempt.asked = .ok file
  succeeds : attempt.Succeeds environment tree

/-- An attempt makes no change of the settings file but a harmless one. -/
def Careful (environment : Environment) (file : Path) (tree : Tree) (attempt : Attempt) : Prop :=
  ∀ change document edited, attempt.wish?.bind Wish.change? = some change →
    readDocument tree file = .ok document → change.run document = .ok (some edited) →
      Harmless environment tree file document change edited

/-- The files after several attempts. -/
def afterAll (environment : Environment) (tree : Tree) (attempts : List Attempt) : Tree :=
  attempts.foldl (fun reached attempt => attempt.after environment reached) tree

/-- Something holds of every attempt when its turn has come. -/
def Throughout (environment : Environment) (holds : Tree → Attempt → Prop) :
    Tree → List Attempt → Prop
  | _, [] => True
  | tree, attempt :: rest =>
      holds tree attempt ∧ Throughout environment holds (attempt.after environment tree) rest

/-- An attempt is careful if the one change that it makes is harmless. -/
theorem careful_of_run (wanted : attempt.wish?.bind Wish.change? = some change)
    (found : readDocument tree file = .ok document) (made : change.run document = .ok (some edited))
    (harmless : Harmless environment tree file document change edited) :
    Careful environment file tree attempt := by
  intro change document edited wish present ran
  rw [wanted] at wish
  cases wish
  rw [found] at present
  cases present
  rw [made] at ran
  cases ran
  exact harmless

theorem Harmless.of_current (harmless : Harmless environment tree file document change edited)
    (current : after.current = tree.current) :
    Harmless environment after file document change edited where
  readsBack := harmless.readsBack
  passes := fun check => (harmless.passes check).imp_right fun passes =>
    passes.of_same current fun name _ => sameSetting_of_same (.refl edited) name

/-- A careful attempt that succeeds leaves a healthy file. -/
theorem Healthy.after_attempt (healthy : Healthy environment file tree) (placed : Editor.Placed { file })
    (grounded : Grounded environment tree none)
    (successful : Successful environment file tree attempt)
    (careful : Careful environment file tree attempt) :
    Healthy environment file (attempt.after environment tree) ∧
      (attempt.after environment tree).current = tree.current := by
  obtain ⟨wish, wished⟩ := Option.isSome_iff_exists.mp successful.edits
  obtain ⟨settings, ready, text, loaded, opened, applied, ended⟩ :=
    Attempt.applied_of_succeeds wished successful.succeeds
  have beside := healthy.logBeside placed grounded successful.located loaded
  obtain ⟨healthyReady, current, same, besideReady⟩ := healthy.opened placed beside opened
  rw [file_of_load successful.located loaded] at applied ended
  have carried := Wish.tree_of_apply applied
  cases changes : wish.change? with
  | none =>
      rw [changes] at carried
      rw [carried] at ended
      obtain ⟨kept, still⟩ := healthyReady.closed placed besideReady ended
      exact ⟨kept, still.trans current⟩
  | some change =>
      rw [changes] at carried
      have wanted : attempt.wish?.bind Wish.change? = some change := by
        rw [wished, Option.bind_some, changes]
      obtain ⟨edited, edits⟩ := healthyReady.carryOut placed (fun document edited read ran =>
        (careful change document edited wanted ((readDocument_congr same).symm.trans read)
          ran).of_current current) carried
      obtain ⟨kept, still⟩ := edited.closed placed (besideReady.carryOut placed carried) ended
      exact ⟨kept, still.trans (edits.trans current)⟩

/-- Careful attempts that succeed, one after the other, leave a healthy file. -/
theorem Healthy.after_attempts {attempts : List Attempt} (healthy : Healthy environment file tree)
    (placed : Editor.Placed { file }) (grounded : Grounded environment tree none)
    (successful : Throughout environment (Successful environment file) tree attempts)
    (careful : Throughout environment (Careful environment file) tree attempts) :
    Healthy environment file (afterAll environment tree attempts) := by
  induction attempts generalizing tree with
  | nil => exact healthy
  | cons attempt rest inductionHypothesis =>
      obtain ⟨healthyAfter, current⟩ :=
        healthy.after_attempt placed grounded successful.1 careful.1
      refine inductionHypothesis healthyAfter ?_ successful.2 careful.2
      exact ⟨current ▸ grounded.current, grounded.home, grounded.homes, grounded.asked⟩

/-- Nobody is locked out by careful edits.  If settings have been loaded, and the log is not
the settings file itself, settings are loaded again after any number of attempts to edit the
file that are successful and careful. -/
theorem load_after_attempts {attempts : List Attempt} {next : Option Path}
    (placed : Editor.Placed { file }) (grounded : Grounded environment tree none)
    (located : locate environment tree asked = .ok file)
    (loaded : load environment tree asked = .ok settings) (elsewhere : settings.logFile ≠ some file)
    (successful : Throughout environment (Successful environment file) tree attempts)
    (careful : Throughout environment (Careful environment file) tree attempts)
    (leads : locate environment (afterAll environment tree attempts) next = .ok file) :
    ∃ again, load environment (afterAll environment tree attempts) next = .ok again :=
  ((healthy_of_load located loaded elsewhere).after_attempts placed grounded successful careful).load leads

/-- A request that gives a setting a number. -/
def requestToSet (name number : String) : Attempt :=
  .byRequest lonelyPath {
    method := "POST".toList
    path := "/update-config".toList
    body := ("\x7b\x22operation\x22: \x22set\x22, \x22key\x22: \x22" ++ name ++
      "\x22, \x22value\x22: " ++ number ++ "\x7d").toList }

/-- A settings file that limits the levels of importing files. -/
def shallowFile : Tree :=
  lonelyFile (Utf8.encode "reference_depth: 5\n".toList)

/-- Its document, and one with a note beside the number of levels. -/
def shallow (depth : Int) (notes : List (Value × Value)) (vacant : Nat) : Document where
  objects := (.mapping ((.str "reference_depth".toList, .int depth) :: notes) ::
    List.replicate vacant .vacant).toArray
  root := .ref 0

/-- A note. -/
def oneNote : List (Value × Value) := [(.str "note".toList, .int 1)]

/-- The files after a request for a note. -/
def notedFile : Tree := (requestToSet "note" "1").after nobodyHome shallowFile

theorem object_shallow {depth : Int} {notes : List (Value × Value)} {vacant : Nat} (id : Nat) :
    (shallow depth notes vacant).object id =
      if id = 0 then .mapping ((.str "reference_depth".toList, .int depth) :: notes) else .vacant := by
  cases id with
  | zero => rfl
  | succ id => by_cases within : id < vacant <;> simp [Document.object, shallow, within]

/-- No value of the document is a reference. -/
theorem unshared_shallow (vacant : Nat) : (shallow 5 [] vacant).Unshared := by
  have held (holder id : Nat) : Value.ref id ∉ ((shallow 5 [] vacant).object holder).parts := by
    rw [object_shallow]
    split
    · simp [Object.parts]
    · exact List.not_mem_nil
  exact ⟨fun id _ holder => held holder id, fun id first second position another there _ =>
    absurd (List.mem_of_getElem? there) (held first id)⟩

/-- A request for a note is careful: no check looks at notes. -/
theorem careful_note : Careful nobodyHome lonelyPath shallowFile (requestToSet "note" "1") := by
  have wanted : (requestToSet "note" "1").wish?.bind Wish.change? =
      some (.set "note".toList { root := .int 1 }) := by decide +kernel
  have found : readDocument shallowFile lonelyPath = .ok (shallow 5 [] 2) := by decide +kernel
  have made : Edit.Change.run (shallow 5 [] 2) (.set "note".toList { root := .int 1 }) =
      .ok (some (shallow 5 oneNote 2)) := by decide +kernel
  have read : interpret [] (shallow 5 oneNote 2).render.unifyNewlines =
      .ok (shallow 5 oneNote 4) := by decide +kernel
  have spared : ∀ check ∈ Check.order, ∀ name ∈ check.names,
      Edit.Change.Spares (shallow 5 [] 2) (.set "note".toList { root := .int 1 })
        [name.toList] := by decide +kernel
  refine careful_of_run wanted found made ⟨fun name => ⟨_, interpret_congr read, ?_⟩, fun check => ?_⟩
  · exact Document.same_of_objects rfl fun id => by rw [object_shallow, object_shallow]
  · refine Or.inl fun name listed => ?_
    have apart := spared check (by cases check <;> decide) name listed
    exact ⟨apart, Edit.Change.unaliased_of_unshared (unshared_shallow 2)
      (isMapping_readDocument found) made apart⟩

theorem passes_shallow (check : Check) :
    check.Passes environment tree file (shallow 2 oneNote 4) := by
  cases check with
  | depth =>
      refine ⟨fun why fails => ?_, fun other => nomatch other⟩
      cases fails with
      | depth small => exact absurd small (by decide)
  | _ => exact Check.passes_of_absent (by decide)

/-- A request for fewer levels is careful: what it makes passes all checks. -/
theorem careful_shallow :
    Careful nobodyHome lonelyPath notedFile (requestToSet "reference_depth" "2") := by
  have wanted : (requestToSet "reference_depth" "2").wish?.bind Wish.change? =
      some (.set "reference_depth".toList { root := .int 2 }) := by decide +kernel
  have found : readDocument notedFile lonelyPath = .ok (shallow 5 oneNote 4) := by decide +kernel
  have made : Edit.Change.run (shallow 5 oneNote 4)
      (.set "reference_depth".toList { root := .int 2 }) = .ok (some (shallow 2 oneNote 4)) := by
    decide +kernel
  have read : interpret [] (shallow 2 oneNote 4).render.unifyNewlines =
      .ok (shallow 2 oneNote 4) := by decide +kernel
  exact careful_of_run wanted found made
    ⟨fun name => ⟨_, interpret_congr read, .refl _⟩, fun check => Or.inr (passes_shallow check)⟩

/-- After a request for a note and one for fewer levels the settings are loaded again. -/
theorem load_after_request : ∃ again,
    load nobodyHome (afterAll nobodyHome shallowFile
      [requestToSet "note" "1", requestToSet "reference_depth" "2"]) none = .ok again := by
  have grounded : Grounded nobodyHome shallowFile none := {
    current := ⟨rfl, by decide⟩
    home := ⟨rfl, by decide⟩
    homes := fun entry listed => absurd listed List.not_mem_nil
    asked := fun path asked => nomatch asked }
  have located : locate nobodyHome shallowFile none = .ok lonelyPath := rfl
  have loads : (load nobodyHome shallowFile none).map Settings.logFile = .ok none := by
    decide +kernel
  obtain ⟨settings, loaded, unlogged⟩ := map_eq_ok_iff.mp loads
  have elsewhere : settings.logFile ≠ some lonelyPath := by simp [unlogged]
  have first : Successful nobodyHome lonelyPath shallowFile (requestToSet "note" "1") :=
    ⟨by decide +kernel, rfl, by decide +kernel⟩
  have second : Successful nobodyHome lonelyPath notedFile (requestToSet "reference_depth" "2") :=
    ⟨by decide +kernel, by decide +kernel, by decide +kernel⟩
  exact load_after_attempts Editor.lonelyEditor_placed grounded located loaded elsewhere
    ⟨first, second, trivial⟩ ⟨careful_note, careful_shallow, trivial⟩ (by decide +kernel)

/-- A request for a number of levels that is not admitted is successful, and afterwards the
settings are refused, and with them the request that would put them right. -/
theorem load_after_request_refused :
    (load nobodyHome Editor.bareFolder none).isOk = true ∧
    Throughout nobodyHome (Successful nobodyHome lonelyPath) Editor.bareFolder
      [requestToSet "reference_depth" "-5"] ∧
    load nobodyHome (afterAll nobodyHome Editor.bareFolder [requestToSet "reference_depth" "-5"])
      none = .error (.refused .depthTooSmall) ∧
    ¬ (requestToSet "reference_depth" "2").Succeeds nobodyHome
      (afterAll nobodyHome Editor.bareFolder [requestToSet "reference_depth" "-5"]) :=
  ⟨by decide +kernel, ⟨⟨by decide +kernel, rfl, by decide +kernel⟩, trivial⟩, by decide +kernel,
    by decide +kernel⟩

end Settings
end Codemap
