import Codemap.Proofs.Bundle.Chosen
import Codemap.Proofs.Bundle.Isolation
import Codemap.Proofs.Files.Directory
import Mathlib.Data.List.Duplicate
import Mathlib.Data.List.Lattice
import Mathlib.Data.List.Nodup
import Mathlib.Data.List.Pairwise

namespace Codemap

namespace Bundle

/-!
# How often a directory is chosen

Each configured directory chooses itself or some of the directories in it, and what it chooses
it chooses once, however many terms fit.  But the choices of different configured directories
are put one after the other as they are.  So a directory is described twice if one that chooses
it is configured twice, or if it is configured itself and the directory it lies in is configured
as well and has another name than asked for.
-/

open Codemap.Tree

variable {settings : Settings} {tree : Tree} {configured directory path : Path} {terms : List Text}
  {directories : List Path}

/-- A configured directory chooses itself if its name matches, and otherwise the visible
directories in it whose names do. -/
inductive Chooses (tree : Tree) (terms : List Text) (configured : Path) : Path → Prop
  | itself {children : List (Text × Entry)}
      (there : tree.status configured = .ok (some (.directory children)))
      (fits : nameMatches terms configured.name = true) : Chooses tree terms configured configured
  | below {children others : List (Text × Entry)} {name : Text}
      (there : tree.status configured = .ok (some (.directory children)))
      (misfits : nameMatches terms configured.name = false)
      (present : (name, .directory others) ∈ children) (visible : name.head? ≠ some '.')
      (fits : nameMatches terms name = true) : Chooses tree terms configured (configured.child name)

/-! ## The choice of one configured directory -/

theorem child_injective (directory : Path) : Function.Injective directory.child := by
  intro name other same
  have names : directory.names ++ [name] = directory.names ++ [other] := congrArg Path.names same
  exact List.singleton_inj.mp (List.append_cancel_left names)

theorem mem_chosenBelow {children : List (Text × Entry)} :
    path ∈ chosenBelow terms directory children ↔
      ∃ name others, (name, .directory others) ∈ children ∧ name.head? ≠ some '.' ∧
        nameMatches terms name = true ∧ directory.child name = path := by
  rw [chosenBelow]
  constructor
  · intro member
    obtain ⟨name, listed, rfl⟩ := List.mem_map.mp member
    obtain ⟨⟨_, entry⟩, kept, rfl⟩ := List.mem_map.mp (Text.mem_sort.mp listed)
    obtain ⟨present, kind⟩ := List.mem_filter.mp kept
    simp only [Bool.and_eq_true, bne_iff_ne] at kind
    cases entry with
    | file content changed => cases kind.1.1
    | directory others => exact ⟨_, others, present, kind.1.2, kind.2, rfl⟩
  · rintro ⟨name, others, present, visible, fits, rfl⟩
    refine List.mem_map_of_mem (Text.mem_sort.mpr ?_)
    refine List.mem_map.mpr ⟨(name, .directory others), List.mem_filter.mpr ⟨present, ?_⟩, rfl⟩
    simp [Entry.isDirectory, visible, fits]

/-- What is chosen for a configured directory is what it chooses. -/
theorem mem_chosenFor {chosen : List Path} (found : chosenFor tree terms configured = .ok chosen) :
    path ∈ chosen ↔ Chooses tree terms configured path := by
  rw [chosenFor] at found
  split at found
  · cases found
  · next children there =>
      split at found
      · next fits =>
          cases found
          rw [List.mem_singleton]
          constructor
          · rintro rfl
            exact .itself there fits
          · intro chooses
            cases chooses with
            | itself _ _ => rfl
            | below _ misfits _ _ _ => exact absurd fits (by simp [misfits])
      · next misfits =>
          cases found
          rw [mem_chosenBelow]
          constructor
          · rintro ⟨name, others, present, visible, fits, rfl⟩
            exact .below there (by simpa using misfits) present visible fits
          · intro chooses
            cases chooses with
            | itself _ fits => exact absurd fits misfits
            | below other _ present visible fits =>
                cases there.symm.trans other
                exact ⟨_, _, present, visible, fits, rfl⟩
  · next noDirectory there =>
      cases found
      refine iff_of_false List.not_mem_nil fun chooses => ?_
      cases chooses with
      | itself other _ => exact noDirectory _ (Except.ok.inj (there.symm.trans other))
      | below other _ _ _ _ => exact noDirectory _ (Except.ok.inj (there.symm.trans other))

/-- A configured directory chooses nothing twice. -/
theorem nodup_chosenFor (lawful : Walk.LawfulAt tree configured)
    {chosen : List Path} (found : chosenFor tree terms configured = .ok chosen) : chosen.Nodup := by
  rw [chosenFor] at found
  split at found
  · cases found
  · next children there =>
      split at found
      · cases found
        exact List.nodup_singleton _
      · cases found
        have once := Entry.children_nodup (lawful _ (entry_of_status there))
        refine List.Nodup.map (child_injective configured) ?_
        refine (List.mergeSort_perm _ _).nodup_iff.mpr ?_
        exact once.sublist (List.filter_sublist.map _)
  · cases found
    exact List.nodup_nil

/-- A directory that a configured one chooses would choose itself if it were configured. -/
theorem Chooses.again (resolved : configured.Resolved) (lawful : Walk.LawfulAt tree configured)
    (chooses : Chooses tree terms configured path) : Chooses tree terms path path := by
  cases chooses with
  | itself there fits => exact .itself there fits
  | @below children others name there _ present _ fits =>
      have searched := searched_of_status resolved lawful there
      have inside := at?_of_entry resolved.plain (entry_of_status there)
      obtain ⟨further, entry⟩ := (searched.child inside present).entry
      have status : tree.status (configured.child name) = .ok (some (.directory further)) := by
        rw [Tree.status, entry]
      exact .itself status (by rwa [Tree.name_child])

/-- Two configured directories that choose the same one are the same, or one of them is what the
other chooses. -/
theorem Chooses.eq_or {other : Path} (chooses : Chooses tree terms configured path)
    (chooses' : Chooses tree terms other path) :
    configured = other ∨ configured = path ∨ other = path := by
  cases chooses with
  | itself _ _ => exact Or.inr (Or.inl rfl)
  | @below _ _ name _ _ _ _ _ =>
      generalize same : configured.child name = path at chooses'
      cases chooses' with
      | itself _ _ => exact Or.inr (Or.inr rfl)
      | below _ _ _ _ _ =>
          left
          obtain ⟨root, names⟩ := configured
          obtain ⟨root', names'⟩ := other
          obtain ⟨rfl, same⟩ := Path.mk.inj same
          have names : names = names' := (List.append_inj' same rfl).1
          rw [names]

/-! ## The choices of all of them -/

/-- What a configured directory chooses; nothing if no file system takes its path. -/
def choice (tree : Tree) (terms : List Text) (configured : Path) : List Path :=
  match chosenFor tree terms configured with
  | .ok chosen => chosen
  | .error _ => []

theorem eq_flatMap_choice {values : List Path} {lists : List (List Path)}
    (ended : values.mapM (chosenFor tree terms) = .ok lists) :
    lists.flatten = values.flatMap (choice tree terms) ∧
      ∀ configured ∈ values, chosenFor tree terms configured = .ok (choice tree terms configured) := by
  induction values generalizing lists with
  | nil =>
      cases ended
      exact ⟨rfl, fun _ member => absurd member List.not_mem_nil⟩
  | cons configured rest inductionHypothesis =>
      rw [List.mapM_cons] at ended
      obtain ⟨chosen, first, ended⟩ := ok_of_bind ended
      obtain ⟨others, later, ended⟩ := ok_of_bind ended
      cases ended
      have here : choice tree terms configured = chosen := by rw [choice, first]
      obtain ⟨flat, each⟩ := inductionHypothesis later
      rw [List.flatten_cons, List.flatMap_cons, here, flat]
      exact ⟨rfl, List.forall_mem_cons.mpr ⟨by rw [here, first], each⟩⟩

/-- The directories that are chosen are those that the configured ones choose, in their order. -/
structure Gathered (settings : Settings) (tree : Tree) (terms : List Text) (directories : List Path) :
    Prop where
  flat : directories = settings.searchable.flatMap (choice tree (usableTerms terms))
  chooses : ∀ configured ∈ settings.searchable, ∀ path, path ∈ choice tree (usableTerms terms) configured ↔
    Chooses tree (usableTerms terms) configured path
  once : ∀ configured ∈ settings.searchable, (choice tree (usableTerms terms) configured).Nodup

theorem not_chooses_nil : ¬ Chooses tree [] configured path := by
  intro chooses
  cases chooses with
  | itself _ fits => cases fits
  | below _ _ _ _ fits => cases fits

/-- Without terms nothing is chosen. -/
theorem choice_nil : choice tree [] configured = [] := by
  rw [choice]
  split
  · next chosen found =>
      rw [List.eq_nil_iff_forall_not_mem]
      exact fun path member => not_chooses_nil ((mem_chosenFor found).mp member)
  · rfl

theorem gathered_of_select (lawful : tree.Lawful)
    (chosen : select settings tree terms = .ok directories) :
    Gathered settings tree terms directories := by
  rw [select] at chosen
  split at chosen
  · next empty =>
      cases chosen
      have none : usableTerms terms = [] := List.isEmpty_iff.mp empty
      refine ⟨?_, fun configured _ path => ?_, fun configured _ => ?_⟩
      · rw [none]
        exact (List.flatMap_eq_nil_iff.mpr fun configured _ => choice_nil).symm
      · rw [none, choice_nil]
        exact iff_of_false List.not_mem_nil not_chooses_nil
      · rw [none, choice_nil]
        exact List.nodup_nil
  · obtain ⟨lists, ended, rfl⟩ := map_eq_ok_iff.mp chosen
    obtain ⟨flat, each⟩ := eq_flatMap_choice ended
    exact ⟨flat, fun configured member path => mem_chosenFor (each configured member),
      fun configured member =>
        nodup_chosenFor (Walk.lawfulAt_of_lawful lawful configured) (each configured member)⟩

/-- A value is counted once for each list that has it, if no list has it twice. -/
theorem count_flatMap_of_nodup {values : List Path} {lists : Path → List Path}
    {has : Path → Bool} (each : ∀ value ∈ values, (lists value).Nodup ∧
      (path ∈ lists value ↔ has value = true)) :
    (values.flatMap lists).count path = values.countP has := by
  induction values with
  | nil => rfl
  | cons value rest inductionHypothesis =>
      obtain ⟨⟨once, here⟩, later⟩ := List.forall_mem_cons.mp each
      rw [List.flatMap_cons, List.count_append, inductionHypothesis later, List.countP_cons,
        List.Nodup.count once, Nat.add_comm]
      congr 1
      exact if_congr here rfl rfl

/-- Nothing is chosen twice exactly if every directory that chooses something is configured once,
and none of them chooses another configured one. -/
theorem Gathered.nodup_iff (gathered : Gathered settings tree terms directories)
    (resolved : ∀ configured ∈ settings.searchable, configured.Resolved) (lawful : tree.Lawful) :
    directories.Nodup ↔ ∀ configured ∈ settings.searchable, ∀ path,
      Chooses tree (usableTerms terms) configured path →
        settings.searchable.count configured = 1 ∧
          (path ∈ settings.searchable → path = configured) := by
  rw [gathered.flat, List.nodup_flatMap, and_iff_right gathered.once]
  constructor
  · intro apart configured member path chooses
    have listed := (gathered.chooses configured member path).mpr chooses
    constructor
    · have present : 0 < settings.searchable.count configured := List.count_pos_iff.mpr member
      by_contra several
      have twice : [configured, configured].Sublist settings.searchable :=
        List.replicate_sublist_iff.mpr (show 2 ≤ settings.searchable.count configured by omega)
      exact List.rel_of_pairwise_cons (apart.sublist twice) (List.mem_singleton_self _) listed listed
    · intro inside
      by_contra differ
      have again := chooses.again (resolved configured member) (Walk.lawfulAt_of_lawful lawful _)
      have symmetric : Std.Symm (Function.onFun List.Disjoint (choice tree (usableTerms terms))) :=
        ⟨fun _ _ disjoint => disjoint.symm⟩
      exact apart.forall inside member differ ((gathered.chooses path inside path).mpr again) listed
  · intro each
    rw [List.pairwise_iff_forall_sublist]
    intro first second both path inFirst inSecond
    have firstThere : first ∈ settings.searchable := both.mem (by simp)
    have secondThere : second ∈ settings.searchable := both.mem (by simp)
    have chooses := (gathered.chooses first firstThere path).mp inFirst
    have chooses' := (gathered.chooses second secondThere path).mp inSecond
    obtain ⟨once, firstAlone⟩ := each first firstThere path chooses
    obtain ⟨_, secondAlone⟩ := each second secondThere path chooses'
    have same : first = second := by
      rcases chooses.eq_or chooses' with same | rfl | rfl
      · exact same
      · exact secondAlone firstThere
      · exact (firstAlone secondThere).symm
    subst same
    have twice : 2 ≤ settings.searchable.count first := List.replicate_sublist_iff.mp both
    omega

open Classical in
/-- A directory is described once for each configured directory that chooses it.  So none is
described twice exactly if every directory that chooses something is configured once, and none of
them chooses another configured one. -/
theorem described_once_iff {surroundings : Environment} {project : Tree} {asked : Option Path}
    (grounded : Settings.Grounded surroundings project asked)
    (accepted : Settings.load surroundings project asked = .ok settings) (lawful : tree.Lawful)
    (environment : Environment) (request : Request)
    (chosen : select settings tree request.terms = .ok directories) :
    let described := (moments environment settings request tree directories).map Moment.directory
    let chooses := Chooses tree (usableTerms request.terms)
    (∀ path, described.count path =
        settings.searchable.countP fun configured => decide (chooses configured path)) ∧
      (described.Nodup ↔ ∀ configured ∈ settings.searchable, ∀ path, chooses configured path →
        settings.searchable.count configured = 1 ∧
          (path ∈ settings.searchable → path = configured)) := by
  have gathered := gathered_of_select lawful chosen
  dsimp only
  rw [moments_directory]
  refine ⟨fun path => ?_, gathered.nodup_iff (Settings.resolved_load grounded accepted).2 lawful⟩
  rw [gathered.flat]
  refine count_flatMap_of_nodup fun configured member => ⟨gathered.once configured member, ?_⟩
  rw [gathered.chooses configured member, decide_eq_true_iff]

/-- A project that is searched together with a directory in it. -/
def nestedProject : Tree where
  root := .directory
    [("shop".toList, .directory
      [("localctx.yml".toList, .file (Utf8.encode "searchable_directories: [., lib]\n".toList) 1),
        ("lib".toList, .directory []), ("old".toList, .directory [])])]
  current := { names := ["shop".toList] }

/-- The settings that its settings file makes. -/
def nestedSettings : Settings where
  root := { names := ["shop".toList] }
  file := { names := ["shop".toList, "localctx.yml".toList] }
  base := { names := ["shop".toList] }
  searchable := [{ names := ["shop".toList] }, { names := ["shop".toList, "lib".toList] }]
  cacheDirectory := { names := ["shop".toList] ++ Settings.defaultCache }

theorem nestedSettings_load :
    Settings.load { home := { names := [] } } nestedProject none = .ok nestedSettings := by
  decide +kernel

/-- What one of its directories is asked for by is described once. -/
theorem nestedSettings_described_once :
    ((moments { home := { names := [] } } nestedSettings { terms := ["old".toList] } nestedProject
        [{ names := ["shop".toList, "old".toList] }]).map Moment.directory).Nodup ↔
      ∀ configured ∈ nestedSettings.searchable, ∀ path,
        Chooses nestedProject (usableTerms ["old".toList]) configured path →
          nestedSettings.searchable.count configured = 1 ∧
            (path ∈ nestedSettings.searchable → path = configured) := by
  have grounded : Settings.Grounded { home := { names := [] } } nestedProject none :=
    { current := ⟨rfl, by decide⟩
      home := ⟨rfl, by decide⟩
      homes := fun _ member => absurd member List.not_mem_nil
      asked := fun _ none => nomatch none }
  exact (described_once_iff grounded nestedSettings_load (by decide) { home := { names := [] } }
    { terms := ["old".toList] } (by decide +kernel)).2

/-- A directory that is configured beside the project it lies in is chosen twice. -/
theorem nestedSettings_chosen_twice :
    Settings.load { home := { names := [] } } nestedProject none = .ok nestedSettings ∧
      ∃ directories, select nestedSettings nestedProject ["lib".toList] = .ok directories ∧
        directories.count { names := ["shop".toList, "lib".toList] } = 2 :=
  ⟨nestedSettings_load,
    [{ names := ["shop".toList, "lib".toList] }, { names := ["shop".toList, "lib".toList] }],
    by decide +kernel, by decide⟩

end Bundle
end Codemap
