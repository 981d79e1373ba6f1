import Codemap.Proofs.Bundle.Twin
import Codemap.Proofs.Settings.Places

namespace Codemap

namespace Bundle

/-!
# Choosing directories

The directories of the settings are written out in full.  What is chosen is one of them
or one of their children, and it is there.  Hidden files do not change what is chosen: a
path that leads to a hidden file or beyond leads to no directory.  If their directory has
been made in the meantime, a configured path may now have a name that is too long.
-/

open Codemap.Tree

variable {settings : Settings} {tree left right : Tree} {directory : Path} {place : List Text}
  {hidden : Text → Bool} {terms : List Text}

/-! ## What is chosen is there -/

/-- A directory that is there and lawful can be searched. -/
theorem searched_of_status (resolved : directory.Resolved) (lawful : Walk.LawfulAt tree directory)
    {children : List (Text × Entry)} (status : tree.status directory = .ok (some (.directory children))) :
    Searched tree directory := by
  have found := entry_of_status status
  have there := at?_of_entry resolved.plain found
  exact ⟨resolved.root, named_of_entry resolved.plain resolved.legible found, ⟨children, there⟩,
    lawful⟩

/-- A child of such a directory can be searched as well. -/
theorem Searched.child (searched : Searched tree directory) {children others : List (Text × Entry)}
    {name : Text} (there : tree.root.at? directory.names = some (.directory children))
    (member : (name, .directory others) ∈ children) : Searched tree (directory.child name) := by
  have entry := entry_of_at? searched.rooted searched.named there
  have lawful := searched.lawful _ entry
  have looked := Entry.look?_of_mem (Entry.children_nodup lawful) member
  obtain ⟨named, childLawful⟩ := Entry.isLawful_of_look? lawful looked
  have allNamed : ∀ other ∈ (directory.child name).names, isName other = true := by
    rw [Path.child, List.forall_mem_append, List.forall_mem_singleton]
    exact ⟨searched.named, named⟩
  have found : tree.root.at? (directory.child name).names = some (.directory others) := by
    rw [Path.child, Entry.at?_concat, there]
    exact looked
  have rooted : (directory.child name).isAbsolute = true := searched.rooted
  refine ⟨searched.root, allNamed, ⟨others, found⟩, fun entry leads => ?_⟩
  rw [entry_of_at? rooted allNamed found] at leads
  cases leads
  exact childLawful

/-- What is chosen for a configured directory is there and lies at or below it. -/
theorem searched_of_chosenFor (resolved : directory.Resolved)
    (lawful : Walk.LawfulAt tree directory) {chosen : List Path}
    (found : chosenFor tree terms directory = .ok chosen) :
    ∀ path ∈ chosen, Searched tree path ∧ directory.names <+: path.names := by
  rw [chosenFor] at found
  split at found
  · cases found
  · next children status =>
      have searched := searched_of_status resolved lawful status
      split at found
      · cases found
        intro path member
        rw [List.mem_singleton.mp member]
        exact ⟨searched, List.prefix_refl _⟩
      · cases found
        intro path member
        obtain ⟨name, listed, rfl⟩ := List.mem_map.mp member
        obtain ⟨⟨_, child⟩, kept, rfl⟩ := List.mem_map.mp (Text.mem_sort.mp listed)
        obtain ⟨present, visible⟩ := List.mem_filter.mp kept
        have there := at?_of_entry resolved.plain (entry_of_status status)
        cases child with
        | file content changed => simp [Entry.isDirectory] at visible
        | directory others => exact ⟨searched.child there present, List.prefix_append _ _⟩
  · cases found
    exact fun path member => absurd member List.not_mem_nil

/-- What is chosen is there, and lies at or below a configured directory. -/
theorem searched_of_select (resolved : ∀ configured ∈ settings.searchable, configured.Resolved)
    (lawful : ∀ configured ∈ settings.searchable, Walk.LawfulAt tree configured)
    {directories : List Path} (chosen : select settings tree terms = .ok directories) :
    ∀ path ∈ directories, Searched tree path ∧
      ∃ configured ∈ settings.searchable, configured.names <+: path.names := by
  rw [select] at chosen
  split at chosen
  · cases chosen
    exact fun path member => absurd member List.not_mem_nil
  · cases each : settings.searchable.mapM (chosenFor tree (usableTerms terms)) with
    | error why =>
        rw [each] at chosen
        cases chosen
    | ok lists =>
        rw [each] at chosen
        cases chosen
        intro path member
        obtain ⟨list, listed, inside⟩ := List.mem_flatten.mp member
        obtain ⟨configured, present, found⟩ := ok_of_mapM each list listed
        obtain ⟨searched, below⟩ := searched_of_chosenFor (resolved configured present)
          (lawful configured present) found path inside
        exact ⟨searched, configured, present, below⟩

/-! ## Hidden files do not change what is chosen -/

/-- A fault because of a name that is too long. -/
def SelectionFault.IsLong (why : SelectionFault) : Prop :=
  why.why = .nameTooLong

/-- What is chosen for a directory depends on what is seen along its path and on what stands
where its names say. -/
theorem chosenFor_eq_glimpse (plain : Plain directory) (terms : List Text) :
    chosenFor tree terms directory = match tree.glimpse [] directory.names with
      | .error why => .error ⟨why, directory.text⟩
      | .ok (some none) =>
          .ok (if nameMatches terms directory.name then [directory]
            else chosenBelow terms directory
              (((tree.root.at? directory.names).map Entry.children).getD []))
      | .ok _ => .ok [] := by
  rw [chosenFor, ← plain.sight_eq, sight]
  cases status : tree.status directory with
  | error why => rfl
  | ok found =>
      cases found with
      | none => rfl
      | some entry =>
          cases entry with
          | file content changed => rfl
          | directory children =>
              simp only [Except.map, Option.map_some, Entry.leaf,
                at?_of_entry plain (entry_of_status status),
                Entry.children, Option.getD_some]
              split <;> rfl

theorem chosenFor_of_noDirectory (plain : Plain directory)
    {found : Option (Option (Bytes × Int))} (seen : tree.glimpse [] directory.names = .ok found)
    (noDirectory : found ≠ some none) : chosenFor tree terms directory = .ok [] := by
  rw [chosenFor_eq_glimpse plain, seen]
  cases found with
  | none => rfl
  | some leaf =>
      cases leaf with
      | some file => rfl
      | none => exact absurd rfl noDirectory

variable {mayMake : Prop}

/-- The same is chosen for a directory that is seen again, if the same is chosen below it; and
nothing is chosen for one that is seen for the first time, if it does not matter to the terms. -/
theorem chosenFor_repeats_of_sees (plain : Plain directory)
    (sees : Sees mayMake (left.glimpse [] directory.names) (right.glimpse [] directory.names))
    (again : ∀ children others, left.root.at? directory.names = some (.directory children) →
      right.root.at? directory.names = some (.directory others) →
        chosenBelow terms directory children = chosenBelow terms directory others)
    (made : ∀ others, left.root.at? directory.names = none →
      right.root.at? directory.names = some (.directory others) →
        nameMatches terms directory.name = false ∧ chosenBelow terms directory others = []) :
    Repeats mayMake SelectionFault.IsLong Eq (chosenFor left terms directory)
      (chosenFor right terms directory) := by
  rw [chosenFor_eq_glimpse plain, chosenFor_eq_glimpse plain]
  generalize before : left.glimpse [] directory.names = early at sees
  generalize after : right.glimpse [] directory.names = late at sees
  cases sees with
  | same =>
      cases early with
      | error why => exact .error _
      | ok found =>
          cases found with
          | none => exact .ok rfl
          | some leaf =>
              cases leaf with
              | some file => exact .ok rfl
              | none =>
                  obtain ⟨children, here⟩ := directory_of_glimpse before
                  obtain ⟨others, there⟩ := directory_of_glimpse after
                  have same := again children others here there
                  rw [here, there]
                  refine .of_eq ?_
                  simp only [Option.map_some, Option.getD_some, Entry.children, same]
  | directory allowed =>
      obtain ⟨others, there⟩ := directory_of_glimpse after
      obtain ⟨unmatched, nothing⟩ := made others (missing_of_glimpse before) there
      rw [there]
      refine .of_eq ?_
      simp [unmatched, nothing, Entry.children]
  | tooLong allowed => exact .tooLong allowed rfl

theorem chosenFor_repeats (grown : Grown mayMake place hidden left right) (plain : Plain directory)
    (notAbove : ¬ directory.names <+: place) (terms : List Text) :
    Repeats mayMake SelectionFault.IsLong Eq (chosenFor left terms directory)
      (chosenFor right terms directory) := by
  rcases grown.glimpse [] directory.names with
    sees | ⟨_, early, late, before, after, notEarly, notLate⟩
  · -- A path that leads to a directory does not lead to a hidden file, so the same stands there.
    have stood {others : List (Text × Entry)}
        (there : right.root.at? directory.names = some (.directory others)) :
        left.root.at? directory.names = some (.directory others) :=
      (grown.elsewhere directory.names notAbove fun name isHidden same =>
        grown.rightFiles name isHidden others (same ▸ there)).trans there
    refine chosenFor_repeats_of_sees plain sees (fun children others here there => ?_)
      fun others missing there => ?_
    · rw [stood there] at here
      cases here
      rfl
    · rw [stood there] at missing
      cases missing
  · rw [chosenFor_of_noDirectory plain before notEarly, chosenFor_of_noDirectory plain after notLate]
    exact .ok rfl

/-- The subdirectories that are chosen are those that stand there under names that the terms
match. -/
theorem chosenBelow_eq {leftChildren rightChildren : List (Text × Entry)}
    (leftOnce : (leftChildren.map Prod.fst).Nodup) (rightOnce : (rightChildren.map Prod.fst).Nodup)
    (same : ∀ name, name.head? ≠ some '.' → nameMatches terms name = true →
      ((∃ below, Entry.look? leftChildren name = some (.directory below)) ↔
        ∃ below, Entry.look? rightChildren name = some (.directory below))) :
    chosenBelow terms directory leftChildren = chosenBelow terms directory rightChildren := by
  have chosen {children : List (Text × Entry)} (once : (children.map Prod.fst).Nodup) (name : Text) :
      name ∈ (children.filter fun child => child.2.isDirectory && child.1.head? != some '.' &&
          nameMatches terms child.1).map Prod.fst ↔
        (name.head? ≠ some '.' ∧ nameMatches terms name = true) ∧
          ∃ below, Entry.look? children name = some (.directory below) := by
    rw [List.mem_map]
    constructor
    · rintro ⟨⟨_, entry⟩, kept, rfl⟩
      obtain ⟨member, fits⟩ := List.mem_filter.mp kept
      simp only [Bool.and_eq_true, bne_iff_ne] at fits
      cases entry with
      | file content changed => cases fits.1.1
      | directory below => exact ⟨⟨fits.1.2, fits.2⟩, below, Entry.look?_of_mem once member⟩
    · rintro ⟨⟨visible, fits⟩, below, found⟩
      refine ⟨(name, .directory below), List.mem_filter.mpr ⟨Entry.mem_of_look? found, ?_⟩, rfl⟩
      simpa [Entry.isDirectory, fits] using visible
  have permutation : ((leftChildren.filter fun child => child.2.isDirectory &&
        child.1.head? != some '.' && nameMatches terms child.1).map Prod.fst).Perm
      ((rightChildren.filter fun child => child.2.isDirectory &&
        child.1.head? != some '.' && nameMatches terms child.1).map Prod.fst) := by
    refine (List.perm_ext_iff_of_nodup (leftOnce.sublist (List.filter_sublist.map Prod.fst))
      (rightOnce.sublist (List.filter_sublist.map Prod.fst))).mpr fun name => ?_
    rw [chosen leftOnce, chosen rightOnce]
    exact and_congr_right fun both => same name both.1 both.2
  rw [chosenBelow, chosenBelow, Text.sort_eq_of_perm permutation]

/-- Directories that a request may choose for a configured one: it itself, and its visible
subdirectories. -/
inductive Offered (directory : Path) : Path → Prop
  | itself : Offered directory directory
  | below {name : Text} (visible : name.head? ≠ some '.') : Offered directory (directory.child name)

/-- Below a directory above the hidden files the same is chosen, unless a directory that is made
on the way to them is one that the terms choose.  Before, the directory itself may be missing. -/
theorem chosenBelow_repeats (grown : Grown mayMake place hidden left right)
    {leftChildren rightChildren : List (Text × Entry)}
    (leftOnce : (leftChildren.map Prod.fst).Nodup) (rightOnce : (rightChildren.map Prod.fst).Nodup)
    (before : ∀ name, left.root.at? (directory.names ++ [name]) = Entry.look? leftChildren name)
    (after : ∀ name, right.root.at? (directory.names ++ [name]) = Entry.look? rightChildren name)
    (present : ∀ name, name.head? ≠ some '.' → nameMatches terms name = true →
      directory.names ++ [name] <+: place → left.root.at? (directory.names ++ [name]) ≠ none) :
    chosenBelow terms directory leftChildren = chosenBelow terms directory rightChildren := by
  refine chosenBelow_eq leftOnce rightOnce fun name visible fits => ?_
  rw [← before, ← after]
  by_cases isHidden : ∃ other, hidden other = true ∧ directory.names ++ [name] = place ++ [other]
  · obtain ⟨other, isHidden, names⟩ := isHidden
    rw [names]
    exact ⟨fun ⟨below, found⟩ => absurd found (grown.leftFiles other isHidden below),
      fun ⟨below, found⟩ => absurd found (grown.rightFiles other isHidden below)⟩
  · push Not at isHidden
    by_cases onTheWay : directory.names ++ [name] <+: place
    · have somewhere := present name visible fits onTheWay
      have grows := grown.above _ onTheWay
      generalize left.root.at? (directory.names ++ [name]) = early at somewhere grows
      generalize right.root.at? (directory.names ++ [name]) = late at grows
      cases grows with
      | alike alike => cases alike <;> simp
      | made allowed children => exact absurd rfl somewhere
    · rw [grown.elsewhere _ onTheWay isHidden]

/-- A directory above the hidden files is chosen again, unless a directory that is made on the
way to them is one that the terms choose. -/
theorem chosenFor_repeats_above (grown : Grown mayMake place hidden left right)
    (plain : Plain directory) (above : directory.names <+: place)
    (leftLawful : Entry.LawfulIfThere (left.root.at? directory.names))
    (rightLawful : Entry.LawfulIfThere (right.root.at? directory.names))
    (present : ∀ offered, Offered directory offered → offered.names <+: place →
      nameMatches terms offered.name = true → left.root.at? offered.names ≠ none) :
    Repeats mayMake SelectionFault.IsLong Eq (chosenFor left terms directory)
      (chosenFor right terms directory) := by
  have seen (name : Text) : directory.names ≠ place ++ [name] := by
    intro same
    have longer := above.length_le
    rw [same, List.length_append, List.length_singleton] at longer
    omega
  have below {leftChildren rightChildren : List (Text × Entry)}
      (leftOnce : (leftChildren.map Prod.fst).Nodup)
      (before : ∀ name, left.root.at? (directory.names ++ [name]) = Entry.look? leftChildren name)
      (after : right.root.at? directory.names = some (.directory rightChildren)) :
      chosenBelow terms directory leftChildren = chosenBelow terms directory rightChildren :=
    chosenBelow_repeats grown leftOnce (Entry.children_nodup (rightLawful _ after)) before
      (fun name => by rw [Entry.at?_concat, after]; rfl) fun name visible fits onTheWay =>
        present (directory.child name) (.below visible) onTheWay
          (by simpa [Path.child, Path.name] using fits)
  rcases grown.glimpse [] directory.names with sees | ⟨⟨name, _, names⟩, _⟩
  · refine chosenFor_repeats_of_sees plain sees (fun children others here there => ?_)
      fun others missing there => ⟨?_, ?_⟩
    · exact below (Entry.children_nodup (leftLawful _ here))
        (fun name => by rw [Entry.at?_concat, here]; rfl) there
    · exact eq_false_of_ne_true fun fits => present directory .itself above fits missing
    · rw [← @below [] others List.nodup_nil
        (fun name => by rw [Entry.at?_concat, missing]; rfl) there]
      simp [chosenBelow, Text.sort]
  · exact absurd names (seen name)

/-- If the same is chosen for each configured directory, the same directories are chosen. -/
theorem select_repeats (each : ∀ configured ∈ settings.searchable,
      Repeats mayMake SelectionFault.IsLong Eq (chosenFor left (usableTerms terms) configured)
        (chosenFor right (usableTerms terms) configured)) :
    Repeats mayMake SelectionFault.IsLong Eq (select settings left terms)
      (select settings right terms) := by
  rw [select, select]
  split
  · exact .ok rfl
  · refine (Repeats.mapM each).map ?_
    rintro found _ _ _ rfl
    rfl

/-- Past hidden files the same directories are chosen. -/
theorem select_eq (twin : Twin place hidden left right)
    (plain : ∀ configured ∈ settings.searchable, Plain configured)
    (apart : ∀ configured ∈ settings.searchable, ¬ configured.names <+: place) :
    select settings left terms = select settings right terms :=
  ((select_repeats fun configured member => chosenFor_repeats twin (plain configured member)
    (apart configured member) _).eq False.elim).symm

end Bundle
end Codemap
