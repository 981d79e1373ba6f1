import Codemap.Import.References
import Codemap.Proofs.Text.Order
import Mathlib.Data.Nat.Find

namespace Codemap
namespace Import

/-!
# Levels are distances

The levels of the reverse import graph are added one after the other, each from a
snapshot of what is part of the graph so far.  Here a graph is given by three
predicates, and the distance of a file is the length of the shortest chain of
imports that leads from it to a target.  Adding levels records exactly the files at
a finite distance, each with its distance and with those of its imports that lie
one step nearer.

The proof is an invariant over levels: before the level of a depth, exactly the files
at smaller distances are recorded.  Cycles do no harm, because a shortest chain
meets no file twice, and the number of sources that are not recorded yet bounds the
number of levels.
-/

/-- Files that are targets, files whose imports are followed, and what imports what. -/
structure Graph where
  IsTarget : Text → Prop
  IsSource : Text → Prop
  Imports : Text → Text → Prop

namespace Graph

variable {graph : Graph}

/-- A chain of imports from a file to a target.  Each file before the target is a
source. -/
inductive Chain (graph : Graph) : Nat → Text → Prop where
  | target {file : Text} : graph.IsTarget file → Chain graph 0 file
  | step {n : Nat} {file next : Text} : graph.IsSource file → graph.Imports file next →
      Chain graph n next → Chain graph (n + 1) file

/-- The length of the shortest chain from a file to a target. -/
def Distance (graph : Graph) (n : Nat) (file : Text) : Prop :=
  graph.Chain n file ∧ ∀ m, graph.Chain m file → n ≤ m

/-- The reference that following imports without a limit makes for a file: a target
without imports, or a source at its distance with the imports that lie one step
nearer. -/
inductive Recorded (graph : Graph) : Reference → Prop where
  | target {file : Text} : graph.IsTarget file → Recorded graph { file }
  | source {file : Text} {imports : List Text} {depth : Nat} : graph.IsSource file →
      graph.Distance (depth + 1) file → Text.Ascending imports →
      (∀ next, next ∈ imports ↔ graph.Imports file next ∧ graph.Distance depth next) →
      Recorded graph ⟨file, imports, depth + 1⟩

/-! ## Distances -/

theorem Distance.unique {n m : Nat} {file : Text} (first : graph.Distance n file)
    (second : graph.Distance m file) : n = m :=
  Nat.le_antisymm (first.2 m second.1) (second.2 n first.1)

theorem distance_zero_iff {file : Text} : graph.Distance 0 file ↔ graph.IsTarget file := by
  constructor
  · intro distance
    cases distance.1 with
    | target isTarget => exact isTarget
  · intro isTarget
    exact ⟨.target isTarget, fun m _ => Nat.zero_le m⟩

/-- A file with a chain has a distance. -/
theorem Chain.exists_distance {n : Nat} {file : Text} (chain : graph.Chain n file) :
    ∃ m, m ≤ n ∧ graph.Distance m file := by
  classical
  have lengths : ∃ m, graph.Chain m file := ⟨n, chain⟩
  exact ⟨Nat.find lengths, Nat.find_min' lengths chain, Nat.find_spec lengths,
    fun m other => Nat.find_min' lengths other⟩

/-- A file at a positive distance imports a file one step nearer. -/
theorem Distance.exists_next {n : Nat} {file : Text} (distance : graph.Distance (n + 1) file) :
    graph.IsSource file ∧ ∃ next, graph.Imports file next ∧ graph.Distance n next := by
  cases distance.1 with
  | step isSource imported rest =>
      refine ⟨isSource, _, imported, rest, fun m shorter => ?_⟩
      have bound := distance.2 (m + 1) (.step isSource imported shorter)
      omega

/-- If some file is at a distance, every smaller distance occurs. -/
theorem Distance.exists_of_le {n m : Nat} {file : Text} (distance : graph.Distance n file)
    (smaller : m ≤ n) : ∃ other, graph.Distance m other := by
  induction n generalizing file with
  | zero =>
      cases Nat.le_zero.mp smaller
      exact ⟨file, distance⟩
  | succ n inductionHypothesis =>
      rcases Nat.lt_or_eq_of_le smaller with less | rfl
      · obtain ⟨_, next, _, nearer⟩ := distance.exists_next
        exact inductionHypothesis nearer (Nat.le_of_lt_succ less)
      · exact ⟨file, distance⟩

/-! ## References -/

theorem Recorded.distance {reference : Reference} (recorded : graph.Recorded reference) :
    graph.Distance reference.depth reference.file := by
  cases recorded with
  | target isTarget => exact distance_zero_iff.mpr isTarget
  | source _ distance _ _ => exact distance

/-- A file at a positive distance is no target. -/
theorem Distance.not_isTarget {n : Nat} {file : Text} (distance : graph.Distance (n + 1) file) :
    ¬ graph.IsTarget file := fun isTarget =>
  absurd (distance.unique (distance_zero_iff.mpr isTarget)) (Nat.succ_ne_zero n)

end Graph

/-! ## Adding levels -/

/-- The lists from which levels are made hold what the graph says: every source that is
no target, with its imports. -/
structure Represents (graph : Graph) (sources : List Source) : Prop where
  source_iff : ∀ file, (∃ source ∈ sources, source.file = file) ↔
    graph.IsSource file ∧ ¬ graph.IsTarget file
  imports_iff : ∀ source ∈ sources, ∀ next,
    next ∈ source.imports ↔ graph.Imports source.file next

/-- Exactly the references below a depth. -/
def RecordedBelow (graph : Graph) (depth : Nat) (references : List Reference) : Prop :=
  ∀ reference, reference ∈ references ↔ graph.Recorded reference ∧ reference.depth < depth

theorem mem_tracked {references : List Reference} {file : Text} :
    file ∈ tracked references ↔ ∃ reference ∈ references, reference.file = file := by
  simp [tracked]

section Levels

variable {graph : Graph} {sources : List Source} {references : List Reference} {depth : Nat}

/-- Every file at a distance has a reference. -/
theorem Represents.exists_recorded (represents : Represents graph sources) {n : Nat} {file : Text}
    (distance : graph.Distance n file) :
    ∃ reference, graph.Recorded reference ∧ reference.file = file ∧ reference.depth = n := by
  cases n with
  | zero => exact ⟨_, .target (Graph.distance_zero_iff.mp distance), rfl, rfl⟩
  | succ n =>
      classical
      have isSource := distance.exists_next.1
      obtain ⟨source, member, rfl⟩ :=
        (represents.source_iff file).mpr ⟨isSource, distance.not_isTarget⟩
      have nearer : ∀ next,
          next ∈ Text.sortedSet (source.imports.filter fun next => graph.Distance n next) ↔
            graph.Imports source.file next ∧ graph.Distance n next := fun next => by
        rw [Text.mem_sortedSet, List.mem_filter, represents.imports_iff source member,
          decide_eq_true_eq]
      exact ⟨_, .source isSource distance (Text.ascending_sortedSet _) nearer, rfl, rfl⟩

/-- Below a depth exactly the files at smaller distances are tracked. -/
theorem RecordedBelow.mem_tracked_iff (below : RecordedBelow graph depth references)
    (represents : Represents graph sources) {file : Text} :
    file ∈ tracked references ↔ ∃ n, n < depth ∧ graph.Distance n file := by
  rw [mem_tracked]
  constructor
  · rintro ⟨reference, member, rfl⟩
    have facts := (below reference).mp member
    exact ⟨reference.depth, facts.2, facts.1.distance⟩
  · rintro ⟨n, less, distance⟩
    obtain ⟨reference, recorded, same, level⟩ := represents.exists_recorded distance
    exact ⟨reference, (below reference).mpr ⟨recorded, level ▸ less⟩, same⟩

theorem mem_nextLevel {reference : Reference} :
    reference ∈ nextLevel sources references depth ↔
      ∃ source ∈ sources, source.file ∉ tracked references ∧
        (∃ next ∈ source.imports, next ∈ tracked references) ∧
        reference = ⟨source.file,
          Text.sortedSet (source.imports.filter (tracked references).contains), depth⟩ := by
  have empty (source : Source) :
      (Text.sortedSet (source.imports.filter (tracked references).contains)).isEmpty = true ↔
        ¬ ∃ next ∈ source.imports, next ∈ tracked references := by
    rw [List.isEmpty_iff, List.eq_nil_iff_forall_not_mem]
    constructor
    · rintro none ⟨next, imported, member⟩
      exact none next (Text.mem_sortedSet.mpr (List.mem_filter.mpr
        ⟨imported, List.contains_iff_mem.mpr member⟩))
    · intro none next member
      have kept := List.mem_filter.mp (Text.mem_sortedSet.mp member)
      exact none ⟨next, kept.1, List.contains_iff_mem.mp kept.2⟩
  simp only [nextLevel, List.mem_filterMap, Option.ite_none_left_eq_some, List.contains_iff_mem,
    Option.some.injEq, empty, not_not]
  constructor
  · rintro ⟨source, member, fresh, hit, same⟩
    exact ⟨source, member, fresh, hit, same.symm⟩
  · rintro ⟨source, member, fresh, hit, same⟩
    exact ⟨source, member, fresh, hit, same.symm⟩

/-- A file that is not tracked yet imports nothing nearer than the last level: such an import
would have put it on an earlier level. -/
theorem RecordedBelow.eq_of_imports (below : RecordedBelow graph (depth + 1) references)
    (represents : Represents graph sources) {file next : Text} {n : Nat}
    (isSource : graph.IsSource file) (fresh : file ∉ tracked references)
    (imported : graph.Imports file next) (nearer : graph.Distance n next) (less : n < depth + 1) :
    n = depth := by
  obtain ⟨m, bound, distance⟩ := (Graph.Chain.step isSource imported nearer.1).exists_distance
  have notBelow : ¬ m < depth + 1 := fun small =>
    fresh ((below.mem_tracked_iff represents).mpr ⟨m, small, distance⟩)
  omega

/-- So it is one step farther than the last level, if it imports a file of that. -/
theorem RecordedBelow.distance_of_imports (below : RecordedBelow graph (depth + 1) references)
    (represents : Represents graph sources) {file next : Text} (isSource : graph.IsSource file)
    (fresh : file ∉ tracked references) (imported : graph.Imports file next)
    (nearer : graph.Distance depth next) : graph.Distance (depth + 1) file := by
  refine ⟨.step isSource imported nearer.1, fun m chain => ?_⟩
  obtain ⟨k, small, shortest⟩ := chain.exists_distance
  have notBelow : ¬ k < depth + 1 := fun less =>
    fresh ((below.mem_tracked_iff represents).mpr ⟨k, less, shortest⟩)
  omega

/-- The hits of a source that is not tracked yet are its imports on the last level. -/
theorem RecordedBelow.mem_hits_iff (below : RecordedBelow graph (depth + 1) references)
    (represents : Represents graph sources) {source : Source} (member : source ∈ sources)
    (fresh : source.file ∉ tracked references) {next : Text} :
    next ∈ Text.sortedSet (source.imports.filter (tracked references).contains) ↔
      graph.Imports source.file next ∧ graph.Distance depth next := by
  obtain ⟨isSource, _⟩ := (represents.source_iff source.file).mp ⟨source, member, rfl⟩
  rw [Text.mem_sortedSet, List.mem_filter, represents.imports_iff source member,
    List.contains_iff_mem, below.mem_tracked_iff represents]
  constructor
  · rintro ⟨imported, n, less, nearer⟩
    exact ⟨imported, below.eq_of_imports represents isSource fresh imported nearer less ▸ nearer⟩
  · rintro ⟨imported, nearer⟩
    exact ⟨imported, depth, Nat.lt_succ_self depth, nearer⟩

/-- A level holds exactly the files at its depth. -/
theorem RecordedBelow.mem_nextLevel_iff (below : RecordedBelow graph (depth + 1) references)
    (represents : Represents graph sources) {reference : Reference} :
    reference ∈ nextLevel sources references (depth + 1) ↔
      graph.Recorded reference ∧ reference.depth = depth + 1 := by
  rw [mem_nextLevel]
  constructor
  · rintro ⟨source, member, fresh, ⟨next, imported, early⟩, rfl⟩
    obtain ⟨isSource, _⟩ := (represents.source_iff source.file).mp ⟨source, member, rfl⟩
    obtain ⟨importsNext, nearer⟩ := (below.mem_hits_iff represents member fresh).mp
      (Text.mem_sortedSet.mpr (List.mem_filter.mpr ⟨imported, List.contains_iff_mem.mpr early⟩))
    have distance := below.distance_of_imports represents isSource fresh importsNext nearer
    exact ⟨.source isSource distance (Text.ascending_sortedSet _)
      fun _ => below.mem_hits_iff represents member fresh, rfl⟩
  · rintro ⟨recorded, level⟩
    cases recorded with
    | target _ => exact absurd level (Nat.succ_ne_zero depth).symm
    | @source file imports n isSource distance ascends members =>
        cases Nat.succ.inj level
        obtain ⟨source, member, rfl⟩ :=
          (represents.source_iff file).mpr ⟨isSource, distance.not_isTarget⟩
        have fresh : source.file ∉ tracked references := fun early => by
          obtain ⟨m, less, nearer⟩ := (below.mem_tracked_iff represents).mp early
          have same := nearer.unique distance
          omega
        obtain ⟨_, next, imported, nearer⟩ := distance.exists_next
        have early := (below.mem_tracked_iff represents).mpr ⟨depth, Nat.lt_succ_self depth, nearer⟩
        refine ⟨source, member, fresh,
          ⟨next, (represents.imports_iff source member next).mpr imported, early⟩, ?_⟩
        have hits := ascends.eq_of_mem_iff
          (Text.ascending_sortedSet (source.imports.filter (tracked references).contains))
          fun other => by rw [members, below.mem_hits_iff represents member fresh]
        rw [hits]

/-- A level that is added leaves the invariant one depth higher. -/
theorem RecordedBelow.append_nextLevel (below : RecordedBelow graph (depth + 1) references)
    (represents : Represents graph sources) :
    RecordedBelow graph (depth + 2)
      (references ++ nextLevel sources references (depth + 1)) := by
  intro reference
  rw [List.mem_append, below reference, below.mem_nextLevel_iff represents]
  constructor
  · rintro (⟨recorded, less⟩ | ⟨recorded, level⟩)
    · exact ⟨recorded, by omega⟩
    · exact ⟨recorded, by omega⟩
  · rintro ⟨recorded, less⟩
    by_cases early : reference.depth < depth + 1
    · exact Or.inl ⟨recorded, early⟩
    · exact Or.inr ⟨recorded, by omega⟩

/-- After an empty level there are no more files at any greater depth. -/
theorem RecordedBelow.depth_lt_of_nextLevel_eq_nil
    (below : RecordedBelow graph (depth + 1) references) (represents : Represents graph sources)
    (ended : nextLevel sources references (depth + 1) = []) {reference : Reference}
    (recorded : graph.Recorded reference) : reference.depth < depth + 1 := by
  by_contra deep
  obtain ⟨file, distance⟩ := recorded.distance.exists_of_le (Nat.le_of_not_lt deep)
  obtain ⟨other, otherRecorded, _, level⟩ := represents.exists_recorded distance
  have member := (below.mem_nextLevel_iff represents).mpr ⟨otherRecorded, level⟩
  rw [ended] at member
  exact List.not_mem_nil member

/-! ### Enough fuel -/

/-- The sources that are not part of the graph yet. -/
def untracked (sources : List Source) (references : List Reference) : List Source :=
  sources.filter fun source => !(tracked references).contains source.file

/-- If no source is left there are no more files at any greater depth. -/
theorem RecordedBelow.depth_lt_of_untracked_eq_nil
    (below : RecordedBelow graph (depth + 1) references) (represents : Represents graph sources)
    (none : untracked sources references = []) {reference : Reference}
    (recorded : graph.Recorded reference) : reference.depth < depth + 1 := by
  cases recorded with
  | target _ => exact Nat.succ_pos depth
  | @source file imports n isSource distance _ _ =>
      obtain ⟨source, member, rfl⟩ :=
        (represents.source_iff file).mpr ⟨isSource, distance.not_isTarget⟩
      have all := List.filter_eq_nil_iff.mp none source member
      have early : source.file ∈ tracked references := by simpa using all
      obtain ⟨m, less, nearer⟩ := (below.mem_tracked_iff represents).mp early
      rw [← nearer.unique distance]
      exact less

/-- A level that is not empty takes a source. -/
theorem untracked_append_lt {first : Reference} {rest : List Reference}
    (level : nextLevel sources references depth = first :: rest) :
    (untracked sources (references ++ first :: rest)).length <
      (untracked sources references).length := by
  have member : first ∈ nextLevel sources references depth := by simp [level]
  obtain ⟨source, listed, fresh, _, same⟩ := mem_nextLevel.mp member
  have split : untracked sources (references ++ first :: rest) =
      (untracked sources references).filter fun source =>
        !(tracked (first :: rest)).contains source.file := by
    simp only [untracked, tracked, List.filter_filter]
    apply List.filter_congr
    intro other _
    simp only [List.map_append, List.contains_eq_mem, List.mem_append]
    by_cases early : other.file ∈ references.map Reference.file <;> simp [early]
  rw [split]
  apply List.length_filter_lt_length_iff_exists.mpr
  refine ⟨source, List.mem_filter.mpr ⟨listed, by simpa using fresh⟩, ?_⟩
  simp [tracked, same]

/-! ### All levels -/

theorem within_iff {greatest : Int} :
    within depth greatest = true ↔ (0 ≤ greatest → (depth : Int) ≤ greatest) := by
  simp only [within, Bool.or_eq_true, decide_eq_true_eq]
  omega

/-- Once no file within the greatest depth lies deeper, what is recorded is all there
is. -/
theorem RecordedBelow.mem_iff_of_bounded (below : RecordedBelow graph (depth + 1) references)
    {greatest : Int} (reached : within depth greatest = true)
    (bounded : ∀ {reference : Reference}, graph.Recorded reference →
      within reference.depth greatest = true → reference.depth < depth + 1)
    (reference : Reference) :
    reference ∈ references ↔
      graph.Recorded reference ∧ within reference.depth greatest = true := by
  rw [below reference]
  constructor
  · rintro ⟨recorded, less⟩
    refine ⟨recorded, within_iff.mpr fun limited => ?_⟩
    have limit := within_iff.mp reached limited
    omega
  · rintro ⟨recorded, limited⟩
    exact ⟨recorded, bounded recorded limited⟩

/-- Adding levels records what the graph says, up to the greatest depth.  The fuel only
has to cover the sources that are not part of the graph yet. -/
theorem mem_addLevels (represents : Represents graph sources) (greatest : Int) (fuel : Nat)
    (below : RecordedBelow graph (depth + 1) references) (reached : within depth greatest = true)
    (enough : (untracked sources references).length ≤ fuel) (reference : Reference) :
    reference ∈ addLevels sources greatest fuel (depth + 1) references ↔
      graph.Recorded reference ∧ within reference.depth greatest = true := by
  induction fuel generalizing depth references with
  | zero =>
      have none := List.length_eq_zero_iff.mp (Nat.le_zero.mp enough)
      exact below.mem_iff_of_bounded reached
        (fun recorded _ => below.depth_lt_of_untracked_eq_nil represents none recorded) reference
  | succ fuel inductionHypothesis =>
      rw [addLevels]
      split
      · next deeper =>
          split
          · next ended =>
              exact below.mem_iff_of_bounded reached
                (fun recorded _ => below.depth_lt_of_nextLevel_eq_nil represents ended recorded)
                reference
          · next level nonempty =>
              have next := below.append_nextLevel represents
              cases found : nextLevel sources references (depth + 1) with
              | nil => exact absurd found nonempty
              | cons first rest =>
                  rw [found] at next
                  have smaller := untracked_append_lt found
                  exact inductionHypothesis next deeper (by omega)
      · next outside =>
          apply below.mem_iff_of_bounded reached
          intro other _ limited
          by_contra deep
          apply outside
          apply within_iff.mpr
          intro bounded
          have limit := within_iff.mp limited bounded
          omega

theorem tracked_nextLevel_sublist :
    (tracked (nextLevel sources references depth)).Sublist (sources.map Source.file) := by
  unfold nextLevel tracked
  induction sources with
  | nil => simp
  | cons source rest inductionHypothesis =>
      rw [List.filterMap_cons]
      split
      · exact inductionHypothesis.cons source.file
      · next found selected =>
          have same : found.file = source.file := by
            simp only [Option.ite_none_left_eq_some, Option.some.injEq] at selected
            rw [← selected.2.2]
          rw [List.map_cons, List.map_cons, same]
          exact inductionHypothesis.cons_cons source.file

/-- No file is recorded twice. -/
theorem nodup_addLevels (once : (sources.map Source.file).Nodup) (greatest : Int) (fuel : Nat)
    (distinct : (tracked references).Nodup) :
    (tracked (addLevels sources greatest fuel depth references)).Nodup := by
  induction fuel generalizing depth references with
  | zero => exact distinct
  | succ fuel inductionHypothesis =>
      rw [addLevels]
      split
      · split
        · exact distinct
        · apply inductionHypothesis
          rw [tracked, List.map_append]
          refine List.nodup_append.mpr ⟨distinct, once.sublist tracked_nextLevel_sublist, ?_⟩
          rintro file early _ late rfl
          obtain ⟨reference, member, rfl⟩ := List.mem_map.mp late
          obtain ⟨source, _, fresh, _, rfl⟩ := mem_nextLevel.mp member
          exact fresh early
      · exact distinct

end Levels
end Import
end Codemap
