import Codemap.Proofs.Files.Twin
import Codemap.Proofs.Settings.Loading

namespace Codemap

/-!
# Where the settings lead

Whatever the settings file says, the paths of the settings are written out in full: each
begins at the single root, and two dots and dots are gone from it.  All that this takes is
that the surroundings are given by paths with readable names.
-/

/-- A path that is written out in full: it begins at the single root, and none of its
names has a meaning of its own. -/
structure Path.Resolved (path : Path) : Prop where
  root : path.root = .slash
  names : ∀ name ∈ path.names, isSegment name = true ∧ name ≠ upward

namespace Path

variable {path current : Path}

namespace Resolved

variable (resolved : path.Resolved)

include resolved

theorem legible : path.Legible where
  rooted := by
    rw [Path.isAbsolute, resolved.root]
    rfl
  segments := fun name member => (resolved.names name member).1

theorem plain : Tree.Plain path where
  rooted := resolved.legible.rooted
  plain := fun member => (resolved.names upward member).2 rfl

theorem parent : path.parent.Resolved where
  root := resolved.root
  names := fun name member => resolved.names name (List.dropLast_subset _ member)

theorem below {names : List Text} (further : ∀ name ∈ names, isSegment name = true ∧ name ≠ upward) :
    Path.Resolved { path with names := path.names ++ names } where
  root := resolved.root
  names := List.forall_mem_append.mpr ⟨resolved.names, further⟩

end Resolved

/-- The true place of a path is written out in full. -/
theorem resolved_resolve (legible : current.Legible)
    (segments : ∀ name ∈ path.names, isSegment name = true) :
    (Path.resolve current path).Resolved := by
  have joined := legible.join segments
  refine ⟨rfl, fun name member => ⟨joined.normalize.segments name member, ?_⟩⟩
  rintro rfl
  exact (Tree.plain_normalize joined.rooted).plain member

/-- The names of a path seen from another are names of one of the two. -/
theorem segments_join (first : ∀ name ∈ current.names, isSegment name = true)
    (second : ∀ name ∈ path.names, isSegment name = true) :
    ∀ name ∈ (current.join path).names, isSegment name = true := by
  rw [join]
  split
  · exact second
  · exact List.forall_mem_append.mpr ⟨first, second⟩

end Path

namespace Settings

variable {environment : Environment} {tree : Tree} {asked : Option Path} {path place : Path}
  {settings : Settings}

/-- Surroundings whose paths have names that can be told apart. -/
structure Grounded (environment : Environment) (tree : Tree) (asked : Option Path) : Prop where
  current : tree.current.Legible
  home : environment.home.Legible
  homes : ∀ entry ∈ environment.homes, entry.2.Legible
  asked : ∀ path, asked = some path → ∀ name ∈ path.names, isSegment name = true

variable (grounded : Grounded environment tree asked)

include grounded

theorem segments_expandHome (segments : ∀ name ∈ path.names, isSegment name = true)
    (expanded : environment.expandHome path = .ok place) :
    ∀ name ∈ place.names, isSegment name = true := by
  rw [Environment.expandHome] at expanded
  split at expanded
  · next user rest _ names =>
      have homeLegible (home : Path) (found : (if user.isEmpty then some environment.home
          else (environment.homes.find? fun entry => entry.1 == user).map (·.2)) = some home) :
          home.Legible := by
        split at found
        · cases found
          exact grounded.home
        · obtain ⟨entry, first, rfl⟩ := Option.map_eq_some_iff.mp found
          exact grounded.homes entry (List.mem_of_find?_eq_some first)
      dsimp only at expanded
      split at expanded
      · next home found =>
          cases expanded
          refine List.forall_mem_append.mpr ⟨(homeLegible home found).segments, fun name member => ?_⟩
          exact segments name (names ▸ List.mem_cons_of_mem _ member)
      · cases expanded
  · cases expanded
    exact segments

theorem resolved_truePath (segments : ∀ name ∈ path.names, isSegment name = true)
    (found : truePath tree path = .ok place) : place.Resolved := by
  rw [truePath] at found
  split at found
  · cases found
  · cases found
    exact Path.resolved_resolve grounded.current segments

theorem resolved_locate (found : locate environment tree asked = .ok place) : place.Resolved := by
  rw [locate] at found
  obtain ⟨path, expanded, found⟩ := ok_of_bind found
  have segments := segments_expandHome grounded (fun name member => ?_) expanded
  · obtain ⟨status, _, found⟩ := ok_of_bind found
    split at found
    · refine resolved_truePath grounded (fun name member => ?_) found
      rcases List.mem_append.mp member with member | member
      · exact segments name member
      · rw [List.mem_singleton.mp member]
        decide
    · exact resolved_truePath grounded segments found
  · cases asked with
    | some path => exact grounded.asked path rfl name member
    | none =>
        cases named : environment.settingsFile with
        | none =>
            rw [named] at member
            exact grounded.current.segments name member
        | some text =>
            rw [named] at member
            by_cases empty : text.isEmpty
            · simp only [Option.bind_some, empty, if_true] at member
              exact grounded.current.segments name member
            · simp only [Option.bind_some, empty] at member
              exact Path.isSegment_of_mem_segments member

theorem resolved_placeOf {start : Path} (segments : ∀ name ∈ start.names, isSegment name = true)
    {content : Yaml.Content} (found : placeOf environment tree start content = .ok place) :
    place.Resolved := by
  obtain ⟨_, -, found⟩ := ok_of_bind found
  obtain ⟨path, expanded, found⟩ := ok_of_bind found
  obtain ⟨_, -, found⟩ := ok_of_bind found
  refine resolved_truePath grounded (Path.segments_join segments ?_) found
  exact segments_expandHome grounded (fun name => Path.isSegment_of_mem_segments) expanded

/-- So is the place of a path that may be missing. -/
theorem resolved_placeOf? {start : Path} (segments : ∀ name ∈ start.names, isSegment name = true)
    {named : Option Yaml.Content} (found : placeOf? environment tree start named = .ok (some place)) :
    place.Resolved := by
  cases named with
  | none => cases found
  | some content =>
      rw [placeOf?] at found
      obtain ⟨other, placed, ⟨⟩⟩ := map_eq_ok_iff.mp found
      exact resolved_placeOf grounded segments placed

omit grounded in
/-- Where bundles are kept without a setting. -/
theorem resolved_defaultCache {root : Path} (resolved : root.Resolved) :
    Path.Resolved { root with names := root.names ++ defaultCache } :=
  resolved.below (by decide)

/-- The searchable directories and the cache directory of settings that a document makes are
written out in full. -/
theorem resolved_ofDocument {file : Path} (resolved : file.Resolved) {document : Yaml.Document}
    (made : ofDocument environment tree file document = .ok settings) :
    settings.cacheDirectory.Resolved ∧
      ∀ configured ∈ settings.searchable, configured.Resolved := by
  obtain ⟨base, searchable, cache, log, based, searched, cached, -, rfl⟩ := of_ofDocument made
  have segments := resolved.parent.legible.segments
  constructor
  · cases cache with
    | none => exact resolved_defaultCache resolved.parent
    | some path => exact resolved_placeOf? grounded segments cached
  · intro configured member
    obtain ⟨content, _, placed⟩ := ok_of_mapM searched configured member
    refine resolved_placeOf grounded ?_ placed
    cases base with
    | none => exact segments
    | some path => exact (resolved_placeOf? grounded segments based).legible.segments

/-- So are those of all settings that can be loaded. -/
theorem resolved_load (loaded : load environment tree asked = .ok settings) :
    settings.cacheDirectory.Resolved ∧
      ∀ configured ∈ settings.searchable, configured.Resolved := by
  obtain ⟨file, located, loaded⟩ := ok_of_bind loaded
  have resolved := resolved_locate grounded located
  obtain ⟨status, _, loaded⟩ := ok_of_bind loaded
  split at loaded
  · cases loaded
    exact ⟨resolved_defaultCache resolved.parent, fun _ member => absurd member List.not_mem_nil⟩
  · obtain ⟨document, _, loaded⟩ := ok_of_bind loaded
    exact resolved_ofDocument grounded resolved loaded

end Settings
end Codemap
