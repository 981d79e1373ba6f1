import Codemap.Proofs.Files.Walk

namespace Codemap

/-!
# What a change of the tree leaves alone

A change happens at one place.  What lies beside the place is the same entry as
before, directories above it stay directories, and below it stands what the change
put there.  A directory whose path leads to it is therefore still found after a
change that keeps all directories.
-/

namespace Entry

/-! ## Children -/

theorem look?_put (children : List (Text × Entry)) (name : Text) (entry : Entry) (other : Text) :
    look? (put children name entry) other =
      if name = other then some entry else look? children other := by
  induction children with
  | nil => simp [put, look?]
  | cons child rest inductionHypothesis =>
      obtain ⟨first, old⟩ := child
      by_cases here : first = name
      · subst here
        by_cases same : first = other
        · simp [put, look?, same]
        · simp [put, look?, same]
      · by_cases there : first = other
        · subst there
          simp [put, look?, here, Ne.symm here]
        · simp [put, look?, here, there, inductionHypothesis]

/-- The children whose names are kept. -/
theorem look?_filter (children : List (Text × Entry)) (keep : Text → Bool) (name : Text) :
    look? (children.filter fun child => keep child.1) name =
      if keep name = true then look? children name else none := by
  induction children with
  | nil => simp [look?]
  | cons child rest inductionHypothesis =>
      by_cases kept : keep child.1 = true
      · rw [List.filter_cons, if_pos kept, look?, look?]
        by_cases here : child.1 = name
        · rw [if_pos here, if_pos here, ← here, if_pos kept]
        · rw [if_neg here, if_neg here, inductionHypothesis]
      · rw [List.filter_cons, if_neg kept, inductionHypothesis, look?]
        by_cases here : child.1 = name
        · rw [← here, if_neg kept, if_neg kept]
        · rw [if_neg here]

theorem look?_drop (children : List (Text × Entry)) (name other : Text) :
    look? (drop children name) other = if name = other then none else look? children other := by
  rw [drop, look?_filter children fun kept => kept != name]
  by_cases same : name = other
  · simp [same]
  · simp [same, Ne.symm same]

theorem look?_eq_none_iff {children : List (Text × Entry)} {name : Text} :
    look? children name = none ↔ name ∉ children.map Prod.fst := by
  induction children with
  | nil => simp [look?]
  | cons child rest inductionHypothesis =>
      by_cases here : child.1 = name
      · simp [look?, here]
      · simp [look?, here, inductionHypothesis, Ne.symm here]

/-! ## Places -/

theorem at?_append (entry : Entry) (above below : List Text) :
    entry.at? (above ++ below) = (entry.at? above).bind fun found => found.at? below := by
  induction above generalizing entry with
  | nil => rfl
  | cons name rest inductionHypothesis =>
      rw [List.cons_append, at?, at?]
      cases look? entry.children name with
      | none => rfl
      | some child => exact inductionHypothesis child

theorem at?_concat (entry : Entry) (above : List Text) (name : Text) :
    entry.at? (above ++ [name]) = (entry.at? above).bind fun found => look? found.children name := by
  rw [at?_append]
  congr 1
  funext found
  rw [at?]
  cases look? found.children name <;> rfl

/-- What stands below a directory stands below one of its children. -/
theorem at?_inside {entry : Entry} {place : List Text} {children : List (Text × Entry)}
    (found : entry.at? place = some (.directory children)) (name : Text) (rest : List Text) :
    entry.at? (place ++ name :: rest) = (look? children name).bind fun child => child.at? rest := by
  rw [List.append_cons, at?_append, at?_concat, found]
  rfl

/-- Below what is no directory stands nothing. -/
theorem at?_below_file {entry : Option Entry} {name : Text} {rest : List Text}
    (file : ∀ below, entry ≠ some (.directory below)) :
    (entry.bind fun found => found.at? (name :: rest)) = none := by
  cases entry with
  | none => rfl
  | some found =>
      cases found with
      | file content changed => rfl
      | directory below => exact absurd rfl (file below)

/-- The entry at a place in what may be there. -/
def peek (old : Option Entry) (names : List Text) : Option Entry :=
  old.bind fun entry => entry.at? names

@[simp] theorem peek_nil (old : Option Entry) : peek old [] = old := by
  cases old <;> rfl

@[simp] theorem peek_some (entry : Entry) (names : List Text) :
    peek (some entry) names = entry.at? names := rfl

theorem peek_cons (old : Option Entry) (name : Text) (rest : List Text) :
    peek old (name :: rest) = peek (look? ((old.map children).getD []) name) rest := by
  cases old with
  | none => rfl
  | some entry =>
      rw [peek, Option.bind_some, at?]
      cases found : look? entry.children name with
      | none => simp [peek, found]
      | some child => simp [peek, found]

theorem alter_cons (change : Option Entry → Option Entry) (name : Text) (rest : List Text)
    (old : Option Entry) : ∃ children,
      alter change (name :: rest) old = some (.directory children) ∧
      look? children name = alter change rest (look? ((old.map Entry.children).getD []) name) ∧
      ∀ other, other ≠ name → look? children other = look? ((old.map Entry.children).getD []) other := by
  rw [alter]
  cases changed : alter change rest (look? ((old.map Entry.children).getD []) name) with
  | none =>
      refine ⟨_, rfl, by simp [look?_drop], fun other apart => ?_⟩
      rw [look?_drop, if_neg (Ne.symm apart)]
  | some entry =>
      refine ⟨_, rfl, by simp [look?_put], fun other apart => ?_⟩
      rw [look?_put, if_neg (Ne.symm apart)]

/-- At the place of a change and below it stands what the change makes of what was there. -/
theorem peek_alter_below (change : Option Entry → Option Entry) (place below : List Text)
    (old : Option Entry) :
    peek (alter change place old) (place ++ below) = peek (change (peek old place)) below := by
  induction place generalizing old with
  | nil =>
      cases old <;> rfl
  | cons name rest inductionHypothesis =>
      obtain ⟨children, altered, here, _⟩ := alter_cons change name rest old
      rw [altered, List.cons_append, peek_cons, peek_cons]
      simp only [Option.map_some, Option.getD_some, Entry.children]
      rw [here, inductionHypothesis]

/-- A place beside that of a change keeps its entry. -/
theorem peek_alter_apart (change : Option Entry → Option Entry) {place names : List Text}
    (notBelow : ¬ place <+: names) (notAbove : ¬ names <+: place) (old : Option Entry) :
    peek (alter change place old) names = peek old names := by
  induction place generalizing names old with
  | nil => exact absurd List.nil_prefix notBelow
  | cons name rest inductionHypothesis =>
      cases names with
      | nil => exact absurd List.nil_prefix notAbove
      | cons other more =>
          obtain ⟨children, altered, here, others⟩ := alter_cons change name rest old
          rw [altered, peek_cons, peek_cons]
          simp only [Option.map_some, Option.getD_some, Entry.children]
          by_cases same : other = name
          · subst same
            rw [List.prefix_cons_inj] at notBelow notAbove
            rw [here, inductionHypothesis notBelow notAbove]
          · rw [others other same]

/-- Above the place of a change stands a directory. -/
theorem peek_alter_above (change : Option Entry → Option Entry) {place names : List Text}
    (above : names <+: place) (proper : names ≠ place) (old : Option Entry) :
    ∃ children, peek (alter change place old) names = some (.directory children) := by
  induction place generalizing names old with
  | nil => exact absurd (List.prefix_nil.mp above) proper
  | cons name rest inductionHypothesis =>
      obtain ⟨children, altered, here, _⟩ := alter_cons change name rest old
      cases names with
      | nil => exact ⟨children, by rw [altered]; rfl⟩
      | cons other more =>
          obtain ⟨rfl, aboveRest⟩ := List.cons_prefix_cons.mp above
          have properRest : more ≠ rest := fun same => proper (by rw [same])
          rw [altered, peek_cons]
          simp only [Option.map_some, Option.getD_some, Entry.children]
          rw [here]
          exact inductionHypothesis aboveRest properRest _

/-- What stands above an entry that is there is a directory. -/
theorem directory_above {entry found : Entry} {above below : List Text}
    (there : entry.at? (above ++ below) = some found) (proper : below ≠ []) :
    ∃ children, entry.at? above = some (.directory children) := by
  rw [at?_append] at there
  cases reached : entry.at? above with
  | none => simp [reached] at there
  | some upper =>
      cases upper with
      | directory children => exact ⟨children, rfl⟩
      | file content changed =>
          cases below with
          | nil => exact absurd rfl proper
          | cons name rest => simp [reached, at?, children, look?] at there

end Entry

namespace Tree

variable {tree before after : Tree}

/-! ## Changes of a tree -/

theorem alterAt_at? (tree : Tree) {change : Option Entry → Option Entry} {place : List Text}
    (below : place ≠ []) (names : List Text) :
    (tree.alterAt change place).root.at? names =
      Entry.peek (Entry.alter change place (some tree.root)) names := by
  cases place with
  | nil => exact absurd rfl below
  | cons name rest =>
      obtain ⟨children, altered, _⟩ := Entry.alter_cons change name rest (some tree.root)
      rw [alterAt, altered]
      rfl

/-- What stands at a place once an entry has been put somewhere. -/
theorem place_at? (tree : Tree) (place : List Text) (entry : Entry) (names : List Text) :
    (tree.place place entry).root.at? names =
      Entry.peek (Entry.alter (fun _ => some entry) place (some tree.root)) names := by
  cases place with
  | nil => rfl
  | cons name rest => exact alterAt_at? tree (List.cons_ne_nil name rest) names

/-- What stands at a place where an entry is put, and below it. -/
theorem at?_place_below (tree : Tree) (place : List Text) (entry : Entry) (rest : List Text) :
    (tree.place place entry).root.at? (place ++ rest) = entry.at? rest := by
  rw [place_at?, Entry.peek_alter_below]
  rfl

/-- Where a directory is put, and above it, stand directories. -/
theorem at?_place_above (tree : Tree) {place names : List Text} (children : List (Text × Entry))
    (above : names <+: place) :
    ∃ others, (tree.place place (.directory children)).root.at? names = some (.directory others) := by
  by_cases same : names = place
  · exact ⟨children, by simpa [same, Entry.at?] using at?_place_below tree place _ []⟩
  · rw [place_at?]
    exact Entry.peek_alter_above _ above same _

/-- Beside the place of an entry that is put nothing changes. -/
theorem at?_place_beside (tree : Tree) {place names : List Text} (entry : Entry)
    (notAbove : ¬ names <+: place) (notBelow : ¬ place <+: names) :
    (tree.place place entry).root.at? names = tree.root.at? names := by
  rw [place_at?, Entry.peek_alter_apart _ notBelow notAbove]
  rfl

/-- Every directory is one afterwards as well. -/
structure Keeps (before after : Tree) : Prop where
  current : after.current = before.current
  directory : ∀ names children, before.root.at? names = some (.directory children) →
    ∃ others, after.root.at? names = some (.directory others)

/-- A change at a place that is no directory keeps all directories. -/
theorem keeps_alterAt (change : Option Entry → Option Entry) {place : List Text}
    (below : place ≠ []) (noDirectory : ∀ children, tree.root.at? place ≠ some (.directory children)) :
    tree.Keeps (tree.alterAt change place) := by
  refine ⟨rfl, fun names children found => ?_⟩
  rw [alterAt_at? tree below]
  by_cases inside : place <+: names
  · obtain ⟨rest, rfl⟩ := inside
    cases rest with
    | nil =>
        rw [List.append_nil] at found
        exact absurd found (noDirectory children)
    | cons name rest =>
        obtain ⟨others, directory⟩ := Entry.directory_above found (List.cons_ne_nil name rest)
        exact absurd directory (noDirectory others)
  · by_cases above : names <+: place
    · have proper : names ≠ place := by
        rintro rfl
        exact noDirectory children found
      exact Entry.peek_alter_above change above proper _
    · rw [Entry.peek_alter_apart change inside above]
      exact ⟨children, found⟩

/-! ## Finding directories -/

theorem walkNames_append (tree : Tree) (place first second : List Text) :
    tree.walkNames place (first ++ second) =
      (tree.walkNames place first).bind fun reached => tree.walkNames reached second := by
  induction first generalizing place with
  | nil => rfl
  | cons segment rest inductionHypothesis =>
      rw [List.cons_append, walkNames, walkNames]
      cases tree.root.at? place.reverse with
      | none => rfl
      | some entry =>
          cases entry with
          | file content changed => rfl
          | directory children =>
              dsimp only
              split
              · exact inductionHypothesis _
              · split
                · rfl
                · cases Entry.look? children segment with
                  | none => rfl
                  | some child => exact inductionHypothesis _

/-- A walk that ends at a directory begins at one. -/
theorem directory_of_walkNames {place segments reached : List Text} {children : List (Text × Entry)}
    (walked : tree.walkNames place segments = .ok reached)
    (ends : tree.root.at? reached.reverse = some (.directory children)) :
    ∃ others, tree.root.at? place.reverse = some (.directory others) := by
  cases segments with
  | nil =>
      cases walked
      exact ⟨children, ends⟩
  | cons segment rest =>
      rw [walkNames] at walked
      split at walked
      · cases walked
      · cases walked
      · next others found => exact ⟨others, found⟩

/-- A walk to a directory goes the same way in a tree that keeps directories. -/
theorem walkNames_of_keeps (keeps : before.Keeps after) {place segments reached : List Text}
    {children : List (Text × Entry)} (walked : before.walkNames place segments = .ok reached)
    (ends : before.root.at? reached.reverse = some (.directory children)) :
    after.walkNames place segments = .ok reached := by
  induction segments generalizing place with
  | nil => exact walked
  | cons segment rest inductionHypothesis =>
      obtain ⟨children, here⟩ := directory_of_walkNames walked ends
      obtain ⟨others, there⟩ := keeps.directory _ _ here
      rw [walkNames, here] at walked
      rw [walkNames, there]
      dsimp only at walked ⊢
      split
      · next upwards =>
          rw [if_pos upwards] at walked
          exact inductionHypothesis walked
      · next ordinary =>
          rw [if_neg ordinary] at walked
          split
          · next tooLong => simp [tooLong] at walked
          · next short =>
              rw [if_neg short] at walked
              cases found : Entry.look? children segment with
              | none => simp [found] at walked
              | some child =>
                  simp only [found] at walked
                  obtain ⟨below, directory⟩ := directory_of_walkNames walked ends
                  obtain ⟨later, kept⟩ := keeps.directory _ _ directory
                  rw [List.reverse_cons, Entry.at?_concat, there, Option.bind_some] at kept
                  have present : Entry.look? others segment = some (.directory later) := kept
                  simp only [present]
                  exact inductionHypothesis walked

/-- The place that a walk reaches has a normal form: two dots are gone. -/
theorem normalizeNames_of_walkNames {place segments reached : List Text}
    (walked : tree.walkNames place segments = .ok reached) (normal : upward ∉ place) :
    Path.normalizeNames true place segments = reached.reverse := by
  induction segments generalizing place with
  | nil =>
      cases walked
      rfl
  | cons segment rest inductionHypothesis =>
      rw [walkNames] at walked
      split at walked
      · cases walked
      · cases walked
      · split at walked
        · next upwards =>
            cases place with
            | nil =>
                rw [Path.normalizeNames]
                simpa [upwards] using inductionHypothesis walked normal
            | cons last before =>
                have notLast : last ≠ upward := fun same => normal (by simp [same])
                have normalBefore : upward ∉ before := fun member =>
                  normal (List.mem_cons_of_mem last member)
                rw [Path.normalizeNames]
                simpa [upwards, notLast] using inductionHypothesis walked normalBefore
        · next ordinary =>
            split at walked
            · cases walked
            · split at walked
              · have normalNext : upward ∉ segment :: place := by
                  rw [List.mem_cons, not_or]
                  exact ⟨Ne.symm ordinary, normal⟩
                unfold Path.normalizeNames
                rw [if_pos ordinary]
                exact inductionHypothesis walked normalNext
              · cases walked

/-- No name on a walk is too long. -/
theorem short_of_walkNames {place segments reached : List Text}
    (walked : tree.walkNames place segments = .ok reached)
    (short : ∀ name ∈ place, (Utf8.encode name).length ≤ longestName) :
    ∀ name ∈ reached, (Utf8.encode name).length ≤ longestName := by
  induction segments generalizing place with
  | nil =>
      cases walked
      exact short
  | cons segment rest inductionHypothesis =>
      rw [walkNames] at walked
      split at walked
      · cases walked
      · cases walked
      · split at walked
        · exact inductionHypothesis walked fun name member => short name (List.mem_of_mem_tail member)
        · split at walked
          · cases walked
          · next fits =>
              split at walked
              · apply inductionHypothesis walked
                intro name member
                rcases List.mem_cons.mp member with rfl | earlier
                · exact Nat.le_of_not_lt fits
                · exact short name earlier
              · cases walked

end Tree
end Codemap
