import Codemap.Proofs.Files.Directory
import Codemap.Proofs.Result

namespace Codemap

/-!
# Trees that differ in hidden files only

One directory of two trees may hold different files under names that count as hidden;
everything else is the same.  Such trees cannot be told apart through a path without two
dots, unless it leads to a hidden file itself.  Directories on the way to the hidden files
have different contents, so what they hold must not be compared.

The directory itself may be missing from the first tree and have been made since.  Then a
path can tell the trees apart in two ways only: it leads to one of the new directories, or
it leads into one and has a name that is too long, which nobody looks at where nothing is.
-/

namespace Entry

/-- What is at a place in two trees looks alike: it is the same, or it is a directory in
both. -/
inductive Resembles : Option Entry → Option Entry → Prop
  | same (entry : Option Entry) : Resembles entry entry
  | directories (left right : List (Text × Entry)) :
      Resembles (some (.directory left)) (some (.directory right))

namespace Resembles

theorem symm {left right : Option Entry} (alike : Resembles left right) : Resembles right left := by
  cases alike with
  | same => exact .same left
  | directories left right => exact .directories right left

theorem trans {first second third : Option Entry} (early : Resembles first second)
    (late : Resembles second third) : Resembles first third := by
  cases early with
  | same => exact late
  | directories left right =>
      cases late with
      | same => exact .directories left right
      | directories _ last => exact .directories left last

end Resembles

/-- What is at a place in two trees looks alike, or a directory has been made there. -/
inductive Grows (mayMake : Prop) : Option Entry → Option Entry → Prop
  | alike {left right : Option Entry} (alike : Resembles left right) : Grows mayMake left right
  | made (allowed : mayMake) (children : List (Text × Entry)) :
      Grows mayMake none (some (.directory children))

theorem Grows.trans {mayMake : Prop} {first second third : Option Entry}
    (early : Grows mayMake first second) (late : Grows mayMake second third) :
    Grows mayMake first third := by
  cases early with
  | alike early =>
      cases late with
      | alike late => exact .alike (early.trans late)
      | made allowed children =>
          cases early
          exact .made allowed children
  | made allowed children =>
      cases late with
      | alike late =>
          cases late with
          | same => exact .made allowed children
          | directories _ last => exact .made allowed last

theorem Grows.mono {mayMake weaker : Prop} {left right : Option Entry}
    (grows : Grows mayMake left right) (weaken : mayMake → weaker) : Grows weaker left right := by
  cases grows with
  | alike alike => exact .alike alike
  | made allowed children => exact .made (weaken allowed) children

/-- What a file holds and when it changed; of a directory, only that it is one. -/
def leaf : Entry → Option (Bytes × Int)
  | .file content changed => some (content, changed)
  | .directory _ => none

theorem Resembles.leaf {left right : Option Entry} (alike : Resembles left right) :
    left.map Entry.leaf = right.map Entry.leaf := by
  cases alike <;> rfl

end Entry

namespace Tree

/-! ## What a path shows -/

variable {tree left right : Tree} {path : Path} {place names : List Text} {hidden : Text → Bool}

/-- What can be seen through a path without listing a directory. -/
def sight (tree : Tree) (path : Path) : Except StorageFault (Option (Option (Bytes × Int))) :=
  (tree.status path).map (Option.map Entry.leaf)

theorem isFile_eq_sight (tree : Tree) (path : Path) :
    tree.isFile path = match tree.sight path with
      | .ok (some leaf) => leaf.isSome
      | _ => false := by
  rw [isFile, sight, status]
  cases found : tree.entry path with
  | ok entry => cases entry <;> rfl
  | error why => cases why <;> rfl

/-- The text of a file, if there is one. -/
theorem readText_eq_sight (tree : Tree) (path : Path) :
    (tree.readText path).toOption = match tree.sight path with
      | .ok (some (some (content, _))) => (Utf8.decode content).toOption.map Text.unifyNewlines
      | _ => none := by
  rw [readText, readBytes, sight, status]
  cases found : tree.entry path with
  | ok entry =>
      cases entry with
      | directory children => rfl
      | file content changed =>
          cases decoded : Utf8.decode content <;> simp [Except.map, Entry.leaf, decoded, Except.toOption]
  | error why => cases why <;> rfl

/-! ## Paths without two dots -/

/-- A path with a root and without two dots. -/
structure Plain (path : Path) : Prop where
  rooted : path.isAbsolute = true
  plain : upward ∉ path.names

theorem Plain.absolute (plain : Plain path) (tree : Tree) : tree.absolute path = path := by
  rw [Tree.absolute, Path.join, if_pos plain.rooted]

theorem Plain.child (plain : Plain path) {name : Text} (ordinary : name ≠ upward) :
    Plain (path.child name) := by
  refine ⟨plain.rooted, ?_⟩
  rw [Path.child, List.mem_append, List.mem_singleton, not_or]
  exact ⟨plain.plain, Ne.symm ordinary⟩

theorem Plain.of_names (plain : Plain path) {names : List Text} (ordinary : upward ∉ names) :
    Plain { path with names } :=
  ⟨plain.rooted, ordinary⟩

theorem Plain.parent (plain : Plain path) : Plain path.parent :=
  plain.of_names fun member => plain.plain (List.dropLast_subset _ member)

/-- A plain path is in normal form. -/
theorem normalize_plain (plain : Plain path) : path.normalize = path := by
  have fixed (done names : List Text) (ordinary : upward ∉ names) :
      Path.normalizeNames path.isAbsolute done names = done.reverse ++ names := by
    induction names generalizing done with
    | nil => simp [Path.normalizeNames]
    | cons name rest inductionHypothesis =>
        rw [List.mem_cons, not_or] at ordinary
        unfold Path.normalizeNames
        rw [if_pos (Ne.symm ordinary.1), inductionHypothesis _ ordinary.2]
        simp
  rw [Path.normalize, fixed [] path.names plain.plain]
  rfl

/-- A path in normal form is plain if it has a root. -/
theorem plain_normalize (rooted : path.isAbsolute = true) : Plain path.normalize := by
  have ordinary (done names : List Text) (plain : upward ∉ done) :
      upward ∉ Path.normalizeNames true done names := by
    induction names generalizing done with
    | nil => simpa [Path.normalizeNames] using plain
    | cons name rest inductionHypothesis =>
        unfold Path.normalizeNames
        split
        · next different =>
            apply inductionHypothesis
            rw [List.mem_cons, not_or]
            exact ⟨Ne.symm different, plain⟩
        · cases done with
          | nil => exact inductionHypothesis [] List.not_mem_nil
          | cons last before =>
              rw [List.mem_cons, not_or] at plain
              dsimp only
              rw [if_neg (Ne.symm plain.1)]
              exact inductionHypothesis before plain.2
  refine ⟨rooted, ?_⟩
  rw [Path.normalize, rooted]
  exact ordinary [] path.names List.not_mem_nil

/-- A walk without two dots ends where its names say. -/
theorem walkNames_plain {done segments reached : List Text} (plain : upward ∉ segments)
    (walked : tree.walkNames done segments = .ok reached) : reached = segments.reverse ++ done := by
  induction segments generalizing done with
  | nil =>
      cases walked
      rfl
  | cons segment rest inductionHypothesis =>
      rw [List.mem_cons, not_or] at plain
      rw [walkNames] at walked
      split at walked
      · cases walked
      · cases walked
      · rw [if_neg (Ne.symm plain.1)] at walked
        split at walked
        · cases walked
        · split at walked
          · rw [inductionHypothesis plain.2 walked]
            simp
          · cases walked

/-- What a plain path leads to is found by walking its names. -/
theorem Plain.locate (plain : Plain path) (tree : Tree) :
    tree.locate path = (tree.walkNames [] path.names).map fun _ => path.names := by
  rw [Tree.locate, plain.absolute]
  cases walked : tree.walkNames [] path.names with
  | error why => rfl
  | ok reached =>
      rw [walkNames_plain plain.plain walked]
      simp [Except.map]

theorem Plain.entry (plain : Plain path) (tree : Tree) :
    tree.entry path = match tree.walkNames [] path.names with
      | .ok _ =>
          match tree.root.at? path.names with
          | some entry => .ok entry
          | none => .error .missing
      | .error why => .error why := by
  rw [Tree.entry, plain.locate]
  cases tree.walkNames [] path.names <;> rfl

/-! ## Places apart from hidden files -/

/-- A place that is neither above the hidden files nor below one of them. -/
structure Clear (place : List Text) (hidden : Text → Bool) (names : List Text) : Prop where
  notAbove : ¬ names <+: place
  notBelow : ∀ name, hidden name = true → ¬ place ++ [name] <+: names

theorem Clear.append (clear : Clear place hidden names) (rest : List Text) :
    Clear place hidden (names ++ rest) := by
  refine ⟨fun above => clear.notAbove ((List.prefix_append names rest).trans above), ?_⟩
  intro name isHidden below
  rcases List.prefix_or_prefix_of_prefix below (List.prefix_append names rest) with inside | above
  · exact clear.notBelow name isHidden inside
  · rcases List.prefix_concat_iff.mp above with same | above
    · exact clear.notBelow name isHidden (same ▸ List.prefix_refl _)
    · exact clear.notAbove above

/-- Hidden files have nothing below them, so every directory beside the way to them is
apart. -/
theorem Clear.of_directory {children : List (Text × Entry)}
    (found : tree.root.at? names = some (.directory children)) (notAbove : ¬ names <+: place)
    (files : ∀ name, hidden name = true →
      ∀ below, tree.root.at? (place ++ [name]) ≠ some (.directory below)) :
    Clear place hidden names := by
  refine ⟨notAbove, fun name isHidden inside => ?_⟩
  obtain ⟨rest, rfl⟩ := inside
  cases rest with
  | nil =>
      rw [List.append_nil] at found
      exact files name isHidden children found
  | cons next rest =>
      obtain ⟨others, directory⟩ := Entry.directory_above found (List.cons_ne_nil next rest)
      exact files name isHidden others directory

/-- A plain path that does not lead to a hidden file. -/
structure Visible (place : List Text) (hidden : Text → Bool) (path : Path) : Prop where
  plain : Plain path
  seen : ∀ name, hidden name = true → path.names ≠ place ++ [name]

/-- A path is visible if its last name is not hidden. -/
theorem visible_of_last {name : Text} (plain : Plain path) (last : path.names = names ++ [name])
    (shown : hidden name = false) : Visible place hidden path := by
  refine ⟨plain, fun other isHidden same => ?_⟩
  have ends := (List.append_inj' (last.symm.trans same) rfl).2
  rw [List.cons.inj ends |>.1, isHidden] at shown
  cases shown

theorem Plain.visible_child (plain : Plain path) {name : Text} (ordinary : name ≠ upward)
    (shown : hidden name = false) : Visible place hidden (path.child name) :=
  visible_of_last (plain.child ordinary) rfl shown

/-! ## Looking along a path -/

/-- What is seen at the end of a path, from a place that is given by its names with the last
one first. -/
def glimpse (tree : Tree) (done : List Text) : List Text →
    Except StorageFault (Option (Option (Bytes × Int)))
  | [] => .ok ((tree.root.at? done.reverse).map Entry.leaf)
  | segment :: rest =>
      match tree.root.at? done.reverse with
      | some (.directory _) =>
          if longestName < (Utf8.encode segment).length then .error .nameTooLong
          else glimpse tree (segment :: done) rest
      | _ => .ok none

/-- Where nothing is, nothing is seen. -/
theorem glimpse_of_missing {done : List Text} (missing : tree.root.at? done.reverse = none)
    (segments : List Text) : tree.glimpse done segments = .ok none := by
  cases segments <;> simp [glimpse, missing]

/-- Nothing is seen below what is no directory. -/
theorem glimpse_below {done : List Text}
    (noDirectory : ∀ children, tree.root.at? done.reverse ≠ some (.directory children))
    (segment : Text) (rest : List Text) : tree.glimpse done (segment :: rest) = .ok none := by
  rw [glimpse]
  split
  · next children found => exact absurd found (noDirectory children)
  · rfl

/-- No directory is seen in what is none. -/
theorem leaf_ne_directory {found : Option Entry}
    (noDirectory : ∀ children, found ≠ some (.directory children)) :
    found.map Entry.leaf ≠ some none := by
  cases found with
  | none => simp
  | some entry =>
      cases entry with
      | file content changed => simp [Entry.leaf]
      | directory children => exact absurd rfl (noDirectory children)

/-- What is there is seen, unless a name on the way is too long. -/
theorem glimpse_of_at? {done segments : List Text} {entry : Entry}
    (there : tree.root.at? (done.reverse ++ segments) = some entry) :
    tree.glimpse done segments = .ok (some entry.leaf) ∨
      tree.glimpse done segments = .error .nameTooLong := by
  induction segments generalizing done with
  | nil =>
      rw [List.append_nil] at there
      exact Or.inl (by rw [glimpse, there]; rfl)
  | cons segment rest inductionHypothesis =>
      obtain ⟨children, here⟩ := Entry.directory_above there (List.cons_ne_nil segment rest)
      rw [glimpse, here]
      dsimp only
      split
      · exact Or.inr rfl
      · exact inductionHypothesis (by simpa using there)

/-- What is seen is there. -/
theorem at?_of_glimpse {done segments : List Text} {leaf : Option (Bytes × Int)}
    (seen : tree.glimpse done segments = .ok (some leaf)) :
    ∃ entry, tree.root.at? (done.reverse ++ segments) = some entry ∧ entry.leaf = leaf := by
  induction segments generalizing done with
  | nil =>
      rw [glimpse, Except.ok.injEq, Option.map_eq_some_iff] at seen
      rwa [List.append_nil]
  | cons segment rest inductionHypothesis =>
      rw [glimpse] at seen
      split at seen
      · split at seen
        · cases seen
        · simpa using inductionHypothesis seen
      · cases seen

/-- What cannot be seen is past a name that is too long. -/
theorem tooLong_of_glimpse {done segments : List Text} {why : StorageFault}
    (unseen : tree.glimpse done segments = .error why) :
    ∃ name ∈ segments, longestName < (Utf8.encode name).length := by
  induction segments generalizing done with
  | nil => cases unseen
  | cons segment rest inductionHypothesis =>
      rw [glimpse] at unseen
      split at unseen
      · split at unseen
        · next long => exact ⟨segment, List.mem_cons_self, long⟩
        · obtain ⟨name, member, long⟩ := inductionHypothesis unseen
          exact ⟨name, List.mem_cons_of_mem segment member, long⟩
      · cases unseen

theorem directory_of_glimpse (seen : tree.glimpse [] names = .ok (some none)) :
    ∃ children, tree.root.at? names = some (.directory children) := by
  obtain ⟨entry, there, leaf⟩ := at?_of_glimpse seen
  cases entry with
  | file content changed => cases leaf
  | directory children => exact ⟨children, there⟩

/-- Where nothing is seen, nothing is. -/
theorem missing_of_glimpse (seen : tree.glimpse [] names = .ok none) :
    tree.root.at? names = none := by
  cases found : tree.root.at? names with
  | none => rfl
  | some entry =>
      rcases @glimpse_of_at? tree [] names entry found with there | there
      · rw [seen] at there
        cases there
      · rw [seen] at there
        cases there

theorem glimpse_eq_walkNames {done segments : List Text} (ordinary : upward ∉ segments) :
    tree.glimpse done segments = match tree.walkNames done segments with
      | .ok _ => .ok ((tree.root.at? (done.reverse ++ segments)).map Entry.leaf)
      | .error .nameTooLong => .error .nameTooLong
      | .error _ => .ok none := by
  induction segments generalizing done with
  | nil => simp [glimpse, walkNames]
  | cons segment rest inductionHypothesis =>
      rw [List.mem_cons, not_or] at ordinary
      rw [glimpse, walkNames]
      cases here : tree.root.at? done.reverse with
      | none => rfl
      | some entry =>
          cases entry with
          | file content changed => rfl
          | directory children =>
              simp only [if_neg (Ne.symm ordinary.1)]
              split
              · rfl
              · have next : tree.root.at? (segment :: done).reverse = Entry.look? children segment := by
                  rw [List.reverse_cons, Entry.at?_concat, here]
                  rfl
                cases looked : Entry.look? children segment with
                | none => exact glimpse_of_missing (next.trans looked) rest
                | some child =>
                    have later := @inductionHypothesis (segment :: done) ordinary.2
                    rwa [List.reverse_cons, List.append_assoc, List.singleton_append] at later

theorem Plain.sight_eq (plain : Plain path) (tree : Tree) :
    tree.sight path = tree.glimpse [] path.names := by
  rw [sight, status, plain.entry, glimpse_eq_walkNames plain.plain]
  cases tree.walkNames [] path.names with
  | ok reached =>
      rw [List.reverse_nil, List.nil_append]
      cases tree.root.at? path.names <;> rfl
  | error why => cases why <;> rfl

/-! ## Trees that have grown -/

/-- Two trees differ at most in hidden files that are named in the directory at a place, and
in directories that have been made on the way there. -/
structure Grown (mayMake : Prop) (place : List Text) (hidden : Text → Bool) (left right : Tree) :
    Prop where
  current : right.current = left.current
  elsewhere : ∀ names, ¬ names <+: place → (∀ name, hidden name = true → names ≠ place ++ [name]) →
    left.root.at? names = right.root.at? names
  above : ∀ names, names <+: place →
    Entry.Grows mayMake (left.root.at? names) (right.root.at? names)
  leftFiles : ∀ name, hidden name = true →
    ∀ below, left.root.at? (place ++ [name]) ≠ some (.directory below)
  rightFiles : ∀ name, hidden name = true →
    ∀ below, right.root.at? (place ++ [name]) ≠ some (.directory below)

/-- What is seen later is what was seen before; or nothing was seen before, and it is a new
directory or a name that is too long. -/
inductive Sees (mayMake : Prop) :
    Except StorageFault (Option (Option (Bytes × Int))) →
      Except StorageFault (Option (Option (Bytes × Int))) → Prop
  | same (seen : Except StorageFault (Option (Option (Bytes × Int)))) : Sees mayMake seen seen
  | directory (allowed : mayMake) : Sees mayMake (.ok none) (.ok (some none))
  | tooLong (allowed : mayMake) : Sees mayMake (.ok none) (.error .nameTooLong)

namespace Grown

variable {mayMake : Prop}

theorem refl (files : ∀ name, hidden name = true →
    ∀ below, tree.root.at? (place ++ [name]) ≠ some (.directory below)) :
    Grown mayMake place hidden tree tree :=
  ⟨rfl, fun _ _ _ => rfl, fun _ _ => .alike (.same _), files, files⟩

theorem trans {first second third : Tree} (early : Grown mayMake place hidden first second)
    (late : Grown mayMake place hidden second third) : Grown mayMake place hidden first third where
  current := late.current.trans early.current
  elsewhere := fun names notAbove seen =>
    (early.elsewhere names notAbove seen).trans (late.elsewhere names notAbove seen)
  above := fun names above => (early.above names above).trans (late.above names above)
  leftFiles := early.leftFiles
  rightFiles := late.rightFiles

theorem mono {weaker : Prop} (grown : Grown mayMake place hidden left right)
    (weaken : mayMake → weaker) : Grown weaker place hidden left right :=
  ⟨grown.current, grown.elsewhere, fun names above => (grown.above names above).mono weaken,
    grown.leftFiles, grown.rightFiles⟩

theorem grows (grown : Grown mayMake place hidden left right)
    (seen : ∀ name, hidden name = true → names ≠ place ++ [name]) :
    Entry.Grows mayMake (left.root.at? names) (right.root.at? names) := by
  by_cases above : names <+: place
  · exact grown.above names above
  · rw [grown.elsewhere names above seen]
    exact .alike (.same _)

/-- A directory above the hidden files stays one. -/
theorem directory (grown : Grown mayMake place hidden left right) (above : names <+: place)
    {children : List (Text × Entry)} (found : left.root.at? names = some (.directory children)) :
    ∃ others, right.root.at? names = some (.directory others) := by
  have grows := grown.above names above
  rw [found] at grows
  generalize right.root.at? names = late at grows
  cases grows with
  | alike alike => cases alike <;> exact ⟨_, rfl⟩

/-- A file that is not hidden stands in both trees or in none. -/
theorem file_iff (grown : Grown mayMake place hidden left right)
    (seen : ∀ name, hidden name = true → names ≠ place ++ [name]) {content : Bytes} {changed : Int} :
    right.root.at? names = some (.file content changed) ↔
      left.root.at? names = some (.file content changed) := by
  have grows := grown.grows seen
  generalize left.root.at? names = early at grows
  generalize right.root.at? names = late at grows
  cases grows with
  | alike alike => cases alike <;> simp
  | made allowed children => simp

/-- Along a path the trees look the same as far as `Sees` says, unless the path leads to a
hidden file. -/
theorem glimpse (grown : Grown mayMake place hidden left right) (done segments : List Text) :
    Sees mayMake (left.glimpse done segments) (right.glimpse done segments) ∨
      (∃ name, hidden name = true ∧ done.reverse ++ segments = place ++ [name]) ∧
        ∃ early late, left.glimpse done segments = .ok early ∧
          right.glimpse done segments = .ok late ∧ early ≠ some none ∧ late ≠ some none := by
  induction segments generalizing done with
  | nil =>
      by_cases seen : ∀ name, hidden name = true → done.reverse ≠ place ++ [name]
      · left
        rw [Tree.glimpse, Tree.glimpse]
        have here := grown.grows seen
        generalize left.root.at? done.reverse = leftHere at here
        generalize right.root.at? done.reverse = rightHere at here
        cases here with
        | alike alike =>
            rw [alike.leaf]
            exact .same _
        | made allowed children => exact .directory allowed
      · push Not at seen
        obtain ⟨name, isHidden, names⟩ := seen
        refine Or.inr ⟨⟨name, isHidden, by rw [List.append_nil, names]⟩, _, _, rfl, rfl, ?_, ?_⟩
        · exact leaf_ne_directory (names ▸ grown.leftFiles name isHidden)
        · exact leaf_ne_directory (names ▸ grown.rightFiles name isHidden)
  | cons segment rest inductionHypothesis =>
      by_cases seen : ∀ name, hidden name = true → done.reverse ≠ place ++ [name]
      · have later := inductionHypothesis (segment :: done)
        have onwards : (segment :: done).reverse ++ rest = done.reverse ++ segment :: rest := by simp
        rw [onwards] at later
        have here := grown.grows seen
        rw [Tree.glimpse, Tree.glimpse]
        generalize before : left.root.at? done.reverse = leftHere at here
        generalize after : right.root.at? done.reverse = rightHere at here
        cases here with
        | alike alike =>
            cases alike with
            | same =>
                cases leftHere with
                | none => exact Or.inl (.same _)
                | some entry =>
                    cases entry with
                    | file content changed => exact Or.inl (.same _)
                    | directory children =>
                        dsimp only
                        split
                        · exact Or.inl (.same _)
                        · exact later
            | directories leftChildren rightChildren =>
                dsimp only
                split
                · exact Or.inl (.same _)
                · exact later
        | made allowed children =>
            have missing : left.root.at? (segment :: done).reverse = none := by
              rw [List.reverse_cons, Entry.at?_concat, before]
              rfl
            rw [glimpse_of_missing missing] at later
            dsimp only
            split
            · exact Or.inl (.tooLong allowed)
            · exact later
      · -- A hidden file has nothing below it.
        push Not at seen
        obtain ⟨name, isHidden, names⟩ := seen
        rw [glimpse_below (names ▸ grown.leftFiles name isHidden),
          glimpse_below (names ▸ grown.rightFiles name isHidden)]
        exact Or.inl (.same _)

theorem at?_eq (grown : Grown mayMake place hidden left right) (clear : Clear place hidden names) :
    left.root.at? names = right.root.at? names :=
  grown.elsewhere names clear.notAbove fun name isHidden same =>
    clear.notBelow name isHidden (same ▸ List.prefix_refl _)

/-- Through a visible path the two trees look the same as far as `Sees` says. -/
theorem sight (grown : Grown mayMake place hidden left right) (visible : Visible place hidden path) :
    Sees mayMake (left.sight path) (right.sight path) := by
  rw [visible.plain.sight_eq, visible.plain.sight_eq]
  rcases grown.glimpse [] path.names with sees | ⟨⟨name, isHidden, names⟩, _⟩
  · exact sees
  · exact absurd names (visible.seen name isHidden)

theorem isFile (grown : Grown mayMake place hidden left right) (visible : Visible place hidden path) :
    left.isFile path = right.isFile path := by
  rw [isFile_eq_sight, isFile_eq_sight]
  have sees := grown.sight visible
  generalize left.sight path = early at sees
  generalize right.sight path = late at sees
  cases sees <;> rfl

theorem readText (grown : Grown mayMake place hidden left right)
    (visible : Visible place hidden path) :
    (left.readText path).toOption = (right.readText path).toOption := by
  rw [readText_eq_sight, readText_eq_sight]
  have sees := grown.sight visible
  generalize left.sight path = early at sees
  generalize right.sight path = late at sees
  cases sees <;> rfl

end Grown

/-! ## Twins -/

/-- Two trees differ at most in hidden files that are named in the directory at a place. -/
abbrev Twin (place : List Text) (hidden : Text → Bool) (left right : Tree) : Prop :=
  Grown False place hidden left right

theorem Twin.symm (twin : Twin place hidden left right) : Twin place hidden right left where
  current := twin.current.symm
  elsewhere := fun names notAbove seen => (twin.elsewhere names notAbove seen).symm
  above := by
    intro names above
    have grows := twin.above names above
    generalize left.root.at? names = early at grows
    generalize right.root.at? names = late at grows
    cases grows with
    | alike alike => exact .alike alike.symm
    | made impossible _ => exact impossible.elim
  leftFiles := twin.rightFiles
  rightFiles := twin.leftFiles

end Tree
end Codemap
