import Codemap.Proofs.Files.Twin

namespace Codemap
namespace Tree

/-!
# What stands at a place

A path without two dots leads to what stands at the place that its names say.  A
directory that is missing can be made, and then it shows nothing; if it cannot be made, it
is still missing.  Either way nothing changes except on the way to it.
-/

variable {tree : Tree} {path : Path} {place names : List Text}

/-- There is no directory at a place. -/
def Lacks (tree : Tree) (place : List Text) : Prop :=
  ∀ children, tree.root.at? place ≠ some (.directory children)

/-! ## Walking to a place -/

/-- A walk to a place where something stands succeeds. -/
theorem walkNames_of_at? {done : List Text} {found : Entry}
    (named : ∀ name ∈ names, isName name = true)
    (there : tree.root.at? (done.reverse ++ names) = some found) :
    tree.walkNames done names = .ok (names.reverse ++ done) := by
  induction names generalizing done with
  | nil => rfl
  | cons name rest inductionHypothesis =>
      obtain ⟨_, ordinary, short⟩ := isName_iff.mp (named name List.mem_cons_self)
      obtain ⟨children, here⟩ := Entry.directory_above there (List.cons_ne_nil name rest)
      have further : tree.root.at? ((name :: done).reverse ++ rest) = some found := by
        simpa using there
      have present : ∃ child, Entry.look? children name = some child := by
        rw [Entry.at?_append, here, Option.bind_some, Entry.at?] at there
        cases looked : Entry.look? children name with
        | none => simp [Entry.children, looked] at there
        | some child => exact ⟨child, rfl⟩
      obtain ⟨child, present⟩ := present
      have later : tree.walkNames (name :: done) rest = .ok (rest.reverse ++ name :: done) :=
        inductionHypothesis (fun other member => named other (List.mem_cons_of_mem name member))
          further
      rw [walkNames, here]
      simp only [if_neg ordinary, if_neg (Nat.not_lt.mpr short), present, later]
      simp

theorem plain_of_named (rooted : path.isAbsolute = true)
    (named : ∀ name ∈ path.names, isName name = true) : Plain path :=
  ⟨rooted, fun member => (isName_iff.mp (named upward member)).2.1 rfl⟩

/-- A path seen from a directory with a root is plain, and seen again it stays the same. -/
theorem plain_resolve {current : Path} (rooted : current.isAbsolute = true) (path : Path) :
    Plain (Path.resolve current path) := by
  have joined : (current.join path).isAbsolute = true := by
    rw [Path.join]
    split
    · next absolute => exact absolute
    · exact rooted
  exact ⟨rfl, (plain_normalize joined).plain⟩

theorem resolve_resolve {current : Path} (rooted : current.isAbsolute = true) (path : Path) :
    Path.resolve current (Path.resolve current path) = Path.resolve current path := by
  have plain := plain_resolve rooted path
  have joined : current.join (Path.resolve current path) = Path.resolve current path := by
    rw [Path.join, if_pos plain.rooted]
  rw [Path.resolve, joined, normalize_plain plain]
  rfl

/-- A path leads to what stands where its names say. -/
theorem entry_of_at? {found : Entry} (rooted : path.isAbsolute = true)
    (named : ∀ name ∈ path.names, isName name = true)
    (there : tree.root.at? path.names = some found) : tree.entry path = .ok found := by
  rw [(plain_of_named rooted named).entry, walkNames_of_at? named (by simpa using there), there]

/-- What the status of a path tells of is what the path leads to. -/
theorem entry_of_status {found : Entry} (status : tree.status path = .ok (some found)) :
    tree.entry path = .ok found := by
  rw [Tree.status] at status
  split at status
  · next same =>
      cases status
      exact same
  · cases status
  · cases status

/-- Conversely, what a path without two dots leads to stands where its names say. -/
theorem at?_of_entry {found : Entry} (plain : Plain path) (entry : tree.entry path = .ok found) :
    tree.root.at? path.names = some found := by
  rw [plain.entry] at entry
  split at entry
  · split at entry
    · next there =>
        cases entry
        exact there
    · cases entry
  · cases entry

/-- A path that leads somewhere leads where its names say, and they can be given to entries. -/
theorem named_of_locate (plain : Plain path) (legible : path.Legible)
    (located : tree.locate path = .ok names) :
    names = path.names ∧ ∀ name ∈ names, isName name = true := by
  rw [plain.locate] at located
  cases walked : tree.walkNames [] path.names with
  | error why =>
      rw [walked] at located
      cases located
  | ok reached =>
      rw [walked] at located
      cases located
      have short := short_of_walkNames walked (by simp)
      rw [walkNames_plain plain.plain walked, List.append_nil] at short
      refine ⟨rfl, fun name member => isName_iff.mpr
        ⟨legible.segments name member, ?_, short name (List.mem_reverse.mpr member)⟩⟩
      rintro rfl
      exact plain.plain member

/-- A path that leads to an entry has names that can be given to entries. -/
theorem named_of_entry {found : Entry} (plain : Plain path) (legible : path.Legible)
    (entry : tree.entry path = .ok found) : ∀ name ∈ path.names, isName name = true := by
  cases located : tree.locate path with
  | error why =>
      rw [Tree.entry, located] at entry
      cases entry
  | ok names =>
      obtain ⟨rfl, named⟩ := named_of_locate plain legible located
      exact named

/-- What a path leads to depends on what stands where its names say. -/
theorem entry_ok_congr {after : Tree} {found : Entry} (rooted : path.isAbsolute = true)
    (named : ∀ name ∈ path.names, isName name = true)
    (same : after.root.at? path.names = tree.root.at? path.names) :
    after.entry path = .ok found ↔ tree.entry path = .ok found := by
  have plain := plain_of_named rooted named
  constructor
  · intro entry
    exact entry_of_at? rooted named (same ▸ at?_of_entry plain entry)
  · intro entry
    exact entry_of_at? rooted named (same ▸ at?_of_entry plain entry)

theorem isFile_iff : tree.isFile path = true ↔
    ∃ content changed, tree.entry path = .ok (.file content changed) := by
  rw [isFile]
  cases tree.entry path with
  | error why => simp
  | ok entry => cases entry <;> simp [Entry.isFile]

theorem isFile_congr {after : Tree} (rooted : path.isAbsolute = true)
    (named : ∀ name ∈ path.names, isName name = true)
    (same : after.root.at? path.names = tree.root.at? path.names) :
    after.isFile path = tree.isFile path := by
  rw [Bool.eq_iff_iff, isFile_iff, isFile_iff]
  simp only [entry_ok_congr rooted named same]

/-- A path to a directory shows what the directory holds. -/
theorem holds_of_at? {children : List (Text × Entry)} (rooted : path.isAbsolute = true)
    (named : ∀ name ∈ path.names, isName name = true)
    (there : tree.root.at? path.names = some (.directory children)) :
    tree.Holds path path.names (Entry.look? children) := by
  have plain := plain_of_named rooted named
  refine ⟨by rw [plain.absolute, rooted], ?_, children, there, rfl⟩
  rw [plain.locate, walkNames_of_at? named (by simpa using there)]
  rfl

/-- A text is that of a path to a file at a place. -/
structure Lists (tree : Tree) (text : Text) (names : List Text) (content : Bytes) (changed : Int) :
    Prop where
  text : text = Path.text { names }
  nonempty : names ≠ []
  named : ∀ name ∈ names, isName name = true
  there : tree.root.at? names = some (.file content changed)

namespace Lists

variable {after : Tree} {text : Text} {content : Bytes} {changed : Int}

theorem ofText_eq (lists : tree.Lists text names content changed) : Path.ofText text = { names } := by
  have legible : Path.Legible { names } :=
    ⟨rfl, fun name member => isSegment_of_isName (lists.named name member)⟩
  rw [lists.text, legible.ofText_text]

theorem entry (lists : tree.Lists text names content changed) :
    tree.entry (Path.ofText text) = .ok (.file content changed) := by
  rw [lists.ofText_eq]
  exact entry_of_at? rfl lists.named lists.there

theorem readText (lists : tree.Lists text names content changed) :
    tree.readText (Path.ofText text) = match Utf8.decode content with
      | .ok decoded => .ok decoded.unifyNewlines
      | .error failure => .error (.undecodable failure) := by
  cases decoded : Utf8.decode content <;>
    simp only [Tree.readText, readBytes, lists.entry, decoded]

/-- The file stands there in another tree as well. -/
theorem of_at?_eq (lists : tree.Lists text names content changed)
    (same : after.root.at? names = tree.root.at? names) : after.Lists text names content changed :=
  ⟨lists.text, lists.nonempty, lists.named, same.trans lists.there⟩

end Lists

/-- In a directory that is missing there is nothing to be read. -/
theorem readText_lacking (plain : Plain path) (lacks : tree.Lacks path.names) {name : Text}
    (ordinary : name ≠ upward) :
    ∃ why, tree.readText (path.child name) = .error (.storage why) := by
  rw [readText, readBytes]
  cases found : tree.entry (path.child name) with
  | error why => exact ⟨why, rfl⟩
  | ok entry =>
      have there := at?_of_entry (plain.child ordinary) found
      obtain ⟨children, directory⟩ := Entry.directory_above there (List.cons_ne_nil name [])
      exact absurd directory (lacks children)

/-! ## Making a directory that is missing -/

private theorem enter_lacking {first rest : List Text} (lacks : tree.Lacks (first.reverse ++ rest))
    (entered : prepareDirectory.enter tree first rest = .ok ()) (nonempty : rest ≠ []) :
    ∃ above name later, rest = above ++ name :: later ∧
      tree.root.at? (first.reverse ++ above ++ [name]) = none ∧
      (∀ other ∈ above ++ [name], (Utf8.encode other).length ≤ longestName) ∧
      ∀ upper, upper <+: above → upper ≠ [] →
        ∃ children, tree.root.at? (first.reverse ++ upper) = some (.directory children) := by
  induction rest generalizing first with
  | nil => exact absurd rfl nonempty
  | cons name rest inductionHypothesis =>
      rw [prepareDirectory.enter] at entered
      split at entered
      · cases entered
      · next fits =>
          have short : (Utf8.encode name).length ≤ longestName := Nat.le_of_not_lt fits
          split at entered
          · cases entered
          · next children found =>
              have beyond : first.reverse ++ name :: rest = (name :: first).reverse ++ rest := by
                simp
              rw [beyond] at lacks
              have remaining : rest ≠ [] := by
                rintro rfl
                rw [List.append_nil] at lacks
                exact lacks children found
              obtain ⟨above, missing, later, split, absent, shorts, directories⟩ :=
                inductionHypothesis lacks entered remaining
              refine ⟨name :: above, missing, later, by rw [split]; rfl, by simpa using absent, ?_, ?_⟩
              · intro other member
                rcases List.mem_cons.mp member with rfl | member
                · exact short
                · exact shorts other member
              · intro upper inside nonempty
                obtain ⟨head, more, rfl⟩ := List.exists_cons_of_ne_nil nonempty
                obtain ⟨rfl, within⟩ := List.cons_prefix_cons.mp inside
                by_cases last : more = []
                · exact ⟨children, by rw [last, ← found, List.reverse_cons]⟩
                · obtain ⟨others, directory⟩ := directories more within last
                  exact ⟨others, by simpa using directory⟩
          · next absent =>
              refine ⟨[], name, rest, rfl, by simpa using absent, by simpa using short, ?_⟩
              intro upper inside nonempty
              exact absurd (List.prefix_nil.mp inside) nonempty

/-- What making a directory leaves: everything stays as it was except on the way, where
directories may have been made, and the directory is empty or still missing. -/
structure Prepared (before after : Tree) (path : Path) (result : Except StorageFault Unit) :
    Prop where
  current : after.current = before.current
  apart : ∀ names, ¬ names <+: path.names → after.root.at? names = before.root.at? names
  above : before.root.isDirectory = true → ∀ names, names <+: path.names →
    Entry.Grows True (before.root.at? names) (after.root.at? names)
  ending : (∃ why, result = .error why) ∧ after.Lacks path.names ∨
    result = .ok () ∧ after.Holds path path.names fun _ => none

private theorem at?_missing {above : List Text} (missing : tree.root.at? above = none)
    (rest : List Text) : tree.root.at? (above ++ rest) = none := by
  rw [Entry.at?_append, missing]
  rfl

private theorem at?_empty {names : List Text} (nonempty : names ≠ []) :
    (Entry.directory []).at? names = none := by
  cases names with
  | nil => exact absurd rfl nonempty
  | cons name rest => rfl

/-- A directory that is put where nothing was changes nothing except on the way. -/
theorem at?_place_apart {above names : List Text} (missing : tree.root.at? above = none)
    (notAbove : ¬ names <+: above) :
    (tree.place above (.directory [])).root.at? names = tree.root.at? names := by
  by_cases below : above <+: names
  · obtain ⟨rest, rfl⟩ := below
    have further : rest ≠ [] := by
      rintro rfl
      exact notAbove (by simp)
    rw [at?_place_below, at?_empty further, at?_missing missing]
  · exact at?_place_beside tree _ notAbove below

/-- Putting a directory where nothing stands makes every place on the way grow. -/
private theorem grows_place {above later place : List Text} {name : Text}
    (top : tree.root.isDirectory = true) (absent : tree.root.at? (above ++ [name]) = none)
    (directories : ∀ upper, upper <+: above → upper ≠ [] →
      ∃ children, tree.root.at? upper = some (.directory children))
    (missing : tree.root.at? place = none) (inside : names <+: above ++ name :: later) :
    Entry.Grows True (tree.root.at? names)
      ((tree.place place (.directory [])).root.at? names) := by
  by_cases upon : names <+: place
  · obtain ⟨others, there⟩ := at?_place_above tree [] upon
    rw [there]
    rcases List.prefix_or_prefix_of_prefix inside
        (show above ++ [name] <+: above ++ name :: later by simp) with within | beyond
    · rcases List.prefix_concat_iff.mp within with last | upper
      · rw [last, absent]
        exact .made trivial others
      · obtain ⟨children, here⟩ : ∃ children,
            tree.root.at? names = some (.directory children) := by
          by_cases root : names = []
          · cases directory : tree.root with
            | file content changed => simp [directory, Entry.isDirectory] at top
            | directory children => exact ⟨children, by rw [root]; rfl⟩
          · exact directories names upper root
        rw [here]
        exact .alike (.directories children others)
    · obtain ⟨rest, rfl⟩ := beyond
      rw [at?_missing absent rest]
      exact .made trivial others
  · rw [at?_place_apart missing upon]
    exact .alike (.same _)

/-- An empty directory is found where one is put, if every name on the way is one. -/
private theorem holds_place (plain : Plain path) (legible : path.Legible)
    (short : ∀ name ∈ path.names, (Utf8.encode name).length ≤ longestName) :
    (tree.place path.names (.directory [])).Holds path path.names fun _ => none := by
  have named : ∀ name ∈ path.names, isName name = true := by
    intro name member
    refine isName_iff.mpr ⟨legible.segments name member, ?_, short name member⟩
    rintro rfl
    exact plain.plain member
  have there := at?_place_below tree path.names (.directory []) []
  rw [List.append_nil] at there
  exact holds_of_at? plain.rooted named there

/-- If only the names in front of one that is refused are followed, nothing is found behind it. -/
private theorem lacks_place {short : Text → Bool} (long : ¬ names.all short = true) :
    (tree.place (names.takeWhile short) (.directory [])).Lacks names := by
  have beyond : names.dropWhile short ≠ [] := by
    rw [ne_eq, List.dropWhile_eq_nil_iff]
    exact fun each => long (List.all_eq_true.mpr each)
  have there := at?_place_below tree (names.takeWhile short) (.directory []) (names.dropWhile short)
  rw [List.takeWhile_append_dropWhile, at?_empty beyond] at there
  exact fun children found => by simp [there] at found

/-- A beginning of names that are all accepted belongs to what is taken. -/
private theorem prefix_takeWhile {short : Text → Bool} {above : List Text}
    (shorts : ∀ name ∈ above, short name = true) (begins : above <+: names) :
    above <+: names.takeWhile short := by
  obtain ⟨later, rfl⟩ := begins
  rw [List.takeWhile_append_of_pos shorts]
  exact List.prefix_append _ _

theorem prepareDirectory_lacking (plain : Plain path) (legible : path.Legible)
    (nonempty : path.names ≠ []) (lacks : tree.Lacks path.names) :
    Prepared tree (tree.prepareDirectory path).2 path (tree.prepareDirectory path).1 := by
  have normal : (tree.absolute path).normalize = path := by
    rw [plain.absolute, normalize_plain plain]
  rw [prepareDirectory, normal]
  dsimp only
  cases entered : prepareDirectory.enter tree [] path.names with
  | error why =>
      exact ⟨rfl, fun _ _ => rfl, fun _ _ _ => .alike (.same _), Or.inl ⟨⟨why, rfl⟩, lacks⟩⟩
  | ok done =>
      have lacking : tree.Lacks ([].reverse ++ path.names) := lacks
      obtain ⟨above, name, later, split, absent, shorts, directories⟩ :=
        enter_lacking lacking entered nonempty
      generalize fits : (fun name => decide ((Utf8.encode name).length ≤ longestName)) = short
      have begins : above ++ [name] <+: path.names.takeWhile short := by
        refine prefix_takeWhile (fun other member => ?_) (by simp [split])
        rw [← fits]
        exact decide_eq_true (shorts other member)
      obtain ⟨more, taken⟩ := begins
      have possible : path.names.takeWhile short ≠ [] := by simp [← taken]
      have missing : tree.root.at? (path.names.takeWhile short) = none := by
        rw [← taken]
        exact at?_missing (by simpa using absent) more
      have onTheWay : path.names.takeWhile short <+: path.names := List.takeWhile_prefix short
      rw [missing]
      refine ⟨rfl, fun names notAbove => ?_, fun top names inside => ?_, ?_⟩
      · exact at?_place_apart missing fun above => notAbove (above.trans onTheWay)
      · exact grows_place top (by simpa using absent) (by simpa using directories) missing
          (split ▸ inside)
      · by_cases all : path.names.all short = true
        · right
          have whole : path.names.takeWhile short = path.names :=
            List.takeWhile_eq_self_iff.mpr (List.all_eq_true.mp all)
          rw [if_pos all, whole]
          refine ⟨rfl, holds_place plain legible fun name member => ?_⟩
          have fitting := List.all_eq_true.mp all name member
          rw [← fits] at fitting
          exact of_decide_eq_true fitting
        · left
          rw [if_neg all]
          exact ⟨⟨_, rfl⟩, lacks_place all⟩

/-- Making a directory that is missing makes the tree grow. -/
theorem Prepared.grown {before after : Tree} {result : Except StorageFault Unit}
    {hidden : Text → Bool} (prepared : Prepared before after path result)
    (lacks : before.Lacks path.names) (top : before.root.isDirectory = true) :
    Grown True path.names hidden before after := by
  have noFiles (name : Text) (children : List (Text × Entry)) :
      before.root.at? (path.names ++ [name]) ≠ some (.directory children) := by
    intro found
    obtain ⟨others, directory⟩ := Entry.directory_above found (List.cons_ne_nil name [])
    exact lacks others directory
  refine ⟨prepared.current, fun names notAbove _ => (prepared.apart names notAbove).symm,
    prepared.above top, fun name _ => noFiles name, fun name _ children found => ?_⟩
  have apart : ¬ path.names ++ [name] <+: path.names := by
    intro above
    have longer := above.length_le
    simp only [List.length_append, List.length_singleton] at longer
    omega
  rw [prepared.apart _ apart] at found
  exact noFiles name children found

/-- A directory that is missing was missing before. -/
theorem Grown.lacks {mayMake : Prop} {hidden : Text → Bool} {left right : Tree}
    (grown : Grown mayMake place hidden left right) (lacks : right.Lacks place) :
    left.Lacks place := by
  intro children found
  obtain ⟨others, there⟩ := grown.directory (List.prefix_refl place) found
  exact lacks others there

end Tree
end Codemap
