import Codemap.Proofs.Cache.History
import Codemap.Proofs.Files.Edit
import Codemap.Proofs.Import.Visible

namespace Codemap
namespace Cache

/-!
# What keeping bundles leaves alone

The entries of the cache have names of their own.  Keeping a bundle changes such entries
only, so the tree before and the tree after cannot be told apart from elsewhere.  The same
holds of a tree whose cache has been emptied.  If there is no cache directory yet, the
first bundle that is kept makes one, and nothing beside it changes.
-/

open Codemap.Tree

variable {directory : Path} {tree after : Tree} {place names : List Text}
  {view other : Text → Option Entry} {occurs : Subject → Prop} {log : List Kept}
  {subject : Subject} {content : Text} {hidden : Text → Bool}

/-! ## The names of entries -/

private theorem source_ends : ∀ ending ∈ Walk.sourceSuffixes,
    ¬ ending <:+ ".md".toList ∧ ¬ ".md".toList <:+ ending ∧
      ¬ ending <:+ ".meta.json".toList ∧ ¬ ".meta.json".toList <:+ ending := by
  decide

private theorem marker_ends (marker : Import.Marker) : ∀ name ∈ marker.files,
    ¬ ".md".toList <:+ name ∧ ¬ ".meta.json".toList <:+ name := by
  cases marker <;> decide

/-- Resolving imports makes no name of an entry. -/
theorem overlooks_isEntryName : Import.Overlooks isEntryName where
  source := by
    intro stem ending listed
    apply Bool.eq_false_iff.mpr
    intro entry
    obtain ⟨notMd, notMd', notJson, notJson'⟩ := source_ends ending listed
    have ends : ending <:+ stem ++ ending := List.suffix_append stem ending
    rcases (shape_of_isEntryName entry).2 with md | json
    · exact (List.suffix_or_suffix_of_suffix ends md).elim notMd notMd'
    · exact (List.suffix_or_suffix_of_suffix ends json).elim notJson notJson'
  marker := by
    intro marker name listed
    apply Bool.eq_false_iff.mpr
    intro entry
    obtain ⟨notMd, notJson⟩ := marker_ends marker name listed
    exact (shape_of_isEntryName entry).2.elim notMd notJson

/-! ## The entries that are hidden -/

/-- The hidden files are those that have the names of entries. -/
def Hides (hidden : Text → Bool) (place : List Text) (tree : Tree) : Prop :=
  ∀ name, hidden name = true ↔ isEntryName name = true ∧
    ∀ below, tree.root.at? (place ++ [name]) ≠ some (.directory below)

/-- The name of an entry where no directory stands. -/
def isHiddenIn (place : List Text) (tree : Tree) (name : Text) : Bool :=
  isEntryName name && !(tree.root.at? (place ++ [name])).any Entry.isDirectory

theorem hides_isHiddenIn (place : List Text) (tree : Tree) :
    Hides (isHiddenIn place tree) place tree := by
  intro name
  rw [isHiddenIn, Bool.and_eq_true]
  refine and_congr_right fun _ => ?_
  cases tree.root.at? (place ++ [name]) with
  | none => simp
  | some entry => cases entry <;> simp [Entry.isDirectory]

namespace Hides

variable {mayMake : Prop}

theorem files (hides : Hides hidden place tree) : ∀ name, hidden name = true →
    ∀ below, tree.root.at? (place ++ [name]) ≠ some (.directory below) :=
  fun name isHidden => ((hides name).mp isHidden).2

theorem overlooks (hides : Hides hidden place tree) : Import.Overlooks hidden where
  source := fun stem ending listed => Bool.eq_false_iff.mpr fun isHidden => by
    have shown := overlooks_isEntryName.source stem ending listed
    rw [((hides _).mp isHidden).1] at shown
    cases shown
  marker := fun marker name listed => Bool.eq_false_iff.mpr fun isHidden => by
    have shown := overlooks_isEntryName.marker marker name listed
    rw [((hides _).mp isHidden).1] at shown
    cases shown

/-- The same files are hidden in a tree that has grown. -/
theorem of_grown (hides : Hides hidden place tree) (grown : Grown mayMake place hidden tree after) :
    Hides hidden place after := by
  intro name
  refine ⟨fun isHidden => ⟨((hides name).mp isHidden).1, grown.rightFiles name isHidden⟩, ?_⟩
  rintro ⟨entry, free⟩
  by_contra shown
  have notAbove : ¬ place ++ [name] <+: place := by
    intro above
    have longer := above.length_le
    rw [List.length_append, List.length_singleton] at longer
    omega
  have same := grown.elsewhere (place ++ [name]) notAbove fun other isHidden equal =>
    shown ((List.cons.inj (List.append_cancel_left equal)).1 ▸ isHidden)
  refine shown ((hides name).mpr ⟨entry, fun below found => ?_⟩)
  exact free below (same ▸ found)

end Hides

/-! ## Twins -/

/-- A change of hidden files leaves a twin. -/
theorem twin_of_revised {hidden : Text → Bool} (holds : tree.Holds directory place view)
    (revised : tree.Revised after directory place other)
    (files : ∀ name, hidden name = true → ∀ below, view name ≠ some (.directory below))
    (otherFiles : ∀ name, hidden name = true → ∀ below, other name ≠ some (.directory below))
    (same : ∀ name, hidden name = false → other name = view name) :
    Twin place hidden tree after := by
  obtain ⟨children, found, rfl⟩ := holds.found
  obtain ⟨others, stays, rfl⟩ := revised.holds.found
  refine ⟨revised.same.current, ?_, ?_, ?_, ?_⟩
  · intro names notAbove seen
    by_cases below : place <+: names
    · obtain ⟨rest, rfl⟩ := below
      cases rest with
      | nil => exact absurd (by simp) notAbove
      | cons name rest =>
          rw [Entry.at?_inside found, Entry.at?_inside stays]
          by_cases entry : hidden name = true
          · cases rest with
            | nil => exact absurd rfl (seen name entry)
            | cons next rest =>
                rw [Entry.at?_below_file (files name entry),
                  Entry.at?_below_file (otherFiles name entry)]
          · rw [same name (Bool.eq_false_iff.mpr entry)]
    · exact (revised.same.beside names notAbove below).symm
  · intro names above
    obtain ⟨left, here⟩ := holds.above above
    obtain ⟨right, there⟩ := revised.same.above names above
    rw [here, there]
    exact .alike (.directories left right)
  · intro name entry below
    rw [Entry.at?_concat, found]
    exact files name entry below
  · intro name entry below
    rw [Entry.at?_concat, stays]
    exact otherFiles name entry below

/-- Keeping a bundle leaves a tree that differs in hidden files only. -/
theorem twin_of_overwritten (holds : tree.Holds directory place view)
    (revised : tree.Revised after directory place other)
    (overwritten : Overwritten subject content view other) (hides : Hides hidden place tree) :
    Twin place hidden tree after := by
  have shown (name : Text) : tree.root.at? (place ++ [name]) = view name := by
    obtain ⟨children, found, rfl⟩ := holds.found
    rw [Entry.at?_concat, found]
    rfl
  have free : ∀ name, hidden name = true → ∀ below, view name ≠ some (.directory below) := by
    intro name isHidden
    rw [← shown]
    exact hides.files name isHidden
  refine twin_of_revised holds revised free
    (fun name isHidden below found =>
      free name isHidden below ((overwritten.directories name below).mp found)) ?_
  intro name unhidden
  by_cases directory : ∃ below, view name = some (.directory below)
  · obtain ⟨below, found⟩ := directory
    rw [found, (overwritten.directories name below).mpr found]
  · push Not at directory
    have noEntry : isEntryName name = false := Bool.eq_false_iff.mpr fun entry => by
      rw [(hides name).mpr ⟨entry, by rwa [shown]⟩] at unhidden
      cases unhidden
    refine overwritten.apart name ?_ ?_
    · rintro rfl
      rw [isEntryName_key] at noEntry
      cases noEntry
    · rintro rfl
      rw [isEntryName_recordName] at noEntry
      cases noEntry

/-- If no entry is a directory, all of them are hidden. -/
theorem hides_isEntryName (holds : tree.Holds directory place view) (onlyFiles : OnlyFiles view) :
    Hides isEntryName place tree := by
  obtain ⟨children, found, rfl⟩ := holds.found
  intro name
  refine ⟨fun entry => ⟨entry, fun below there => ?_⟩, And.left⟩
  rw [Entry.at?_concat, found] at there
  exact onlyFiles name entry below there

/-- Keeping a bundle leaves a twin. -/
theorem store_twin (holds : tree.Holds directory place view) (onlyFiles : OnlyFiles view)
    (request : Request) (files : List Text) (content now : Text) :
    Twin place isEntryName tree (store directory tree request files content now).2 := by
  rw [store_eq_of_holds holds]
  obtain ⟨other, revised, overwritten⟩ :=
    keep_overwritten holds (.now tree request files) content now
  exact twin_of_overwritten holds revised overwritten (hides_isEntryName holds onlyFiles)

/-! ## An empty cache -/

/-- The tree with no entries in the cache directory. -/
def emptied (directory : Path) (tree : Tree) : Tree :=
  match tree.locate directory with
  | .error _ => tree
  | .ok place =>
      match tree.root.at? place with
      | some (.directory children) =>
          tree.place place (.directory (children.filter fun child => !isEntryName child.1))
      | _ => tree

/-- What an empty cache shows. -/
def emptiedView (view : Text → Option Entry) (name : Text) : Option Entry :=
  if isEntryName name then none else view name

theorem onlyFiles_emptied (view : Text → Option Entry) : OnlyFiles (emptiedView view) := by
  intro name entry below
  rw [emptiedView, if_pos entry]
  exact fun same => by cases same

/-- Emptying the cache removes its entries and nothing else. -/
theorem revised_emptied (holds : tree.Holds directory place view) (onlyFiles : OnlyFiles view) :
    tree.Revised (emptied directory tree) directory place (emptiedView view) := by
  obtain ⟨children, found, rfl⟩ := holds.found
  generalize remaining : (children.filter fun child => !isEntryName child.1) = left
  have shown : Entry.look? left = emptiedView (Entry.look? children) := by
    funext name
    rw [← remaining, Entry.look?_filter children fun name => !isEntryName name, emptiedView]
    cases isEntryName name <;> rfl
  have changed : emptied directory tree = tree.place place (.directory left) := by
    rw [emptied, holds.located]
    simp only [found, remaining]
  rw [changed, ← shown]
  refine holds.place_directory fun name below there => ?_
  have noEntry : ¬ isEntryName name = true := fun entry => onlyFiles name entry below there
  rw [shown, emptiedView, if_neg noEntry, there]

/-- A tree and the same with an empty cache are twins. -/
theorem twin_emptied (holds : tree.Holds directory place view) (onlyFiles : OnlyFiles view) :
    Twin place isEntryName tree (emptied directory tree) := by
  refine twin_of_revised holds (revised_emptied holds onlyFiles) onlyFiles
    (onlyFiles_emptied view) fun name unlisted => ?_
  rw [emptiedView, unlisted]
  rfl

/-- Without a cache directory there is nothing to be emptied. -/
theorem emptied_lacking (plain : Plain directory) (lacks : tree.Lacks directory.names) :
    emptied directory tree = tree := by
  rw [emptied, plain.locate]
  cases tree.walkNames [] directory.names with
  | error why => rfl
  | ok reached =>
      dsimp only [Except.map]
      split
      · next children found => exact absurd found (lacks children)
      · rfl

/-- In an emptied cache nothing is kept. -/
theorem Agrees.emptied (agrees : Agrees occurs view log) :
    Agrees occurs (emptiedView view) [] where
  clean := by
    intro ending
    rw [emptiedView, agrees.clean]
    split <;> rfl
  onlyFiles := onlyFiles_emptied view
  occurring := fun _ member => absurd member List.not_mem_nil
  present := fun _ _ _ found => by cases found
  absent := fun subject _ _ => by
    rw [emptiedView, if_pos (isEntryName_recordName subject)]

/-! ## Directories in the cache directory -/

/-- What the directories in the cache directory hold does not matter. -/
theorem Agrees.of_resembles (agrees : Agrees occurs view log)
    (alike : ∀ name, Entry.Resembles (view name) (other name)) : Agrees occurs other log := by
  have file {name : Text} {content : Bytes} {changed : Int}
      (shown : view name = some (.file content changed)) : other name = view name := by
    have same := alike name
    rw [shown] at same
    generalize other name = there at same
    cases same
    exact shown.symm
  have absent {name : Text} (missing : view name = none) : other name = none := by
    have same := alike name
    rw [missing] at same
    generalize other name = there at same
    cases same
    rfl
  refine ⟨fun ending => absent (agrees.clean ending), ?_, agrees.occurring, ?_, ?_⟩
  · intro name entry below found
    have same := alike name
    rw [found] at same
    generalize shown : view name = here at same
    cases same with
    | same => exact agrees.onlyFiles name entry below shown
    | directories left _ => exact agrees.onlyFiles name entry left shown
  · intro subject happens kept found
    have shows := agrees.present subject happens kept found
    obtain ⟨changed, text⟩ := shows.text
    obtain ⟨now, later, recorded⟩ := shows.recorded
    exact shows.of_eq (file text) (file recorded)
  · intro subject happens missing
    exact absent (agrees.absent subject happens missing)

/-! ## A cache that may not exist yet -/

/-- Nothing is found without a record that can be read. -/
theorem lookupFor_unread {why : StorageFault}
    (unread : tree.readText (directory.child (recordName subject.key)) = .error (.storage why)) :
    lookupFor directory tree subject = none := by
  rw [lookupFor, lookupKey, unread]
  cases why <;> rfl

/-- Where there is no directory, nothing is found. -/
theorem lookupFor_lacking (plain : Plain directory) (lacks : tree.Lacks directory.names)
    (subject : Subject) : lookupFor directory tree subject = none := by
  obtain ⟨why, missing⟩ :=
    readText_lacking plain lacks (ordinary_of_isEntryName (isEntryName_recordName subject))
  exact lookupFor_unread missing

/-- Nor is anything found in an empty directory. -/
theorem lookupFor_empty (holds : tree.Holds directory place fun _ => none) (subject : Subject) :
    lookupFor directory tree subject = none := by
  obtain ⟨why, missing⟩ :=
    holds.readText_child_missing rfl (ordinary_of_isEntryName (isEntryName_recordName subject))
  exact lookupFor_unread missing

/-- The cache directory shows what the log says; or there is none, and nothing is kept. -/
def State.Ready (directory : Path) (occurs : Subject → Prop) (state : State) : Prop :=
  state.Sound directory directory.names occurs ∨
    state.log = [] ∧ directory.names ≠ [] ∧ state.tree.Lacks directory.names

namespace State.Ready

variable {state : State} {subject : Subject}

/-- No directory has the name of an entry. -/
theorem files (ready : state.Ready directory occurs) :
    ∀ name, isEntryName name = true →
      ∀ below, state.tree.root.at? (directory.names ++ [name]) ≠ some (.directory below) := by
  intro name entry below found
  rcases ready with ⟨view, holds, agrees⟩ | ⟨_, _, lacks⟩
  · obtain ⟨children, there, rfl⟩ := holds.found
    rw [Entry.at?_concat, there] at found
    exact agrees.onlyFiles name entry below found
  · obtain ⟨children, there⟩ := Entry.directory_above found (List.cons_ne_nil name [])
    exact lacks children there

/-- A lookup finds what the log says. -/
theorem lookupFor (ready : state.Ready directory occurs) (distinguished : Distinguished occurs)
    (plain : Plain directory) (happens : occurs subject) :
    Cache.lookupFor directory state.tree subject =
      (latest state.log subject).map Text.unifyNewlines := by
  rcases ready with sound | ⟨nothing, _, lacks⟩
  · exact sound.lookupFor distinguished happens
  · rw [nothing, lookupFor_lacking plain lacks]
    rfl

/-- Keeping a bundle in a cache that is in step changes nothing but the entries of the cache. -/
theorem store_of_sound (sound : state.Sound directory directory.names occurs)
    (distinguished : Distinguished occurs) (request : Request) (files : List Text)
    (content now : Text) (happens : occurs (.now state.tree request files)) :
    let next := Event.run directory state (.store request files content now)
    next.Ready directory occurs ∧ next.tree.current = state.tree.current ∧
      ∀ names, Clear directory.names isEntryName names →
        next.tree.root.at? names = state.tree.root.at? names := by
  obtain ⟨_, stays, current⟩ := sound.store distinguished request files content now happens
  obtain ⟨view, holds, agrees⟩ := sound
  have twin := store_twin holds agrees.onlyFiles request files content now
  rw [← (run_store directory state request files content now).1] at twin
  exact ⟨Or.inl stays, current, fun names clear => (twin.at?_eq clear).symm⟩

/-- If the cache directory has to be made first, a bundle is kept as in a tree that has it. -/
theorem run_store_prepared (made : tree.prepareDirectory directory = (.ok (), after))
    (holds : after.Holds directory place view) {request : Request} {files : List Text}
    (content now : Text)
    (same : Subject.now after request files = Subject.now tree request files) :
    Event.run directory { tree } (.store request files content now) =
      Event.run directory { tree := after } (.store request files content now) := by
  have stored : Cache.store directory tree request files content now =
      Cache.store directory after request files content now := by
    rw [store_eq_keep, made, store_eq_of_holds holds, same]
  rw [Event.run, Event.run, stored, same]

/-- A store keeps the cache ready, and nothing changes but entries and what is on the way
to them. -/
theorem store (ready : state.Ready directory occurs) (distinguished : Distinguished occurs)
    (plain : Plain directory) (legible : directory.Legible)
    (request : Request) {files : List Text} (content now : Text)
    (happens : occurs (.now state.tree request files))
    (listed : ∀ file ∈ files, ∃ names content changed, state.tree.Lists file names content changed ∧
      Clear directory.names isEntryName names) :
    let next := Event.run directory state (.store request files content now)
    next.Ready directory occurs ∧ next.tree.current = state.tree.current ∧
      ∀ names, Clear directory.names isEntryName names →
        next.tree.root.at? names = state.tree.root.at? names := by
  rcases ready with sound | ⟨nothing, below, lacks⟩
  · exact store_of_sound sound distinguished request files content now happens
  · obtain ⟨tree, log⟩ := state
    obtain rfl : log = [] := nothing
    have prepared := prepareDirectory_lacking plain legible below lacks
    generalize made : tree.prepareDirectory directory = ending at prepared
    obtain ⟨result, before⟩ := ending
    dsimp only at prepared
    have clear (names : List Text) (clear : Clear directory.names isEntryName names) :
        before.root.at? names = tree.root.at? names :=
      prepared.apart names clear.notAbove
    rcases prepared.ending with ⟨⟨why, rfl⟩, missing⟩ | ⟨rfl, holds⟩
    · have refused : Cache.store directory tree request files content now =
          (.error why, before) := by
        rw [Cache.store, made]
      simp only [Event.run, refused]
      exact ⟨Or.inr ⟨rfl, below, missing⟩, prepared.current, clear⟩
    · have times : timesOf before files = timesOf tree files := by
        apply timesOf_eq
        intro file member
        obtain ⟨names, bytes, changed, lists, apart⟩ := listed file member
        rw [timeOf_of_lists lists, timeOf_of_lists (lists.of_at?_eq (clear names apart))]
      have subject : Subject.now before request files = .now tree request files := by
        rw [Subject.now, Subject.now, times]
      have sound : State.Sound directory directory.names occurs { tree := before } :=
        ⟨_, holds, agrees_empty occurs⟩
      obtain ⟨stays, current, apart⟩ := store_of_sound sound distinguished request files content now
        (subject ▸ happens)
      rw [run_store_prepared made holds content now subject]
      exact ⟨stays, current.trans prepared.current,
        fun names apart' => (apart names apart').trans (clear names apart')⟩

/-- An edit below a directory that does not hold the cache keeps the cache ready. -/
theorem edited {change : Option Entry → Option Entry} {above : List Text}
    (ready : state.Ready directory occurs) (edited : state.tree.Edited after names change)
    (below : above <+: names) (proper : above ≠ names) (apart : ¬ above <+: directory.names) :
    State.Ready directory occurs { tree := after, log := state.log } := by
  rcases ready with ⟨view, holds, agrees⟩ | ⟨nothing, some, lacks⟩
  · obtain ⟨other, stays, alike⟩ := edited.holds holds below proper apart
    exact Or.inl ⟨other, stays, agrees.of_resembles alike⟩
  · exact Or.inr ⟨nothing, some, edited.lacking lacks below apart⟩

end State.Ready

end Cache
end Codemap
