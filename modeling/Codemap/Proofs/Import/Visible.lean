import Codemap.Import.Resolver
import Codemap.Proofs.Files.Path
import Codemap.Proofs.Files.Twin
import Mathlib.Data.List.Find

namespace Codemap
namespace Import

/-!
# Resolving past hidden files

Resolving looks at the names that modules and packages have, and no hidden file has one
of them.  So markers, package names and modules are the same in trees that differ in
hidden files only.  A quoted path alone may spell out a hidden file.  It may then stand
for different paths, but all of them are spelt like a hidden file.

If that directory has been made in the meantime, a name that nobody looked at may turn out
to be too long.  Otherwise resolving repeats what it found.
-/

open Codemap.Tree

/-- No name that resolving makes by itself is hidden. -/
structure Overlooks (hidden : Text → Bool) : Prop where
  source : ∀ stem, ∀ ending ∈ Walk.sourceSuffixes, hidden (stem ++ ending) = false
  marker : ∀ marker : Marker, ∀ name ∈ marker.files, hidden name = false

/-- A fault because of a name that is too long. -/
def ResolveFault.IsLong (why : ResolveFault) : Prop :=
  ∃ path, why = .storage .nameTooLong path

variable {tree left right : Tree} {place : List Text} {hidden : Text → Bool} {path root : Path}
  {mayMake : Prop}

/-! ## Names of source files -/

theorem sourceSuffixes_end : ∀ ending ∈ Walk.sourceSuffixes,
    ∃ c, ending.getLast? = some c ∧ c ≠ '.' := by
  have all : (Walk.sourceSuffixes.all fun ending => ending.getLast?.any (· != '.')) = true := by
    decide
  intro ending listed
  have last := List.all_eq_true.mp all ending listed
  rw [Option.any_eq_true_iff_get] at last
  obtain ⟨some, other⟩ := last
  exact ⟨_, (Option.some_get some).symm, by simpa using other⟩

theorem source_ne_upward (stem : Text) {ending : Text} (listed : ending ∈ Walk.sourceSuffixes) :
    stem ++ ending ≠ upward := by
  intro same
  obtain ⟨c, last, notDot⟩ := sourceSuffixes_end ending listed
  have ends := congrArg List.getLast? same
  rw [List.getLast?_append, last] at ends
  exact notDot (Option.some.inj ends)

theorem visible_source (overlooks : Overlooks hidden) {names : List Text}
    (rooted : path.isAbsolute = true) (ordinary : upward ∉ names) (stem : Text) {ending : Text}
    (listed : ending ∈ Walk.sourceSuffixes) :
    Visible place hidden { path with names := names ++ [stem ++ ending] } := by
  refine visible_of_last ⟨rooted, ?_⟩ rfl (overlooks.source stem ending listed)
  rw [List.mem_append, List.mem_singleton, not_or]
  exact ⟨ordinary, Ne.symm (source_ne_upward stem listed)⟩

theorem visible_extend (overlooks : Overlooks hidden) (rooted : path.isAbsolute = true)
    (ordinary : upward ∉ path.names.dropLast) {ending : Text}
    (listed : ending ∈ Walk.sourceSuffixes) : Visible place hidden (path.extend ending) := by
  rw [Path.extend]
  split
  · exact visible_source overlooks rooted ordinary _ listed
  · have root : path.root ≠ .relative := by simpa [Path.isAbsolute] using rooted
    rw [if_neg root]
    exact visible_source overlooks rooted List.not_mem_nil [] listed

theorem visible_child_source (overlooks : Overlooks hidden) (plain : Plain path) (stem : Text)
    {ending : Text} (listed : ending ∈ Walk.sourceSuffixes) :
    Visible place hidden (path.child (stem ++ ending)) :=
  visible_source overlooks plain.rooted plain.plain stem listed

/-! ## Looking at the tree -/

theorem isFile?_eq_sight (tree : Tree) (path : Path) :
    isFile? tree path = match tree.sight path with
      | .ok found => .ok (found.any Option.isSome)
      | .error why => .error (.storage why path.text) := by
  rw [isFile?, sight]
  cases tree.status path with
  | error why => rfl
  | ok found =>
      cases found with
      | none => rfl
      | some entry => cases entry <;> rfl

theorem isFile?_repeats (grown : Grown mayMake place hidden left right)
    (visible : Visible place hidden path) :
    Repeats mayMake ResolveFault.IsLong Eq (isFile? left path) (isFile? right path) := by
  rw [isFile?_eq_sight, isFile?_eq_sight]
  have sees := grown.sight visible
  generalize left.sight path = early at sees
  generalize right.sight path = late at sees
  cases sees with
  | same seen => exact .of_eq rfl
  | directory allowed => exact .ok rfl
  | tooLong allowed => exact .tooLong allowed ⟨_, rfl⟩

theorem firstFile?_repeats (grown : Grown mayMake place hidden left right) {paths : List Path}
    (visible : ∀ path ∈ paths, Visible place hidden path) :
    Repeats mayMake ResolveFault.IsLong Eq (firstFile? left paths) (firstFile? right paths) := by
  induction paths with
  | nil => exact .ok rfl
  | cons path rest inductionHypothesis =>
      rw [firstFile?, firstFile?]
      refine (isFile?_repeats grown (visible path List.mem_cons_self)).bind ?_
      rintro here _ _ _ rfl
      cases here with
      | true => exact .ok rfl
      | false =>
          exact inductionHypothesis fun other member =>
            visible other (List.mem_cons_of_mem path member)

theorem marker_ne_upward : ∀ marker : Marker, ∀ name ∈ marker.files, name ≠ upward := by
  intro marker
  cases marker <;> decide

theorem hasMarker_repeats (grown : Grown mayMake place hidden left right)
    (overlooks : Overlooks hidden) (marker : Marker) (plain : Plain path) :
    Repeats mayMake ResolveFault.IsLong Eq (hasMarker left marker path)
      (hasMarker right marker path) := by
  rw [hasMarker, hasMarker]
  refine (firstFile?_repeats grown fun file member => ?_).map ?_
  · obtain ⟨name, listed, rfl⟩ := List.mem_map.mp member
    exact plain.visible_child (marker_ne_upward marker name listed)
      (overlooks.marker marker name listed)
  · rintro found _ _ _ rfl
    rfl

theorem firstMarked_repeats (grown : Grown mayMake place hidden left right)
    (overlooks : Overlooks hidden) (root : Path) (marker : Marker) {directories : List Path}
    (plain : ∀ directory ∈ directories, Plain directory) :
    Repeats mayMake ResolveFault.IsLong Eq (firstMarked left root marker directories)
      (firstMarked right root marker directories) := by
  induction directories with
  | nil => exact .ok rfl
  | cons directory rest inductionHypothesis =>
      have later := inductionHypothesis fun other member =>
        plain other (List.mem_cons_of_mem directory member)
      rw [firstMarked, firstMarked]
      refine (hasMarker_repeats grown overlooks marker (plain directory List.mem_cons_self)).bind ?_
      rintro here _ _ _ rfl
      cases here with
      | true => exact .ok rfl
      | false =>
          by_cases top : directory = root
          · simp only [top, if_true, Bool.false_eq_true, if_false]
            exact .ok rfl
          · simpa only [top, Bool.false_eq_true, if_false] using later

theorem plain_selfAndAbove (plain : Plain path) : ∀ above ∈ path.selfAndAbove, Plain above := by
  intro above member
  obtain ⟨n, _, rfl⟩ := List.mem_map.mp member
  exact plain.of_names fun taken => plain.plain (List.mem_of_mem_take taken)

theorem nearest_repeats (grown : Grown mayMake place hidden left right)
    (overlooks : Overlooks hidden) (root : Path) (marker : Marker) (plain : Plain path) :
    Repeats mayMake ResolveFault.IsLong Eq (nearest left root marker path)
      (nearest right root marker path) :=
  firstMarked_repeats grown overlooks root marker (plain_selfAndAbove plain)

/-- The nearest marked directory is the one where the search starts, or above it. -/
theorem mem_of_firstMarked {marker : Marker} {directories : List Path} {found : Path}
    (marked : firstMarked tree root marker directories = .ok (some found)) :
    found ∈ directories := by
  induction directories with
  | nil => cases marked
  | cons directory rest inductionHypothesis =>
      rw [firstMarked] at marked
      cases looked : hasMarker tree marker directory with
      | error why => simp [looked, bind, Except.bind] at marked
      | ok here =>
          cases here with
          | true =>
              simp only [looked, bind, Except.bind, if_true, pure, Except.pure] at marked
              cases marked
              exact List.mem_cons_self
          | false =>
              by_cases top : directory = root
              · rw [looked] at marked
                simp [top, bind, Except.bind, pure, Except.pure] at marked
              · apply List.mem_cons_of_mem
                apply inductionHypothesis
                simpa [looked, top, bind, Except.bind, pure, Except.pure] using marked

/-- A package is named by the text of its description, if there is one. -/
theorem packageName_eq_text (tree : Tree) (package : Path) :
    packageName tree package =
      match (tree.readText (package.child Marker.packageFile)).toOption with
      | none => .ok (.whole package.name)
      | some text =>
          match Yaml.Document.ofText text with
          | .ok document => .ok ((describedName? document).getD (.whole package.name))
          | .error .malformed => .ok (.whole package.name)
          | .error why => .error (.document why) := by
  rw [packageName]
  cases tree.readText (package.child Marker.packageFile) <;> rfl

theorem packageName_eq (grown : Grown mayMake place hidden left right) (overlooks : Overlooks hidden)
    {package : Path} (plain : Plain package) :
    packageName left package = packageName right package := by
  have visible : Visible place hidden (package.child Marker.packageFile) :=
    plain.visible_child (by decide) (overlooks.marker .package _ (by decide))
  rw [packageName_eq_text, packageName_eq_text, grown.readText visible]

/-! ## Modules -/

/-- Without dots in it, a text is no way upward. -/
theorem plain_join (plain : Plain path) {part : Text} (noDot : '.' ∉ part) :
    Plain (path.join (Path.ofText part)) := by
  have ordinary : upward ∉ (Path.ofText part).names := by
    intro member
    have field := (List.mem_filter.mp member).1
    exact noDot (Text.mem_of_mem_fields field (by simp [upward])).1
  rw [Path.join]
  split
  · next rooted => exact ⟨rooted, ordinary⟩
  · refine plain.of_names ?_
    rw [List.mem_append, not_or]
    exact ⟨plain.plain, ordinary⟩

theorem plain_joins {parts : List Text} (noDots : ∀ part ∈ parts, '.' ∉ part) (plain : Plain path) :
    Plain (parts.foldl (fun path part => path.join (Path.ofText part)) path) := by
  induction parts generalizing path with
  | nil => exact plain
  | cons part rest inductionHypothesis =>
      exact inductionHypothesis (fun other member => noDots other (List.mem_cons_of_mem part member))
        (plain_join plain (noDots part List.mem_cons_self))

theorem mem_of_firstFile? {paths : List Path} {found : Path}
    (first : firstFile? tree paths = .ok (some found)) : found ∈ paths := by
  induction paths with
  | nil => cases first
  | cons path rest inductionHypothesis =>
      rw [firstFile?] at first
      cases looked : isFile? tree path with
      | error why => simp [looked, bind, Except.bind] at first
      | ok here =>
          cases here with
          | true =>
              simp only [looked, bind, Except.bind, if_true, pure, Except.pure] at first
              cases first
              exact List.mem_cons_self
          | false =>
              apply List.mem_cons_of_mem
              apply inductionHypothesis
              simpa [looked, bind, Except.bind] using first

/-- The places where the file of a module may be. -/
def modulePlaces (base : Path) (parts : List Text) : List Path :=
  let module := parts.foldl (fun path part => path.join (Path.ofText part)) base
  if parts.isEmpty then [base.child "__init__.py".toList]
  else [module.extend ".py".toList, module.child "__init__.py".toList]

/-- The file of a module is the first of its places that has one. -/
theorem moduleFile?_eq_places (tree : Tree) (base : Path) (parts : List Text) :
    moduleFile? tree base parts =
      let module := parts.foldl (fun path part => path.join (Path.ofText part)) base
      if !parts.isEmpty && module.name.isEmpty then .error (.emptyName module.text)
      else (firstFile? tree (modulePlaces base parts)).map fun found => found.map Path.normalize := by
  rw [moduleFile?, modulePlaces]
  by_cases none : parts.isEmpty = true
  · simp only [none, if_true, Bool.not_true, Bool.false_and, Bool.false_eq_true, if_false]
    rfl
  · simp only [none, Bool.not_false, Bool.true_and, Bool.false_eq_true, if_false]
    split <;> rfl

theorem visible_modulePlaces (overlooks : Overlooks hidden) {parts : List Text}
    (noDots : ∀ part ∈ parts, '.' ∉ part) (plain : Plain path) :
    ∀ found ∈ modulePlaces path parts, Visible place hidden found := by
  have listed : ".py".toList ∈ Walk.sourceSuffixes := by decide
  have initial {base : Path} (plain : Plain base) :
      Visible place hidden (base.child "__init__.py".toList) :=
    visible_child_source overlooks plain "__init__".toList listed
  have module := plain_joins noDots plain
  intro found member
  rw [modulePlaces] at member
  split at member
  · rw [List.mem_singleton.mp member]
    exact initial plain
  · simp only [List.mem_cons, List.not_mem_nil, or_false] at member
    rcases member with rfl | rfl
    · exact visible_extend overlooks module.rooted module.parent.plain listed
    · exact initial module

theorem moduleFile?_repeats (grown : Grown mayMake place hidden left right)
    (overlooks : Overlooks hidden) {parts : List Text} (noDots : ∀ part ∈ parts, '.' ∉ part)
    (plain : Plain path) :
    Repeats mayMake ResolveFault.IsLong Eq (moduleFile? left path parts)
      (moduleFile? right path parts) := by
  rw [moduleFile?_eq_places, moduleFile?_eq_places]
  dsimp only
  split
  · exact .error _
  · refine (firstFile?_repeats grown (visible_modulePlaces overlooks noDots plain)).map ?_
    rintro found _ _ _ rfl
    rfl

/-- The file of a module is one of its places. -/
theorem exists_of_moduleFile? {parts : List Text} {found : Path}
    (module : moduleFile? tree path parts = .ok (some found)) :
    ∃ file ∈ modulePlaces path parts, file.normalize = found := by
  rw [moduleFile?_eq_places] at module
  dsimp only at module
  split at module
  · cases module
  · obtain ⟨first, looked, same⟩ := map_eq_ok_iff.mp module
    obtain ⟨file, rfl, normal⟩ := Option.map_eq_some_iff.mp same
    exact ⟨file, mem_of_firstFile? looked, normal⟩

theorem visible_of_moduleFile? (overlooks : Overlooks hidden) {parts : List Text}
    (noDots : ∀ part ∈ parts, '.' ∉ part) (plain : Plain path) {found : Path}
    (module : moduleFile? tree path parts = .ok (some found)) : Visible place hidden found := by
  obtain ⟨file, member, rfl⟩ := exists_of_moduleFile? module
  have visible : Visible place hidden file := visible_modulePlaces overlooks noDots plain file member
  rw [normalize_plain visible.plain]
  exact visible

theorem presentModule?_repeats (grown : Grown mayMake place hidden left right)
    (overlooks : Overlooks hidden) {parts : List Text} (noDots : ∀ part ∈ parts, '.' ∉ part)
    (plain : Plain path) :
    Repeats mayMake ResolveFault.IsLong Eq (Resolver.presentModule? left path parts)
      (Resolver.presentModule? right path parts) := by
  rw [Resolver.presentModule?, Resolver.presentModule?]
  refine (moduleFile?_repeats grown overlooks noDots plain).map ?_
  rintro found _ module _ rfl
  cases found with
  | none => rfl
  | some file =>
      have visible : Visible place hidden file :=
        visible_of_moduleFile? overlooks noDots plain module
      simp only [Option.filter, grown.isFile visible]

theorem inProject_repeats (grown : Grown mayMake place hidden left right)
    (overlooks : Overlooks hidden) {parts : List Text} (noDots : ∀ part ∈ parts, '.' ∉ part)
    (plain : Plain path) :
    Repeats mayMake ResolveFault.IsLong Eq (Resolver.inProject left path parts)
      (Resolver.inProject right path parts) := by
  rw [Resolver.inProject, Resolver.inProject]
  refine (presentModule?_repeats grown overlooks noDots plain).bind ?_
  rintro found _ _ _ rfl
  cases found with
  | some file => exact .ok rfl
  | none => exact presentModule?_repeats grown overlooks noDots (plain.child (by decide))

theorem plain_parents (plain : Plain path) (times : Nat) :
    Plain ((List.replicate times ()).foldl (fun path _ => path.parent) path) := by
  induction times generalizing path with
  | zero => exact plain
  | succ times inductionHypothesis => exact inductionHypothesis plain.parent

/-! ## Quoted paths -/

/-- What an imported path may stand for: the path itself, the path with an ending, the path
with another ending than its own, or an index below it. -/
inductive Alternative (path : Path) : Path → Prop
  | itself : Alternative path path
  | extended {ending : Text} (listed : ending ∈ Walk.sourceSuffixes) :
      Alternative path (path.extend ending)
  | replaced {ending : Text} (ends : (Path.splitExtension path.name).2 ∈ Walk.sourceSuffixes)
      (listed : ending ∈ Walk.sourceSuffixes) :
      Alternative path ((path.parent.child (Path.splitExtension path.name).1).extend ending)
  | index {ending : Text} (listed : ending ∈ Walk.sourceSuffixes) :
      Alternative path (path.child ("index".toList ++ ending))

theorem alternative_of_mem {found : Path} (member : found ∈ alternatives path) :
    Alternative path found := by
  rw [alternatives, List.cons_append, List.cons_append, List.mem_cons, List.mem_append,
    List.mem_append] at member
  rcases member with rfl | (added | replaced) | index
  · exact .itself
  · obtain ⟨ending, listed, rfl⟩ := List.mem_map.mp added
    exact .extended listed
  · rw [withoutEnding?] at replaced
    dsimp only at replaced
    split at replaced
    · next ends =>
        obtain ⟨ending, listed, rfl⟩ := List.mem_map.mp replaced
        exact .replaced (List.contains_iff_mem.mp ends) listed
    · cases replaced
  · obtain ⟨ending, listed, rfl⟩ := List.mem_map.mp index
    exact .index listed

/-- All alternatives of a visible path are visible. -/
theorem visible_alternatives (overlooks : Overlooks hidden) (visible : Visible place hidden path) :
    ∀ found ∈ alternatives path, Visible place hidden found := by
  have rooted := visible.plain.rooted
  have ordinary := visible.plain.parent.plain
  intro found member
  cases alternative_of_mem member with
  | itself => exact visible
  | extended listed => exact visible_extend overlooks rooted ordinary listed
  | @replaced ending _ listed =>
      have above : upward ∉ (path.parent.child (Path.splitExtension path.name).1).names.dropLast := by
        rw [Path.child, List.dropLast_concat]
        exact ordinary
      exact @visible_extend place hidden (path.parent.child _) overlooks rooted above ending listed
  | index listed => exact visible_child_source overlooks visible.plain _ listed

/-- A visible path stands for the same file in both trees. -/
theorem fileOf_eq (grown : Grown mayMake place hidden left right) (overlooks : Overlooks hidden)
    (visible : Visible place hidden path.normalize) : fileOf left path = fileOf right path := by
  rw [fileOf, fileOf, List.find?_congr fun found member =>
    grown.isFile (visible_alternatives overlooks visible found member)]

/-- A path that spells a hidden file, or such a file with the ending of a source file after its
name. -/
structure Spelt (place : List Text) (hidden : Text → Bool) (path : Path) : Prop where
  legible : path.Legible
  names : ∃ name ending, hidden name = true ∧ (ending = [] ∨ ending ∈ Walk.sourceSuffixes) ∧
    path.names = place ++ [name ++ ending]

theorem visible_of_not_spelt (plain : Plain path) (legible : path.Legible)
    (unspelt : ¬ Spelt place hidden path) : Visible place hidden path :=
  ⟨plain, fun name isHidden same =>
    unspelt ⟨legible, name, [], isHidden, Or.inl rfl, by rw [same, List.append_nil]⟩⟩

/-- The same path is found, or in both cases one that spells a hidden file. -/
def SameFile (place : List Text) (hidden : Text → Bool) (found other : Path) : Prop :=
  found = other ∨ Spelt place hidden found ∧ Spelt place hidden other

theorem SameFile.refl (found : Path) : SameFile place hidden found found :=
  Or.inl rfl

theorem splitExtension_append (name : Text) :
    (Path.splitExtension name).1 ++ (Path.splitExtension name).2 = name := by
  rw [Path.splitExtension]
  split
  · exact List.take_append_drop _ name
  · exact List.append_nil name

theorem sourceSuffixes_legible : ∀ ending ∈ Walk.sourceSuffixes, '/' ∉ ending ∧ 1 < ending.length := by
  decide

theorem isSegment_source {stem ending : Text} (noSlash : '/' ∉ stem)
    (listed : ending ∈ Walk.sourceSuffixes) : isSegment (stem ++ ending) = true := by
  obtain ⟨endingNoSlash, long⟩ := sourceSuffixes_legible ending listed
  have longer : 1 < (stem ++ ending).length := by
    rw [List.length_append]
    omega
  refine isSegment_iff.mpr ⟨fun same => ?_, by simp [noSlash, endingNoSlash], fun same => ?_⟩
  · simp [same] at longer
  · simp [same] at longer

/-- What stands above a file that a plain path leads to is a directory. -/
theorem directory_of_isFile (plain : Plain path) {above : List Text} {name : Text}
    (names : path.names = above ++ [name]) (isFile : tree.isFile path = true) :
    ∃ children, tree.root.at? above = some (.directory children) := by
  rw [Tree.isFile, plain.entry] at isFile
  cases walked : tree.walkNames [] path.names with
  | error why => simp [walked] at isFile
  | ok reached =>
      cases there : tree.root.at? path.names with
      | none => simp [walked, there] at isFile
      | some entry =>
          rw [names] at there
          exact Entry.directory_above there (List.cons_ne_nil name [])

/-- A path that is spelt like a hidden file stands for one that is. -/
theorem spelt_fileOf (overlooks : Overlooks hidden) (legible : path.Legible) {name : Text}
    (isHidden : hidden name = true) (names : path.normalize.names = place ++ [name])
    (file : ∀ below, tree.root.at? (place ++ [name]) ≠ some (.directory below)) :
    Spelt place hidden (fileOf tree path) := by
  have normalLegible := legible.normalize
  have segments := normalLegible.segments
  rw [names, List.forall_mem_append, List.forall_mem_singleton] at segments
  have itself : Spelt place hidden path.normalize :=
    ⟨normalLegible, name, [], isHidden, Or.inl rfl, by rw [names, List.append_nil]⟩
  have named : path.normalize.name = name := by
    rw [Path.name, names]
    simp
  rw [fileOf]
  cases found : (alternatives path.normalize).find? tree.isFile with
  | none => exact itself
  | some file =>
      have member := List.mem_of_find?_eq_some found
      have isFile := List.find?_some found
      rw [Option.getD_some]
      cases alternative_of_mem member with
      | itself => exact itself
      | @extended ending listed =>
          have extended : path.normalize.extend ending =
              { path.normalize with names := place ++ [name ++ ending] } := by
            rw [Path.extend, names]
            simp
          rw [extended]
          refine ⟨⟨normalLegible.rooted, ?_⟩, name, ending, isHidden, Or.inr listed, rfl⟩
          rw [List.forall_mem_append, List.forall_mem_singleton]
          exact ⟨segments.1, isSegment_source (isSegment_iff.mp segments.2).2.1 listed⟩
      | replaced ends _ =>
          -- A hidden name does not end like a source file.
          have shown := overlooks.source (Path.splitExtension path.normalize.name).1 _ ends
          rw [splitExtension_append, named, isHidden] at shown
          cases shown
      | @index ending listed =>
          have plain : Plain (path.normalize.child ("index".toList ++ ending)) :=
            (plain_normalize legible.rooted).child (source_ne_upward _ listed)
          obtain ⟨children, directory⟩ := directory_of_isFile plain rfl isFile
          rw [names] at directory
          exact absurd directory (file children)

/-- A quoted path stands for the same file, unless it spells a hidden one. -/
theorem fileOf_same (grown : Grown mayMake place hidden left right) (overlooks : Overlooks hidden)
    (legible : path.Legible) : SameFile place hidden (fileOf left path) (fileOf right path) := by
  by_cases seen : ∀ name, hidden name = true → path.normalize.names ≠ place ++ [name]
  · exact Or.inl (fileOf_eq grown overlooks ⟨plain_normalize legible.rooted, seen⟩)
  · push Not at seen
    obtain ⟨name, isHidden, names⟩ := seen
    exact Or.inr ⟨spelt_fileOf overlooks legible isHidden names (grown.leftFiles name isHidden),
      spelt_fileOf overlooks legible isHidden names (grown.rightFiles name isHidden)⟩

end Import
end Codemap
