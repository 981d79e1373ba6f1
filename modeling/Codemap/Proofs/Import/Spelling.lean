import Codemap.Proofs.Files.Place
import Codemap.Proofs.Import.Order
import Codemap.Proofs.Import.Questions
import Codemap.Proofs.Import.References
import Codemap.Proofs.Import.Visible
import Codemap.Proofs.Text.Words

namespace Codemap

/-!
# One text for each file

A walk and a resolver write paths independently.  The one goes down from a root and appends
names; the other joins and climbs, removes two dots, and tries endings.  Files are then compared
by the texts of their paths.  What a resolver finds is written without detours, so a file that
the walk comes to has one text only.

There is one exception.  A module name is cut at its dots, and a part that begins with a slash
replaces what stands before it.  Two slashes are a root of their own, which nothing removes.
But no import statement yields such a name.
-/

/-! ## Paths without detours -/

namespace Path

variable {path other : Path}

/-- A path with a root, none of whose names is empty, a dot, or two dots. -/
structure Straight (path : Path) : Prop extends path.Legible, Tree.Plain path

theorem straight_normalize (legible : path.Legible) : path.normalize.Straight where
  toLegible := legible.normalize
  plain := (Tree.plain_normalize legible.rooted).plain

theorem straight_of_named (rooted : path.isAbsolute = true)
    (named : ∀ name ∈ path.names, isName name = true) : path.Straight where
  rooted := rooted
  segments := fun name member => isSegment_of_isName (named name member)
  plain := (Tree.plain_of_named rooted named).plain

namespace Straight

variable (straight : path.Straight)

include straight

theorem names : ∀ name ∈ path.names, isSegment name = true ∧ name ≠ upward := by
  intro name member
  refine ⟨straight.segments name member, ?_⟩
  rintro rfl
  exact straight.plain member

theorem child {name : Text} (segment : isSegment name = true) (ordinary : name ≠ upward) :
    (path.child name).Straight where
  toLegible := straight.toLegible.child segment
  plain := (straight.toPlain.child ordinary).plain

theorem of_isAbove (above : other.IsAbove path) : other.Straight := by
  obtain ⟨root, within⟩ := above
  refine ⟨⟨?_, fun name member => straight.segments name (within.subset member)⟩,
    fun member => straight.plain (within.subset member)⟩
  rw [isAbsolute, root]
  exact straight.rooted

theorem parent : path.parent.Straight :=
  straight.of_isAbove ⟨rfl, List.dropLast_prefix _⟩

/-- The last name of a path, if there is one, holds no slash. -/
theorem slash_notMem_name : '/' ∉ path.name := by
  by_cases empty : path.names = []
  · simp [name, empty]
  · have last : path.name ∈ path.names := by
      rw [← dropLast_concat_name empty]
      exact List.mem_append_right _ List.mem_cons_self
    exact (isSegment_iff.mp (straight.segments _ last)).2.1

end Straight

theorem text_of_rooted (rooted : path.isAbsolute = true) :
    path.text = path.root.text ++ List.intercalate ['/'] path.names := by
  have root : path.root ≠ .relative := by simpa [isAbsolute] using rooted
  rw [text, if_neg fun relative => root relative.1]

/-- Below a root, an ending is appended to the last name, or stands alone if there is none. -/
theorem extend_eq_child (rooted : path.isAbsolute = true) (ending : Text) :
    path.extend ending = path.parent.child (path.name ++ ending) := by
  have root : path.root ≠ .relative := by simpa [isAbsolute] using rooted
  rcases List.eq_nil_or_concat path.names with empty | ⟨above, last, split⟩
  · simp [extend, child, parent, name, empty, root]
  · simp [extend, child, parent, name, split]

/-! ## Roots -/

theorem root_extend (path : Path) (ending : Text) : (path.extend ending).root = path.root := by
  rw [extend]
  split <;> rfl

theorem root_join (base path : Path) :
    (base.join path).root = if path.isAbsolute then path.root else base.root := by
  rw [join]
  split <;> rfl

/-- A text that does not begin with a slash has no root. -/
theorem ofText_root {text : Text} (begins : text.head? ≠ some '/') :
    (ofText text).root = .relative := by
  cases text with
  | nil => rfl
  | cons c rest =>
      have different : c ≠ '/' := fun same => begins (congrArg some same)
      rw [ofText, PathRoot.ofText] <;> simp [different]

theorem root_join_ofText (base : Path) {text : Text} (begins : text.head? ≠ some '/') :
    (base.join (ofText text)).root = base.root := by
  rw [root_join, isAbsolute, ofText_root begins]
  rfl

end Path

namespace Import

open Codemap.Path Codemap.Tree

variable {tree : Tree} {path base file : Path}

/-! ## Quoted paths -/

theorem straight_child_source (straight : path.Straight) {stem ending : Text} (noSlash : '/' ∉ stem)
    (listed : ending ∈ Walk.sourceSuffixes) : (path.child (stem ++ ending)).Straight :=
  straight.child (isSegment_source noSlash listed) (source_ne_upward stem listed)

theorem straight_extend (straight : path.Straight) {ending : Text}
    (listed : ending ∈ Walk.sourceSuffixes) : (path.extend ending).Straight := by
  rw [extend_eq_child straight.rooted]
  exact straight_child_source straight.parent straight.slash_notMem_name listed

/-- What stands before an ending is more than dots. -/
theorem any_splitExtension {name : Text} (ends : (splitExtension name).2 ≠ []) :
    (splitExtension name).1.any (· != '.') = true := by
  rw [splitExtension] at ends ⊢
  split
  · next cut => exact cut.2
  · next whole =>
      rw [if_neg whole] at ends
      exact absurd rfl ends

theorem straight_stem (straight : path.Straight)
    (ends : (splitExtension path.name).2 ∈ Walk.sourceSuffixes) :
    (path.parent.child (splitExtension path.name).1).Straight := by
  have nonempty : (splitExtension path.name).2 ≠ [] := by
    have long := (sourceSuffixes_legible _ ends).2
    intro empty
    simp [empty] at long
  have shown := any_splitExtension nonempty
  have whole := splitExtension_append path.name
  have noSlash : '/' ∉ (splitExtension path.name).1 := fun member =>
    straight.slash_notMem_name (whole ▸ List.mem_append_left _ member)
  generalize (splitExtension path.name).1 = stem at shown noSlash
  refine straight.parent.child (isSegment_iff.mpr ⟨?_, noSlash, ?_⟩) ?_ <;>
  · rintro rfl
    simp [upward] at shown

theorem straight_alternative (straight : path.Straight) {found : Path}
    (alternative : Alternative path found) : found.Straight ∧ found.root = path.root := by
  cases alternative with
  | itself => exact ⟨straight, rfl⟩
  | extended listed => exact ⟨straight_extend straight listed, root_extend path _⟩
  | replaced ends listed =>
      exact ⟨straight_extend (straight_stem straight ends) listed, root_extend _ _⟩
  | index listed => exact ⟨straight_child_source straight (by decide) listed, rfl⟩

/-- The file of an imported path is written without detours, whatever the path. -/
theorem straight_fileOf (tree : Tree) (legible : path.Legible) :
    (fileOf tree path).Straight ∧ (fileOf tree path).root = path.root := by
  have normal := straight_normalize legible
  rw [fileOf]
  cases found : (alternatives path.normalize).find? tree.isFile with
  | none => exact ⟨normal, rfl⟩
  | some file =>
      exact straight_alternative normal (alternative_of_mem (List.mem_of_find?_eq_some found))

/-! ## Modules -/

/-- The root of the last of several texts that has one. -/
def lastRoot? (parts : List Text) : Option PathRoot :=
  ((parts.map PathRoot.ofText).filter (· != .relative)).getLast?

theorem lastRoot?_of_slash_notMem {parts : List Text} (noSlash : ∀ part ∈ parts, '/' ∉ part) :
    lastRoot? parts = none := by
  rw [lastRoot?, List.getLast?_eq_none_iff, List.filter_eq_nil_iff, List.forall_mem_map]
  intro part member
  have root : PathRoot.ofText part = .relative :=
    ofText_root fun begins => noSlash part member (List.mem_of_head? begins)
  simp [root]

/-- The parts of a module name replace the root of the directory if one of them has a root. -/
theorem root_joins (base : Path) (parts : List Text) :
    (parts.foldl (fun path part => path.join (ofText part)) base).root =
      (lastRoot? parts).getD base.root := by
  induction parts generalizing base with
  | nil => rfl
  | cons part rest inductionHypothesis =>
      rw [List.foldl_cons, inductionHypothesis, root_join, lastRoot?, lastRoot?, List.map_cons,
        List.filter_cons, isAbsolute, ofText]
      dsimp only
      split
      · rw [List.getLast?_cons, Option.getD_some]
      · rfl

theorem straight_joins {parts : List Text} (noDots : ∀ part ∈ parts, '.' ∉ part)
    (straight : base.Straight) :
    (parts.foldl (fun path part => path.join (ofText part)) base).Straight := by
  refine ⟨?_, (plain_joins noDots straight.toPlain).plain⟩
  have legible := straight.toLegible
  clear straight noDots
  induction parts generalizing base with
  | nil => exact legible
  | cons part rest inductionHypothesis => exact inductionHypothesis (legible.join_ofText part)

/-- The file of a module is written without detours. -/
theorem straight_of_moduleFile? {parts : List Text} (noDots : ∀ part ∈ parts, '.' ∉ part)
    (straight : base.Straight) (found : moduleFile? tree base parts = .ok (some file)) :
    file.Straight ∧ file.root = (lastRoot? parts).getD base.root := by
  have listed : ".py".toList ∈ Walk.sourceSuffixes := by decide
  have initial {directory : Path} (straight : directory.Straight) :
      (directory.child "__init__.py".toList).Straight :=
    @straight_child_source directory straight "__init__".toList ".py".toList (by decide) listed
  obtain ⟨place, member, rfl⟩ := exists_of_moduleFile? found
  have module := straight_joins noDots straight
  have root := root_joins base parts
  have ⟨whole, same⟩ : place.Straight ∧ place.root = (lastRoot? parts).getD base.root := by
    rw [modulePlaces] at member
    split at member
    · next none =>
        rw [List.mem_singleton.mp member, List.isEmpty_iff.mp none]
        exact ⟨initial straight, rfl⟩
    · simp only [List.mem_cons, List.not_mem_nil, or_false] at member
      rcases member with rfl | rfl
      · exact ⟨straight_extend module listed, (root_extend _ _).trans root⟩
      · exact ⟨initial module, root⟩
  rw [normalize_plain whole.toPlain]
  exact ⟨whole, same⟩

theorem exists_of_inProject {project : Path} {parts : List Text}
    (found : Resolver.inProject tree project parts = .ok (some file)) :
    ∃ directory, (directory = project ∨ directory = project.child "src".toList) ∧
      moduleFile? tree directory parts = .ok (some file) := by
  have present {directory : Path}
      (found : Resolver.presentModule? tree directory parts = .ok (some file)) :
      moduleFile? tree directory parts = .ok (some file) := by
    obtain ⟨first, looked, same⟩ := map_eq_ok_iff.mp found
    rw [looked, (Option.filter_eq_some_iff.mp same).1]
  rw [Resolver.inProject] at found
  obtain ⟨first, looked, found⟩ := ok_of_bind found
  cases first with
  | some other =>
      cases found
      exact ⟨project, Or.inl rfl, present looked⟩
  | none => exact ⟨_, Or.inr rfl, present found⟩

/-! ## Module names -/

section Slashless

open Pattern Pattern.Node

/-- A text without slashes. -/
def Slashless (text : Text) : Prop :=
  '/' ∉ text

theorem slashless_compositional : Compositional Slashless where
  nil := List.not_mem_nil
  append := fun _ _ left right member => (List.mem_append.mp member).elim left right

theorem slashless_single {cls : CharClass} (outside : cls.contains '/' = false) (c : Char)
    (listed : cls.contains c = true) : Slashless [c] := by
  intro member
  rw [← List.mem_singleton.mp member, outside] at listed
  cases listed

theorem slashless_moduleName : moduleName.Gives Slashless := by
  have letters : (many (wordCharOr ".")).Gives Slashless :=
    gives_rep slashless_compositional (gives_oneOf (slashless_single (by decide)))
  refine gives_alt (gives_cat slashless_compositional.append ?_ letters)
    (gives_cat slashless_compositional.append (gives_oneOf (slashless_single (by decide))) letters)
  exact gives_rep slashless_compositional (gives_char (by unfold Slashless; decide))

/-- The first group of a statement has no slashes. -/
def FirstSlashless (index : Nat) (held : Text) : Prop :=
  index = 1 → Slashless held

theorem namesImport_slashless : namesImport.Yields FirstSlashless := by
  have first : ∀ text, moduleName.Spells text → FirstSlashless 1 text :=
    fun text spelled _ => slashless_moduleName text spelled
  have second : ∀ text, (atLeastOne (noneOf "\n#")).Spells text → FirstSlashless 2 text :=
    fun _ _ other => absurd other (by decide)
  refine ⟨?_, yields_text _, ?_, ⟨first, ?_⟩, ?_, yields_text _, ?_, second, ?_⟩ <;>
    simp [lineIndent, spacing, Yields, many, atLeastOne, among, noneOf, moduleName, nameStart,
      wordCharOr]

theorem modulesImport_slashless : modulesImport.Yields FirstSlashless := by
  have letters : (fewestSome (wordCharOr ". \t,")).Gives Slashless :=
    gives_rep slashless_compositional (gives_oneOf (slashless_single (by decide)))
  have first : ∀ text, (fewestSome (wordCharOr ". \t,")).Spells text → FirstSlashless 1 text :=
    fun text spelled _ => letters text spelled
  refine ⟨?_, yields_text _, ?_, ⟨first, ?_⟩, ?_, ?_, trivial⟩ <;>
    simp [lineIndent, spacing, spaces, opt, Yields, many, atLeastOne, among, noneOf, fewestSome,
      wordCharOr]

theorem slashless_of_mem_importedNames {clause name : Text} (listed : name ∈ importedNames clause) :
    Slashless name := by
  rw [importedNames] at listed
  obtain ⟨item, -, first⟩ := List.mem_filterMap.mp listed
  split at first
  · obtain ⟨letters, same⟩ := Option.ite_none_right_eq_some.mp first
    cases same
    simp only [Bool.and_eq_true, List.all_eq_true] at letters
    exact fun member => absurd (letters.2 '/' member) (by decide)
  · cases first

theorem slashless_submodule {module name : Text} (first : Slashless module)
    (second : Slashless name) : Slashless (submodule module name) := by
  rw [submodule]
  split
  · exact slashless_compositional.append _ _ first second
  · exact slashless_compositional.append _ ('.' :: name) first
      (slashless_compositional.append ['.'] _ (by unfold Slashless; decide) second)

/-- No module name that a text imports has a slash. -/
theorem slashless_of_mem_specifiers {text specifier : Text}
    (listed : specifier ∈ specifiers .dotted text) : Slashless specifier := by
  obtain ⟨statement, member, listed⟩ := mem_specifiers.mp listed
  rw [statements, List.mem_append] at member
  rcases member with member | member
  · obtain ⟨found, matched, rfl⟩ := List.mem_map.mp member
    dsimp only [namesSpecifiers] at listed
    split at listed
    · next module clause taken _ =>
        have whole := property_of_mem_findAll namesImport_slashless matched taken rfl
        rcases List.mem_cons.mp listed with rfl | listed
        · exact whole
        · obtain ⟨name, imported, rfl⟩ := List.mem_map.mp listed
          exact slashless_submodule whole (slashless_of_mem_importedNames imported)
    · cases listed
  · obtain ⟨found, matched, rfl⟩ := List.mem_map.mp member
    dsimp only [modulesSpecifiers] at listed
    split at listed
    · next clause taken =>
        have whole := property_of_mem_findAll modulesImport_slashless matched taken rfl
        obtain ⟨item, inside, first⟩ := List.mem_filterMap.mp listed
        have slashless : ∀ c ∈ item, c ≠ '/' := by
          rintro c member rfl
          exact whole (Text.mem_of_mem_fields inside member).1
        have letters := Text.forall_of_mem_wordsFrom (fun _ member => absurd member List.not_mem_nil)
          (fun c member _ => slashless c member) (List.mem_of_head? first)
        exact fun member => letters '/' member rfl
    · cases listed

end Slashless

/-! ## Where specifiers lead -/

open Resolver

/-- A specifier that begins with a dot or is made of word characters and dots. -/
def IsLocal (specifier : Text) : Prop :=
  specifier.head? = some '.' ∨ ∀ c ∈ specifier, isWordChar c = true ∨ c = '.'

/-- A module name that leads to a root of two slashes: the last of its parts that begins with a
slash begins with exactly two. -/
def DoublesRoot (question : Question) : Prop :=
  question.current.suffix = ".py".toList ∧
    lastRoot? (moduleParts question.specifier) = some .doubleSlash

instance : DecidablePred DoublesRoot :=
  fun question => inferInstanceAs (Decidable (question.current.suffix = ".py".toList ∧
    lastRoot? (moduleParts question.specifier) = some .doubleSlash))

theorem dot_notMem_of_mem_moduleParts {specifier part : Text}
    (listed : part ∈ moduleParts specifier) : '.' ∉ part :=
  fun member => (Text.mem_of_mem_fields (List.mem_filter.mp listed).1 member).2 rfl

theorem lastRoot?_moduleParts {specifier : Text} (slashless : Slashless specifier) :
    lastRoot? (moduleParts specifier) = none := by
  refine lastRoot?_of_slash_notMem fun part listed member => slashless ?_
  exact List.mem_of_mem_drop (Text.mem_of_mem_fields (List.mem_filter.mp listed).1 member).1

theorem lastRoot?_ne_relative (parts : List Text) : lastRoot? parts ≠ some .relative := by
  intro last
  have rooted := (List.mem_filter.mp (List.mem_of_getLast? last)).2
  simp at rooted

theorem getD_lastRoot? (parts : List Text) :
    (lastRoot? parts).getD .slash =
      if lastRoot? parts = some .doubleSlash then .doubleSlash else .slash := by
  have absolute := lastRoot?_ne_relative parts
  generalize lastRoot? parts = last at absolute
  match last with
  | none => rfl
  | some .relative => exact absurd rfl absolute
  | some .slash => rfl
  | some .doubleSlash => rfl

theorem isAbove_dottedBase (specifier : Text) (current : Path) :
    (dottedBase specifier current).IsAbove current.parent := by
  rw [dottedBase]
  generalize leadingDots specifier - 1 = times
  generalize current.parent = path
  induction times generalizing path with
  | zero => exact ⟨rfl, List.prefix_rfl⟩
  | succ times inductionHypothesis =>
      obtain ⟨root, within⟩ := inductionHypothesis path.parent
      exact ⟨root, within.trans (List.dropLast_prefix _)⟩

section Leads

variable {root current : Path} {specifier : Text}

theorem IsLocal.slashless (isLocal : IsLocal specifier) (undotted : specifier.head? ≠ some '.') :
    Slashless specifier := by
  intro member
  rcases isLocal.resolve_left undotted '/' member with word | dot
  · exact absurd word (by decide)
  · exact absurd dot (by decide)

/-- A local specifier names no package: the scheme of a package has a colon. -/
theorem IsLocal.no_scheme {rest : Text} : ¬ IsLocal (packageScheme ++ rest) := by
  have first : packageScheme.head? = some 'p' := by decide
  have colon : ':' ∈ packageScheme := by decide
  rintro (dotted | letters)
  · rw [List.head?_append, first, Option.some_or] at dotted
    exact absurd dotted (by decide)
  · rcases letters ':' (List.mem_append_left rest colon) with word | dot
    · exact absurd word (by decide)
    · exact absurd dot (by decide)

/-- A quoted path takes the root of the directory from which it starts. -/
theorem straight_of_quoted {directory : Path} (quoted : current.suffix ≠ ".py".toList)
    (straight : directory.Straight) (single : directory.root = .slash)
    (relative : specifier.head? ≠ some '/') :
    (fileOf tree (directory.join (ofText specifier))).Straight ∧
      (fileOf tree (directory.join (ofText specifier))).root =
        if DoublesRoot ⟨specifier, current⟩ then .doubleSlash else .slash := by
  obtain ⟨whole, same⟩ := straight_fileOf tree (straight.join_ofText specifier)
  refine ⟨whole, ?_⟩
  rw [same, root_join_ofText directory relative, single, if_neg fun doubles => quoted doubles.1]

/-- The file of a module takes the root of the directory from which it is looked for, unless a
part of the module's name brings along its own. -/
theorem straight_of_module {directory : Path} (python : current.suffix = ".py".toList)
    (straight : directory.Straight) (single : directory.root = .slash)
    (found : moduleFile? tree directory (moduleParts specifier) = .ok (some file)) :
    file.Straight ∧
      file.root = if DoublesRoot ⟨specifier, current⟩ then .doubleSlash else .slash := by
  obtain ⟨whole, same⟩ :=
    straight_of_moduleFile? (fun _ => dot_notMem_of_mem_moduleParts) straight found
  refine ⟨whole, ?_⟩
  rw [same, single, getD_lastRoot?]
  simp only [DoublesRoot, python, true_and]

/-- The file to which a specifier leads is written without detours, below a single slash unless
the specifier brings along two. -/
theorem straight_of_leads (straight : current.Straight) (single : current.root = .slash)
    (isLocal : IsLocal specifier) (leads : Leads tree root ⟨specifier, current⟩ file) :
    file.Straight ∧
      file.root = if DoublesRoot ⟨specifier, current⟩ then .doubleSlash else .slash := by
  cases leads with
  | relative quoted dotted =>
      exact straight_of_quoted quoted straight.parent single (by simp [dotted])
  | library dart _ isNearest =>
      have above := isNearest.inReach.above
      have relative : specifier.head? ≠ some '/' := by
        intro begins
        have slashless := isLocal.slashless (by simp [begins])
        exact slashless (List.mem_of_head? begins)
      refine straight_of_quoted (by rw [dart]; decide) ?_ (above.1.trans single) relative
      exact (straight.parent.of_isAbove above).child (by decide) (by decide)
  | package =>
      rw [List.append_assoc] at isLocal
      exact absurd isLocal IsLocal.no_scheme
  | sibling python dotted found =>
      have above := isAbove_dottedBase specifier current
      exact straight_of_module python (straight.parent.of_isAbove above) (above.1.trans single) found
  | module python _ isNearest found =>
      have above := isNearest.inReach.above
      have directory := straight.parent.of_isAbove above
      obtain ⟨base, rfl | rfl, present⟩ := exists_of_inProject found
      · exact straight_of_module python directory (above.1.trans single) present
      · exact straight_of_module python (directory.child (by decide) (by decide))
          (above.1.trans single) present

end Leads

/-! ## Files that are known by a text -/

/-- A path by whose text a file may be known: a walk of the project comes to it, or it is the
true place of a target. -/
def Known (tree : Tree) (project path : Path) : Prop :=
  (∃ excluded, path ∈ projectFiles tree project excluded) ∨
    ∃ target, Path.resolve tree.current target = path

section Known

variable {project : Path} (rooted : tree.current.isAbsolute = true)

include rooted

/-- A source file of a project is written without detours. -/
theorem straight_of_mem_projectFiles {excluded : List Text} (lawful : tree.Lawful)
    (walked : path ∈ projectFiles tree project excluded) :
    path.Straight ∧ path.root = .slash := by
  obtain ⟨names, visited, rfl⟩ := mem_projectFiles walked
  have plain : Plain (Resolver.start tree project).root := plain_resolve rooted project
  refine ⟨?_, rfl⟩
  generalize (Resolver.start tree project).root = root at visited plain
  rw [Walk.relativeFiles] at visited
  split at visited
  · next entry found =>
      obtain ⟨-, target, below, -⟩ :=
        Walk.at?_of_mem_ofEntry (Walk.isLawful_of_entry lawful found) visited
      have there : tree.root.at? (root.names ++ names) = some target := by
        rw [Entry.at?_append, at?_of_entry plain found, Option.bind_some, below]
      exact straight_of_named plain.rooted (Entry.isLawful_of_at? lawful there).1
  · cases visited

theorem Known.plain (lawful : tree.Lawful) (known : Known tree project path) :
    Plain path ∧ path.root = .slash := by
  rcases known with ⟨excluded, walked⟩ | ⟨target, rfl⟩
  · obtain ⟨straight, single⟩ := straight_of_mem_projectFiles rooted lawful walked
    exact ⟨straight.toPlain, single⟩
  · exact ⟨plain_resolve rooted target, rfl⟩

end Known

/-- What a plain path leads to stands where its names say. -/
theorem names_of_locate (plain : Plain path) {place : List Text}
    (located : tree.locate path = .ok place) : path.names = place := by
  rw [plain.locate] at located
  obtain ⟨-, -, same⟩ := map_eq_ok_iff.mp located
  exact same

/-- Whatever a resolver has been asked before, a file that it finds for a local specifier in a
walked file is written with a slash before each name, and no name is empty, a dot, or two dots.
If a file at this place is known by a text, it is a text with the same names.  So both texts are
one, but for a specifier that brings along a root of two slashes, which no file imports. -/
theorem resolved_as_known {tree : Tree} {project current file : Path} {excluded : List Text}
    {questions : List Question} {specifier : Text} (lawful : tree.Lawful)
    (rooted : tree.current.isAbsolute = true)
    (walked : current ∈ projectFiles tree project excluded) (isLocal : IsLocal specifier)
    (found : (((Resolver.start tree project).askAll tree questions).2.resolve tree specifier
      current).1 = .ok (some file)) :
    ∃ names, (∀ name ∈ names, isSegment name = true ∧ name ≠ upward) ∧
      file.text = (if DoublesRoot ⟨specifier, current⟩ then ['/'] else []) ++
        '/' :: List.intercalate ['/'] names ∧
      (∀ other place, Known tree project other → tree.locate file = .ok place →
        tree.locate other = .ok place → other.text = '/' :: List.intercalate ['/'] names) ∧
      (specifier ∈ specifiersOf tree current → ¬ DoublesRoot ⟨specifier, current⟩) := by
  have answered : answer tree (Resolver.start tree project).root specifier current =
      .ok (some file) := by
    have fresh : (Resolver.start tree project).Faithful tree := forgetful_faithful _
    obtain ⟨-, faithful, sameRoot⟩ := askAll_faithful fresh questions
    rw [← found, ← sameRoot]
    exact (resolve_answers faithful specifier current).1.symm
  obtain ⟨straight, single⟩ := straight_of_mem_projectFiles rooted lawful walked
  obtain ⟨whole, root⟩ := straight_of_leads straight single isLocal (leads_of_answer answered)
  refine ⟨file.names, whole.names, ?_, fun other place known here there => ?_,
    fun listed doubles => ?_⟩
  · rw [text_of_rooted whole.rooted, root]
    split <;> rfl
  · obtain ⟨plain, otherRoot⟩ := known.plain rooted lawful
    rw [text_of_rooted plain.rooted, otherRoot, names_of_locate plain there,
      names_of_locate whole.toPlain here]
    rfl
  · rw [specifiersOf, if_pos doubles.1] at listed
    split at listed
    · have none := lastRoot?_moduleParts (slashless_of_mem_specifiers listed)
      exact absurd (none.symm.trans doubles.2) (by decide)
    · cases listed

/-- A project with files of two languages. -/
def detourTree : Tree where
  root := .directory [("repo".toList, .directory
    [("app".toList, .directory [("main.js".toList, .file [] 1), ("util.js".toList, .file [] 1)]),
      ("main.py".toList, .file [] 1), ("util.py".toList, .file [] 1)])]

/-- A path in this project. -/
def detourPath (names : List String) : Path where
  names := "repo".toList :: names.map String.toList

theorem projectFiles_detour : projectFiles detourTree (detourPath []) [] =
    [detourPath ["main.py"], detourPath ["util.py"], detourPath ["app", "main.js"],
      detourPath ["app", "util.js"]] := by
  rw [projectFiles, Walk.sourceFiles, Walk.files, Walk.relativeFiles,
    show detourTree.entry (Resolver.start detourTree (detourPath [])).root = .ok (.directory _)
      from rfl]
  dsimp only
  have below : Walk.ofEntry [] true
      (.directory [("main.js".toList, .file [] 1), ("util.js".toList, .file [] 1)]) =
        [["main.js".toList], ["util.js".toList]] := by
    rw [Walk.ofEntry_of_ordered (by decide)]
    decide +kernel
  have entered : Walk.ofChildren [] true
      [("app".toList, .directory [("main.js".toList, .file [] 1), ("util.js".toList, .file [] 1)]),
        ("main.py".toList, .file [] 1), ("util.py".toList, .file [] 1)] =
        [("app".toList, [["main.js".toList], ["util.js".toList]])] := by
    rw [Walk.ofChildren, below]
    decide +kernel
  rw [Walk.ofEntry_of_ordered (by decide), entered]
  decide +kernel

/-- A quoted path with dots, two dots and several slashes leads to a file under the text by which
the walk knows it. -/
theorem resolved_as_known_detour :
    (((Resolver.start detourTree (detourPath [])).askAll detourTree
        [⟨"./util".toList, detourPath ["app", "main.js"]⟩]).2.resolve detourTree
      "..//app/.///../app/util".toList (detourPath ["app", "main.js"])).1 =
        .ok (some (detourPath ["app", "util.js"])) ∧
      Known detourTree (detourPath []) (detourPath ["app", "util.js"]) ∧
      ∃ names, (detourPath ["app", "util.js"]).text = '/' :: List.intercalate ['/'] names ∧
        ∀ other place, Known detourTree (detourPath []) other →
          detourTree.locate (detourPath ["app", "util.js"]) = .ok place →
            detourTree.locate other = .ok place →
              other.text = '/' :: List.intercalate ['/'] names := by
  have found : (((Resolver.start detourTree (detourPath [])).askAll detourTree
        [⟨"./util".toList, detourPath ["app", "main.js"]⟩]).2.resolve detourTree
      "..//app/.///../app/util".toList (detourPath ["app", "main.js"])).1 =
        .ok (some (detourPath ["app", "util.js"])) := by decide +kernel
  have walked : detourPath ["app", "main.js"] ∈ projectFiles detourTree (detourPath []) [] ∧
      detourPath ["app", "util.js"] ∈ projectFiles detourTree (detourPath []) [] := by
    rw [projectFiles_detour]
    decide
  obtain ⟨names, -, text, tracked, -⟩ :=
    resolved_as_known (by decide) rfl walked.1 (Or.inl rfl) found
  exact ⟨found, Or.inl ⟨[], walked.2⟩, names, text, tracked⟩

/-- A module name with two slashes behind a dot leads to a walked file under another text than
the one by which the walk knows it. -/
theorem resolved_below_two_slashes :
    detourTree.Lawful ∧
      detourPath ["main.py"] ∈ projectFiles detourTree (detourPath []) [] ∧
      detourPath ["util.py"] ∈ projectFiles detourTree (detourPath []) [] ∧
      IsLocal ".//repo/util".toList ∧
      ∃ file, ((Resolver.start detourTree (detourPath [])).resolve detourTree
          ".//repo/util".toList (detourPath ["main.py"])).1 = .ok (some file) ∧
        detourTree.locate file = detourTree.locate (detourPath ["util.py"]) ∧
        file.text = "//repo/util.py".toList ∧
        (detourPath ["util.py"]).text = "/repo/util.py".toList := by
  refine ⟨by decide, ?_, ?_, Or.inl rfl,
    { detourPath ["util.py"] with root := .doubleSlash }, by decide +kernel⟩
  · rw [projectFiles_detour]
    decide
  · rw [projectFiles_detour]
    decide

end Import
end Codemap
