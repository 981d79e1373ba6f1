import Codemap.Proofs.Files.Place
import Codemap.Proofs.Import.References
import Codemap.Proofs.Import.Visible

namespace Codemap
namespace Import

/-!
# Following imports past hidden files

Trees that differ in hidden files only have the same files that import other files.  The
answers to a specifier may differ in a path that is spelt like a hidden file.  If no file of
the project is spelt so, such a path has no part in the levels.
-/

open Codemap.Tree

variable {tree left right : Tree} {place : List Text} {hidden : Text → Bool} {path root : Path}
  {mayMake : Prop}

/-! ## Answers -/

theorem legible_selfAndAbove (legible : path.Legible) : ∀ above ∈ path.selfAndAbove, above.Legible := by
  intro above member
  obtain ⟨n, _, rfl⟩ := List.mem_map.mp member
  exact ⟨legible.rooted, fun name taken => legible.segments name (List.mem_of_mem_take taken)⟩

/-- Hidden files do not show in what a module name stands for. -/
theorem ofModuleAnswer_repeats (grown : Grown mayMake place hidden left right)
    (overlooks : Overlooks hidden) (root : Path) (specifier : Text) (plain : Plain path) :
    Repeats mayMake ResolveFault.IsLong Eq (Resolver.ofModuleAnswer left root specifier path)
      (Resolver.ofModuleAnswer right root specifier path) := by
  have noDots (text : Text) : ∀ part ∈ (Text.fields '.' text).filter fun part => !part.isEmpty,
      '.' ∉ part := fun part listed member =>
    (Text.mem_of_mem_fields (List.mem_filter.mp listed).1 member).2 rfl
  rw [Resolver.ofModuleAnswer, Resolver.ofModuleAnswer]
  split
  · exact moduleFile?_repeats grown overlooks (noDots _) (plain_parents plain.parent _)
  · split
    · exact .ok rfl
    · refine (nearest_repeats grown overlooks root .project plain.parent).bind ?_
      rintro found _ marked _ rfl
      cases found with
      | none => exact .ok rfl
      | some project =>
          have above := mem_of_firstMarked marked
          exact inProject_repeats grown overlooks (noDots _)
            (plain_selfAndAbove plain.parent project above)

theorem answers_cons (tree : Tree) (root path : Path) (specifier : Text) (rest : List Text) :
    Resolver.answers tree root path (specifier :: rest) =
      (Resolver.answer tree root specifier path >>= fun found =>
        (Resolver.answers tree root path rest).map (found.toList ++ ·)) := by
  rw [Resolver.answers]
  cases Resolver.answer tree root specifier path <;> rfl

section Answers

variable (grown : Grown mayMake place hidden left right) (overlooks : Overlooks hidden)
  (plain : Plain path) (legible : path.Legible)

include grown overlooks plain legible

theorem ofPackageAnswer_repeats (root : Path) (specifier : Text) :
    Repeats mayMake ResolveFault.IsLong (Option.Rel (SameFile place hidden))
      (Resolver.ofPackageAnswer left root specifier path)
      (Resolver.ofPackageAnswer right root specifier path) := by
  rw [Resolver.ofPackageAnswer, Resolver.ofPackageAnswer]
  split
  · exact .ok .none
  · refine (nearest_repeats grown overlooks root .package plain.parent).bind ?_
    rintro found _ marked _ rfl
    cases found with
    | none => exact .ok .none
    | some package =>
        have above := mem_of_firstMarked marked
        have plainPackage := plain_selfAndAbove plain.parent package above
        have legiblePackage := legible_selfAndAbove legible.parent package above
        simp only [packageName_eq grown overlooks plainPackage]
        cases packageName right package with
        | error why => exact .error why
        | ok name =>
            simp only [bind, Except.bind]
            split
            · have joined := Path.Legible.join_ofText (legiblePackage.child (by decide :
                  isSegment "lib".toList = true)) (specifier.drop
                    ((specifier.takeWhile (· != '/')).length + 1))
              exact .ok (.some (fileOf_same grown overlooks joined))
            · exact .ok .none

theorem inPackageAnswer_repeats (root : Path) (specifier : Text) :
    Repeats mayMake ResolveFault.IsLong (Option.Rel (SameFile place hidden))
      (Resolver.inPackageAnswer left root specifier path)
      (Resolver.inPackageAnswer right root specifier path) := by
  rw [Resolver.inPackageAnswer, Resolver.inPackageAnswer]
  refine (nearest_repeats grown overlooks root .package plain.parent).map ?_
  rintro found _ marked _ rfl
  cases found with
  | none => exact .none
  | some package =>
      have above := mem_of_firstMarked marked
      have legiblePackage := legible_selfAndAbove legible.parent package above
      have joined := Path.Legible.join_ofText
        (legiblePackage.child (by decide : isSegment "lib".toList = true)) specifier
      exact .some (fileOf_same grown overlooks joined)

/-- A specifier has the same answer, unless it spells a hidden file. -/
theorem answer_repeats (root : Path) (specifier : Text) :
    Repeats mayMake ResolveFault.IsLong (Option.Rel (SameFile place hidden))
      (Resolver.answer left root specifier path) (Resolver.answer right root specifier path) := by
  rw [Resolver.answer, Resolver.answer]
  split
  · refine (ofModuleAnswer_repeats grown overlooks root specifier plain).imp ?_
    rintro found _ rfl
    cases found with
    | none => exact .none
    | some file => exact .some (.refl file)
  · split
    · exact ofPackageAnswer_repeats grown overlooks plain legible root _
    · split
      · exact .ok (.some (fileOf_same grown overlooks (legible.parent.join_ofText specifier)))
      · split
        · exact .ok .none
        · exact inPackageAnswer_repeats grown overlooks plain legible root specifier

theorem answers_repeat (root : Path) (specifiers : List Text) :
    Repeats mayMake ResolveFault.IsLong (List.Forall₂ (SameFile place hidden))
      (Resolver.answers left root path specifiers) (Resolver.answers right root path specifiers) := by
  induction specifiers with
  | nil => exact .ok .nil
  | cons specifier rest inductionHypothesis =>
      rw [answers_cons, answers_cons]
      refine (answer_repeats grown overlooks plain legible root specifier).bind ?_
      intro found other _ _ same
      refine inductionHypothesis.map ?_
      intro founds others _ _ later
      cases same with
      | none => exact later
      | some same => exact .cons same later

end Answers

/-! ## Levels -/

/-- The same source is met, and it imports the same files apart from paths that spell hidden
ones. -/
def SameSource (place : List Text) (hidden : Text → Bool) (source other : Source) : Prop :=
  source.file = other.file ∧ ∃ found again, List.Forall₂ (SameFile place hidden) found again ∧
    source.imports = found.map Path.text ∧ other.imports = again.map Path.text

/-- No path that spells a hidden file has one of these texts. -/
def Unspelt (place : List Text) (hidden : Text → Bool) (texts : List Text) : Prop :=
  ∀ path, Spelt place hidden path → path.text ∉ texts

theorem unspelt_append {texts others : List Text} :
    Unspelt place hidden (texts ++ others) ↔
      Unspelt place hidden texts ∧ Unspelt place hidden others := by
  simp only [Unspelt, List.mem_append, not_or]
  exact ⟨fun each => ⟨fun path spelt => (each path spelt).1, fun path spelt => (each path spelt).2⟩,
    fun both path spelt => ⟨both.1 path spelt, both.2 path spelt⟩⟩

/-- Paths that spell hidden files are not among texts of which none does. -/
theorem filter_text_eq {texts : List Text} (unspelt : Unspelt place hidden texts)
    {found again : List Path} (same : List.Forall₂ (SameFile place hidden) found again) :
    (found.map Path.text).filter texts.contains = (again.map Path.text).filter texts.contains := by
  induction same with
  | nil => rfl
  | @cons path other rest others here later inductionHypothesis =>
      rcases here with rfl | ⟨spelt, otherSpelt⟩
      · simp only [List.map_cons, List.filter_cons, inductionHypothesis]
      · have first : texts.contains path.text = false := by simpa using unspelt path spelt
        have second : texts.contains other.text = false := by simpa using unspelt other otherSpelt
        simp only [List.map_cons, List.filter_cons, first, second, inductionHypothesis,
          Bool.false_eq_true, if_false]

theorem nextLevel_same {sources others : List Source}
    (same : List.Forall₂ (SameSource place hidden) sources others) {references : List Reference}
    (unspelt : Unspelt place hidden (tracked references)) (depth : Nat) :
    nextLevel sources references depth = nextLevel others references depth := by
  induction same with
  | nil => rfl
  | @cons source other rest others here later inductionHypothesis =>
      obtain ⟨file, found, again, files, imports, otherImports⟩ := here
      have hits := filter_text_eq unspelt files
      rw [← imports, ← otherImports] at hits
      rw [nextLevel, nextLevel] at inductionHypothesis ⊢
      rw [List.filterMap_cons, List.filterMap_cons, inductionHypothesis, file, hits]

/-- Paths that spell hidden files do not show in the levels. -/
theorem addLevels_same {sources others : List Source}
    (same : List.Forall₂ (SameSource place hidden) sources others)
    (free : Unspelt place hidden (sources.map Source.file)) (greatest : Int) (fuel depth : Nat)
    {references : List Reference} (unspelt : Unspelt place hidden (tracked references)) :
    addLevels sources greatest fuel depth references =
      addLevels others greatest fuel depth references := by
  induction fuel generalizing depth references with
  | zero => rfl
  | succ fuel inductionHypothesis =>
      rw [addLevels, addLevels, nextLevel_same same unspelt]
      split
      · cases level : nextLevel others references depth with
        | nil => rfl
        | cons first rest =>
            refine inductionHypothesis _ ?_
            rw [← level, tracked, List.map_append, unspelt_append]
            refine ⟨unspelt, fun path spelt member => free path spelt ?_⟩
            obtain ⟨reference, listed, text⟩ := List.mem_map.mp member
            rw [← nextLevel_same same unspelt] at listed
            obtain ⟨source, met, _, _, rfl⟩ := mem_nextLevel.mp listed
            rw [← text]
            exact List.mem_map_of_mem met
      · rfl

/-! ## The whole run -/

theorem specifiersOf_eq (grown : Grown mayMake place hidden left right)
    (visible : Visible place hidden path) : specifiersOf left path = specifiersOf right path := by
  have byText (tree : Tree) : specifiersOf tree path = ((tree.readText path).toOption.elim []
      (specifiers (if path.suffix = ".py".toList then .dotted else .quoted))) := by
    rw [specifiersOf]
    cases tree.readText path <;> rfl
  rw [byText, byText, grown.readText visible]

theorem answeredSources_cons (tree : Tree) (root path : Path) (rest : List Path) :
    answeredSources tree root (path :: rest) =
      (Resolver.answers tree root path (specifiersOf tree path) >>= fun found =>
        (answeredSources tree root rest).map fun others =>
          ⟨path.text, found.map Path.text⟩ :: others) := by
  rw [answeredSources]
  cases Resolver.answers tree root path (specifiersOf tree path) <;> rfl

/-- A path whose names are legible and spell no hidden file. -/
structure Followed (place : List Text) (hidden : Text → Bool) (path : Path) : Prop where
  plain : Plain path
  legible : path.Legible
  unspelt : ¬ Spelt place hidden path

theorem unspelt_of_followed {paths : List Path}
    (followed : ∀ path ∈ paths, Followed place hidden path) :
    Unspelt place hidden (paths.map Path.text) := by
  intro path spelt member
  obtain ⟨other, listed, same⟩ := List.mem_map.mp member
  have here := followed other listed
  rw [here.legible.eq_of_text spelt.legible same] at here
  exact here.unspelt spelt

theorem answeredSources_repeat (grown : Grown mayMake place hidden left right)
    (overlooks : Overlooks hidden) (root : Path) {walked : List Path}
    (followed : ∀ path ∈ walked, Followed place hidden path) :
    Repeats mayMake ResolveFault.IsLong (List.Forall₂ (SameSource place hidden))
      (answeredSources left root walked) (answeredSources right root walked) := by
  induction walked with
  | nil => exact .ok .nil
  | cons path rest inductionHypothesis =>
      have here := followed path List.mem_cons_self
      have later := inductionHypothesis fun other member =>
        followed other (List.mem_cons_of_mem path member)
      rw [answeredSources_cons, answeredSources_cons,
        specifiersOf_eq grown (visible_of_not_spelt here.plain here.legible here.unspelt)]
      refine (answers_repeat grown overlooks here.plain here.legible root
        (specifiersOf right path)).bind ?_
      intro found other _ _ same
      refine later.map ?_
      intro founds others _ _ sameLater
      exact .cons ⟨rfl, found, other, same, rfl, rfl⟩ sameLater

theorem answeredSources_files {walked : List Path} {sources : List Source}
    (resolved : answeredSources tree root walked = .ok sources) :
    sources.map Source.file = walked.map Path.text := by
  induction walked generalizing sources with
  | nil =>
      cases resolved
      rfl
  | cons path rest inductionHypothesis =>
      rw [answeredSources] at resolved
      split at resolved
      · cases resolved
      · cases later : answeredSources tree root rest with
        | error why =>
            rw [later] at resolved
            cases resolved
        | ok others =>
            rw [later] at resolved
            cases resolved
            rw [List.map_cons, List.map_cons, inductionHypothesis later]

/-- Following imports without memory. -/
theorem references_eq_answered (tree : Tree) (files : List Path) (project : Path) (greatest : Int)
    (excluded : List Text) :
    references tree files project greatest excluded =
      if greatest = 0 || (targets tree files).isEmpty then .ok (targets tree files)
      else (answeredSources tree (Path.resolve tree.current project)
        (walkedFiles tree files project excluded)).map fun sources =>
          addLevels sources greatest sources.length 1 (targets tree files) := by
  have faithful : (Resolver.start tree project).Faithful tree := Resolver.forgetful_faithful _
  unfold references
  dsimp only
  rw [sourcesOf_eq_answeredSources faithful]
  split
  · rfl
  · dsimp only [Resolver.start, walkedFiles, projectFiles]
    cases answeredSources tree (Path.resolve tree.current project) _ <;> rfl

/-- What has been recorded when following imports succeeds: the targets, and levels that are made
from the files that have been walked. -/
theorem references_ok {files : List Path} {project : Path} {greatest : Int} {excluded : List Text}
    {found : List Reference} (followed : references tree files project greatest excluded = .ok found) :
    found = targets tree files ∨
      ∃ sources, sources.map Source.file =
          (walkedFiles tree files project excluded).map Path.text ∧
        found = addLevels sources greatest sources.length 1 (targets tree files) := by
  rw [references_eq_answered] at followed
  split at followed
  · cases followed
    exact Or.inl rfl
  · obtain ⟨sources, answered, rfl⟩ := map_eq_ok_iff.mp followed
    exact Or.inr ⟨sources, answeredSources_files answered, rfl⟩

/-- The files that import others are found again, if the same source files are met and no
file of the project is spelt like a hidden one. -/
theorem references_repeat (grown : Grown mayMake place hidden left right)
    (overlooks : Overlooks hidden) {files : List Path} {project : Path} (greatest : Int)
    (excluded : List Text)
    (met : projectFiles right project excluded = projectFiles left project excluded)
    (walked : ∀ path ∈ projectFiles left project excluded, Followed place hidden path)
    (asked : ∀ file ∈ files, Followed place hidden (Path.resolve left.current file)) :
    Repeats mayMake ResolveFault.IsLong Eq (references left files project greatest excluded)
      (references right files project greatest excluded) := by
  have sameTargets : targets right files = targets left files := by
    rw [targets, targets, grown.current]
  have sameWalk : walkedFiles right files project excluded =
      walkedFiles left files project excluded := by
    rw [walkedFiles, walkedFiles, sameTargets, met]
  have followed : ∀ path ∈ walkedFiles left files project excluded, Followed place hidden path :=
    fun path member => walked path (mem_walkedFiles.mp member).1
  have targetsUnspelt : Unspelt place hidden (tracked (targets left files)) := by
    intro path spelt member
    obtain ⟨reference, listed, text⟩ := List.mem_map.mp member
    obtain ⟨file, given, rfl⟩ := mem_targets.mp listed
    have here := asked file given
    rw [here.legible.eq_of_text spelt.legible text] at here
    exact here.unspelt spelt
  rw [references_eq_answered, references_eq_answered, grown.current, sameTargets, sameWalk]
  split
  · exact .ok rfl
  · refine (answeredSources_repeat grown overlooks _ followed).map ?_
    intro found other leftFound _ same
    have free : Unspelt place hidden (found.map Source.file) := by
      rw [answeredSources_files leftFound]
      exact unspelt_of_followed followed
    rw [same.length_eq, addLevels_same same free greatest _ 1 targetsUnspelt]

end Import
end Codemap
