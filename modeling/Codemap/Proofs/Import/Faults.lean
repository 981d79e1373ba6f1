import Codemap.Proofs.Import.Resolver
import Codemap.Proofs.Result

namespace Codemap

namespace Import

/-!
# Why following imports fails

A path that no file system takes is a fault about files.  Two faults are not: a module
path without a name, and a package description that is no malformed document but holds
a value that cannot be made.
-/

/-- Where a fault of resolving comes from. -/
def ResolveFault.Arises (tree : Tree) : ResolveFault → Prop
  | .storage _ _ => True
  | .emptyName text => ∃ module : Path, module.name = [] ∧ text = module.text
  | .document why => why ≠ .malformed ∧ ∃ (package : Path) (text : Text),
      tree.readText (package.child Marker.packageFile) = .ok text ∧
        Yaml.Document.ofText text = .error why

variable {tree : Tree} {why : ResolveFault}

theorem isFile?_fault {path : Path} (failed : isFile? tree path = .error why) :
    ∃ refusal text, why = .storage refusal text := by
  rw [isFile?] at failed
  split at failed
  · cases failed
  · cases failed
    exact ⟨_, _, rfl⟩

theorem firstFile?_fault {paths : List Path} (failed : firstFile? tree paths = .error why) :
    ∃ refusal text, why = .storage refusal text := by
  induction paths with
  | nil => cases failed
  | cons path rest inductionHypothesis =>
      rw [firstFile?] at failed
      rcases error_of_bind failed with looked | ⟨found, _, later⟩
      · exact isFile?_fault looked
      · cases found with
        | true => cases later
        | false => exact inductionHypothesis later

theorem hasMarker_fault {marker : Marker} {directory : Path}
    (failed : hasMarker tree marker directory = .error why) :
    ∃ refusal text, why = .storage refusal text := by
  rw [hasMarker] at failed
  cases looked : firstFile? tree (marker.files.map directory.child) with
  | error other =>
      rw [looked] at failed
      cases failed
      exact firstFile?_fault looked
  | ok found =>
      rw [looked] at failed
      cases failed

theorem firstMarked_fault {root : Path} {marker : Marker} {directories : List Path}
    (failed : firstMarked tree root marker directories = .error why) :
    ∃ refusal text, why = .storage refusal text := by
  induction directories with
  | nil => cases failed
  | cons directory above inductionHypothesis =>
      rw [firstMarked] at failed
      rcases error_of_bind failed with looked | ⟨marked, _, later⟩
      · exact hasMarker_fault looked
      · cases marked with
        | true => cases later
        | false =>
            by_cases top : directory = root
            · simp [top, pure, Except.pure] at later
            · apply inductionHypothesis
              simpa [top, pure, Except.pure, bind, Except.bind] using later

theorem nearest_fault {root start : Path} {marker : Marker}
    (failed : nearest tree root marker start = .error why) :
    ∃ refusal text, why = .storage refusal text :=
  firstMarked_fault failed

theorem arises_of_storage (stored : ∃ refusal text, why = .storage refusal text) :
    why.Arises tree := by
  obtain ⟨_, _, rfl⟩ := stored
  exact True.intro

theorem packageName_fault {package : Path} (failed : packageName tree package = .error why) :
    why.Arises tree := by
  rw [packageName] at failed
  split at failed
  · cases failed
  · next text read =>
      split at failed
      · cases failed
      · cases failed
      · next fault notMalformed unread =>
          cases failed
          exact ⟨fun same => notMalformed same, package, text, read, unread⟩

theorem moduleFile?_fault {base : Path} {parts : List Text}
    (failed : moduleFile? tree base parts = .error why) : why.Arises tree := by
  rw [moduleFile?] at failed
  dsimp only at failed
  split at failed
  · rcases error_of_bind failed with looked | ⟨found, _, later⟩
    · exact arises_of_storage (firstFile?_fault looked)
    · cases later
  · split at failed
    · next nameless =>
        cases failed
        exact ⟨_, List.isEmpty_iff.mp nameless, rfl⟩
    · rcases error_of_bind failed with looked | ⟨found, _, later⟩
      · exact arises_of_storage (firstFile?_fault looked)
      · cases later

theorem presentModule?_fault {base : Path} {parts : List Text}
    (failed : Resolver.presentModule? tree base parts = .error why) : why.Arises tree := by
  rw [Resolver.presentModule?] at failed
  cases looked : moduleFile? tree base parts with
  | error other =>
      rw [looked] at failed
      cases failed
      exact moduleFile?_fault looked
  | ok found =>
      rw [looked] at failed
      cases failed

theorem inProject_fault {project : Path} {parts : List Text}
    (failed : Resolver.inProject tree project parts = .error why) : why.Arises tree := by
  rw [Resolver.inProject] at failed
  rcases error_of_bind failed with looked | ⟨found, _, later⟩
  · exact presentModule?_fault looked
  · cases found with
    | some found => cases later
    | none => exact presentModule?_fault later

theorem ofModuleAnswer_fault {root current : Path} {specifier : Text}
    (failed : Resolver.ofModuleAnswer tree root specifier current = .error why) :
    why.Arises tree := by
  rw [Resolver.ofModuleAnswer] at failed
  split at failed
  · exact moduleFile?_fault failed
  · split at failed
    · cases failed
    · rcases error_of_bind failed with looked | ⟨project, _, later⟩
      · exact arises_of_storage (nearest_fault looked)
      · cases project with
        | none => cases later
        | some project => exact inProject_fault later

theorem ofPackageAnswer_fault {root current : Path} {specifier : Text}
    (failed : Resolver.ofPackageAnswer tree root specifier current = .error why) :
    why.Arises tree := by
  rw [Resolver.ofPackageAnswer] at failed
  split at failed
  · cases failed
  · rcases error_of_bind failed with looked | ⟨package, _, later⟩
    · exact arises_of_storage (nearest_fault looked)
    · cases package with
      | none => cases later
      | some package =>
          rcases error_of_bind later with named | ⟨name, _, last⟩
          · exact packageName_fault named
          · split at last <;> cases last

theorem inPackageAnswer_fault {root current : Path} {specifier : Text}
    (failed : Resolver.inPackageAnswer tree root specifier current = .error why) :
    why.Arises tree := by
  rw [Resolver.inPackageAnswer] at failed
  cases looked : nearest tree root .package current.parent with
  | error other =>
      rw [looked] at failed
      cases failed
      exact arises_of_storage (nearest_fault looked)
  | ok found =>
      rw [looked] at failed
      cases failed

/-- Every fault of a specifier arises from the tree. -/
theorem answer_fault {root current : Path} {specifier : Text}
    (failed : Resolver.answer tree root specifier current = .error why) : why.Arises tree := by
  rw [Resolver.answer] at failed
  split at failed
  · exact ofModuleAnswer_fault failed
  · split at failed
    · exact ofPackageAnswer_fault failed
    · split at failed
      · cases failed
      · split at failed
        · cases failed
        · exact inPackageAnswer_fault failed

theorem answers_fault {root current : Path} {specifiers : List Text}
    (failed : Resolver.answers tree root current specifiers = .error why) : why.Arises tree := by
  induction specifiers with
  | nil => cases failed
  | cons specifier rest inductionHypothesis =>
      rw [Resolver.answers] at failed
      split at failed
      · next other answered =>
          cases failed
          exact answer_fault answered
      · cases later : Resolver.answers tree root current rest with
        | error other =>
            rw [later] at failed
            cases failed
            exact inductionHypothesis later
        | ok others =>
            rw [later] at failed
            cases failed

theorem answeredSources_fault {root : Path} {walked : List Path}
    (failed : answeredSources tree root walked = .error why) : why.Arises tree := by
  induction walked with
  | nil => cases failed
  | cons path rest inductionHypothesis =>
      rw [answeredSources] at failed
      split at failed
      · next other answered =>
          cases failed
          exact answers_fault answered
      · cases later : answeredSources tree root rest with
        | error other =>
            rw [later] at failed
            cases failed
            exact inductionHypothesis later
        | ok others =>
            rw [later] at failed
            cases failed

/-- Every fault of following imports arises from the tree. -/
theorem references_fault {files : List Path} {project : Path} {greatest : Int}
    {excluded : List Text} (failed : references tree files project greatest excluded = .error why) :
    why.Arises tree := by
  rw [references] at failed
  dsimp only at failed
  split at failed
  · cases failed
  · rcases error_of_bind failed with looked | ⟨sources, _, later⟩
    · have faithful : (Resolver.start tree project).Faithful tree := Resolver.forgetful_faithful _
      rw [sourcesOf_eq_answeredSources faithful] at looked
      exact answeredSources_fault looked
    · cases later

end Import
end Codemap
