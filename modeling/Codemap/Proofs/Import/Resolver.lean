import Codemap.Import.References

namespace Codemap
namespace Import

/-!
# What a resolver remembers does not show

A resolver remembers marked directories and package names over the whole session.
As long as the tree does not change, what it remembers is what it would find again.
`Faithful` says so of a resolver.  Every question keeps it, and a faithful resolver
answers as one that remembers nothing, faults included.
-/

variable {tree : Tree}

namespace Resolver

/-- A resolver for a root that remembers nothing. -/
def forgetful (root : Path) : Resolver where
  root := root

/-- What is remembered is what looking at the tree finds. -/
structure Faithful (resolver : Resolver) (tree : Tree) : Prop where
  marked : ∀ entry ∈ resolver.marked,
    nearest tree resolver.root entry.1.2 entry.1.1 = .ok entry.2
  packages : ∀ entry ∈ resolver.packages, packageName tree entry.1 = .ok entry.2

theorem forgetful_faithful (root : Path) : (forgetful root).Faithful tree where
  marked := fun _ member => absurd member List.not_mem_nil
  packages := fun _ member => absurd member List.not_mem_nil

/-- A question is answered with `answer`, and what the resolver remembers afterwards is
faithful again. -/
def Answers {α : Type} (resolver : Resolver) (tree : Tree) (answer : Except ResolveFault α)
    (outcome : Except ResolveFault α × Resolver) : Prop :=
  outcome.1 = answer ∧ outcome.2.Faithful tree ∧ outcome.2.root = resolver.root

theorem answers_self {α : Type} {resolver : Resolver} (faithful : resolver.Faithful tree)
    (answer : Except ResolveFault α) : resolver.Answers tree answer (answer, resolver) :=
  ⟨rfl, faithful, rfl⟩

theorem Answers.trans {α β : Type} {resolver next : Resolver} {first : Except ResolveFault α}
    {second : Except ResolveFault β} {outcome : Except ResolveFault α × Resolver}
    {later : Except ResolveFault β × Resolver} (asked : resolver.Answers tree first outcome)
    (same : outcome.2 = next) (after : next.Answers tree second later) :
    resolver.Answers tree second later :=
  ⟨after.1, after.2.1, by rw [after.2.2, ← same, asked.2.2]⟩

theorem directory_answers {resolver : Resolver} (faithful : resolver.Faithful tree)
    (marker : Marker) (start : Path) :
    resolver.Answers tree (nearest tree resolver.root marker start)
      (resolver.directory tree marker start) := by
  unfold directory
  split
  · next key found remembered =>
      have member := List.mem_of_find?_eq_some remembered
      have same := List.find?_some remembered
      have right := faithful.marked _ member
      rw [eq_of_beq same] at right
      exact ⟨right.symm, faithful, rfl⟩
  · split
    · next found looked =>
        refine ⟨looked.symm, ⟨fun entry member => ?_, faithful.packages⟩, rfl⟩
        rcases List.mem_cons.mp member with rfl | older
        · exact looked
        · exact faithful.marked entry older
    · next why looked => exact ⟨looked.symm, faithful, rfl⟩

theorem nameOf_answers {resolver : Resolver} (faithful : resolver.Faithful tree)
    (package : Path) :
    resolver.Answers tree (packageName tree package) (resolver.nameOf tree package) := by
  unfold nameOf
  split
  · next key name remembered =>
      have member := List.mem_of_find?_eq_some remembered
      have same := List.find?_some remembered
      have right := faithful.packages _ member
      rw [eq_of_beq same] at right
      exact ⟨right.symm, faithful, rfl⟩
  · split
    · next name looked =>
        refine ⟨looked.symm, ⟨faithful.marked, fun entry member => ?_⟩, rfl⟩
        rcases List.mem_cons.mp member with rfl | older
        · exact looked
        · exact faithful.packages entry older
    · next why looked => exact ⟨looked.symm, faithful, rfl⟩

/-- The answers to a path inside the importing file's package, found without memory. -/
def inPackageAnswer (tree : Tree) (root : Path) (specifier : Text) (current : Path) :
    Except ResolveFault (Option Path) :=
  (nearest tree root .package current.parent).map fun found =>
    found.map fun package => fileOf tree ((library package).join (Path.ofText specifier))

theorem inPackage_answers {resolver : Resolver} (faithful : resolver.Faithful tree)
    (specifier : Text) (current : Path) :
    resolver.Answers tree (inPackageAnswer tree resolver.root specifier current)
      (resolver.inPackage tree specifier current) := by
  have asked := directory_answers faithful .package current.parent
  unfold inPackage inPackageAnswer
  rw [← asked.1]
  cases outcome : resolver.directory tree .package current.parent with
  | mk answer next =>
      rw [outcome] at asked
      cases answer with
      | error why => exact asked.trans rfl (answers_self asked.2.1 _)
      | ok found =>
          cases found with
          | none => exact asked.trans rfl (answers_self asked.2.1 _)
          | some package => exact asked.trans rfl (answers_self asked.2.1 _)

/-- The answers to a path inside a named package, found without memory. -/
def ofPackageAnswer (tree : Tree) (root : Path) (specifier : Text) (current : Path) :
    Except ResolveFault (Option Path) :=
  let name := specifier.takeWhile (· != '/')
  let path := specifier.drop (name.length + 1)
  if path.isEmpty then .ok none
  else do
    match ← nearest tree root .package current.parent with
    | none => return none
    | some package =>
        if (← packageName tree package) = .whole name then
          return some (fileOf tree ((library package).join (Path.ofText path)))
        else return none

theorem ofPackage_answers {resolver : Resolver} (faithful : resolver.Faithful tree)
    (specifier : Text) (current : Path) :
    resolver.Answers tree (ofPackageAnswer tree resolver.root specifier current)
      (resolver.ofPackage tree specifier current) := by
  have asked := directory_answers faithful .package current.parent
  unfold ofPackage ofPackageAnswer
  rw [← asked.1]
  dsimp only
  split
  · exact answers_self faithful _
  · cases outcome : resolver.directory tree .package current.parent with
    | mk answer next =>
        rw [outcome] at asked
        cases answer with
        | error why => exact asked.trans rfl (answers_self asked.2.1 _)
        | ok found =>
            cases found with
            | none => exact asked.trans rfl (answers_self asked.2.1 _)
            | some package =>
                have named := nameOf_answers asked.2.1 package
                dsimp only [bind, Except.bind]
                rw [← named.1]
                cases naming : next.nameOf tree package with
                | mk name last =>
                    rw [naming] at named
                    apply asked.trans rfl
                    apply named.trans rfl
                    cases name with
                    | error why => exact answers_self named.2.1 _
                    | ok name =>
                        dsimp only
                        split <;> exact answers_self named.2.1 _

/-- The answers to a module name, found without memory. -/
def ofModuleAnswer (tree : Tree) (root : Path) (specifier : Text) (current : Path) :
    Except ResolveFault (Option Path) :=
  let dots := (specifier.takeWhile (· == '.')).length
  let parts := (Text.fields '.' (specifier.drop dots)).filter fun part => !part.isEmpty
  if 0 < dots then
    moduleFile? tree
      ((List.replicate (dots - 1) ()).foldl (fun path _ => path.parent) current.parent) parts
  else if parts.isEmpty then .ok none
  else do
    match ← nearest tree root .project current.parent with
    | none => return none
    | some project => inProject tree project parts

theorem ofModule_answers {resolver : Resolver} (faithful : resolver.Faithful tree)
    (specifier : Text) (current : Path) :
    resolver.Answers tree (ofModuleAnswer tree resolver.root specifier current)
      (resolver.ofModule tree specifier current) := by
  have asked := directory_answers faithful .project current.parent
  unfold ofModule ofModuleAnswer
  rw [← asked.1]
  dsimp only
  split
  · exact answers_self faithful _
  · split
    · exact answers_self faithful _
    · cases outcome : resolver.directory tree .project current.parent with
      | mk answer next =>
          rw [outcome] at asked
          cases answer with
          | error why => exact asked.trans rfl (answers_self asked.2.1 _)
          | ok found =>
              cases found with
              | none => exact asked.trans rfl (answers_self asked.2.1 _)
              | some project => exact asked.trans rfl (answers_self asked.2.1 _)

/-- The answer to a specifier, found without memory. -/
def answer (tree : Tree) (root : Path) (specifier : Text) (current : Path) :
    Except ResolveFault (Option Path) :=
  if current.suffix = ".py".toList then ofModuleAnswer tree root specifier current
  else if packageScheme.isPrefixOf specifier then
    ofPackageAnswer tree root (specifier.drop packageScheme.length) current
  else if specifier.head? = some '.' then
    .ok (some (fileOf tree (current.parent.join (Path.ofText specifier))))
  else if specifier.head? = some '/' ∨ current.suffix ≠ ".dart".toList then .ok none
  else inPackageAnswer tree root specifier current

/-- A faithful resolver answers as if it remembered nothing, and stays faithful. -/
theorem resolve_answers {resolver : Resolver} (faithful : resolver.Faithful tree)
    (specifier : Text) (current : Path) :
    resolver.Answers tree (answer tree resolver.root specifier current)
      (resolver.resolve tree specifier current) := by
  unfold resolve answer
  split
  · exact ofModule_answers faithful specifier current
  · split
    · exact ofPackage_answers faithful _ current
    · split
      · exact answers_self faithful _
      · split
        · exact answers_self faithful _
        · exact inPackage_answers faithful specifier current

/-- The answer without memory is that of a resolver that has been asked nothing yet. -/
theorem resolve_forgetful (tree : Tree) (root : Path) (specifier : Text) (current : Path) :
    ((forgetful root).resolve tree specifier current).1 = answer tree root specifier current :=
  (resolve_answers (forgetful_faithful root) specifier current).1

/-- The answers to several specifiers of one file, found without memory; the first fault
ends the run. -/
def answers (tree : Tree) (root current : Path) : List Text → Except ResolveFault (List Path)
  | [] => .ok []
  | specifier :: rest =>
      match answer tree root specifier current with
      | .error why => .error why
      | .ok found => (answers tree root current rest).map (found.toList ++ ·)

theorem resolveAll_answers {resolver : Resolver} (faithful : resolver.Faithful tree)
    (current : Path) (specifiers : List Text) :
    resolver.Answers tree (answers tree resolver.root current specifiers)
      (resolver.resolveAll tree current specifiers) := by
  induction specifiers generalizing resolver with
  | nil => exact answers_self faithful _
  | cons specifier rest inductionHypothesis =>
      have asked := resolve_answers faithful specifier current
      rw [answers, resolveAll, ← asked.1]
      cases outcome : resolver.resolve tree specifier current with
      | mk answer next =>
          rw [outcome] at asked
          cases answer with
          | error why => exact asked.trans rfl (answers_self asked.2.1 _)
          | ok found =>
              have sameRoot : next.root = resolver.root := asked.2.2
              have later := inductionHypothesis asked.2.1
              rw [sameRoot] at later
              dsimp only
              rw [← later.1]
              cases remaining : next.resolveAll tree current rest with
              | mk others last =>
                  rw [remaining] at later
                  obtain ⟨_, lastFaithful, lastRoot⟩ := later
                  cases others with
                  | error why => exact ⟨rfl, lastFaithful, lastRoot.trans sameRoot⟩
                  | ok others => exact ⟨rfl, lastFaithful, lastRoot.trans sameRoot⟩

end Resolver

/-- Several source files with their imports, resolved without memory. -/
def answeredSources (tree : Tree) (root : Path) : List Path → Except ResolveFault (List Source)
  | [] => .ok []
  | path :: rest =>
      match Resolver.answers tree root path (specifiersOf tree path) with
      | .error why => .error why
      | .ok found =>
          (answeredSources tree root rest).map fun others =>
            ⟨path.text, found.map Path.text⟩ :: others

/-- Resolving the imports of several files one after the other is resolving each without
memory. -/
theorem sourcesOf_eq_answeredSources {resolver : Resolver} (faithful : resolver.Faithful tree)
    (walked : List Path) :
    sourcesOf tree resolver walked = answeredSources tree resolver.root walked := by
  induction walked generalizing resolver with
  | nil => rfl
  | cons path rest inductionHypothesis =>
      have asked := Resolver.resolveAll_answers faithful path (specifiersOf tree path)
      rw [sourcesOf, answeredSources, ← asked.1]
      cases outcome : resolver.resolveAll tree path (specifiersOf tree path) with
      | mk found next =>
          rw [outcome] at asked
          cases found with
          | error why => rfl
          | ok found =>
              have sameRoot : next.root = resolver.root := asked.2.2
              have later := inductionHypothesis asked.2.1
              rw [sameRoot] at later
              dsimp only
              rw [later]

end Import
end Codemap
