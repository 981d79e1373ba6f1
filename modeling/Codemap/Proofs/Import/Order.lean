import Codemap.Import.Statement
import Codemap.Proofs.Pattern.Scanning
import Codemap.Proofs.Text.Order
import Mathlib.Order.Monotone.Basic

namespace Codemap
namespace Import

open Pattern Pattern.Node

/-!
# The order in which specifiers are listed

A text is scanned for import statements and calls, several times over.  What is found by the
scans for quoted paths is put into one order, that of the places where the statements begin.
For dotted names there are two passes, and what the first one finds, the statements that take
names from a module, is listed before anything that the second one finds.  So the specifiers
come in the order in which they first appear in the text if the paths are quoted, but only
pass by pass if the names are dotted.
-/

/-! ## Statements and where they begin -/

/-- The place of the first character that is no indentation. -/
def indentEnd (text : Text) (offset : Nat) : Nat :=
  offset + ((text.drop offset).takeWhile fun c => c == ' ' || c == '\t').length

/-- Indentation ends no later behind an earlier place. -/
theorem indentEnd_monotone (text : Text) : Monotone (indentEnd text) := by
  refine monotone_nat_of_le_succ fun offset => ?_
  rw [indentEnd, indentEnd, ← List.drop_drop]
  cases text.drop offset with
  | nil => simp
  | cons c rest =>
      rw [List.drop_one, List.tail_cons, List.takeWhile_cons]
      split
      · rw [List.length_cons]
        omega
      · simp only [List.length_nil]
        omega

/-- An import statement or call in a text: the pass that finds it, the place at which it
begins, and the specifiers that it yields. -/
structure Statement where
  pass : Nat
  start : Nat
  specifiers : List Text
deriving DecidableEq

/-- The statements and calls that are found in a text. -/
def statements (text : Text) : Style → List Statement
  | .quoted => (quotedForms.flatMap (foundBy text)).map fun found =>
      ⟨0, indentEnd text found.offset, [found.specifier]⟩
  | .dotted =>
      (namesImport.findAll text).map (fun found =>
        ⟨0, indentEnd text found.offset, namesSpecifiers found⟩) ++
      (modulesImport.findAll text).map fun found =>
        ⟨1, indentEnd text found.offset, modulesSpecifiers found⟩

namespace Statement

/-- A statement begins no later than another. -/
def BeginsBy (earlier later : Statement) : Prop :=
  earlier.start ≤ later.start

/-- A statement is found in an earlier pass than another, or in the same one and begins no
later. -/
def ListedBy (earlier later : Statement) : Prop :=
  earlier.pass < later.pass ∨ earlier.pass = later.pass ∧ earlier.BeginsBy later

theorem ListedBy.refl (statement : Statement) : statement.ListedBy statement :=
  Or.inr ⟨rfl, Nat.le_refl _⟩

instance : DecidableRel BeginsBy :=
  fun earlier later => inferInstanceAs (Decidable (earlier.start ≤ later.start))

end Statement

/-- In a given order, the first statement that yields a specifier comes no later than the
first one that yields another: before each of the latter there is one of the former. -/
def AppearsBy (order : Statement → Statement → Prop) (found : List Statement)
    (first second : Text) : Prop :=
  ∀ later ∈ found, second ∈ later.specifiers →
    ∃ earlier ∈ found, first ∈ earlier.specifiers ∧ order earlier later

instance (order : Statement → Statement → Prop) [DecidableRel order] (found : List Statement) :
    DecidableRel (AppearsBy order found) :=
  fun first second => inferInstanceAs (Decidable (∀ later ∈ found, second ∈ later.specifiers →
    ∃ earlier ∈ found, first ∈ earlier.specifiers ∧ order earlier later))

/-! ## The order of a scan -/

/-- What a scan finds comes in the order of its places. -/
theorem pairwise_statements {form : Node} (yields : form.Yields fun _ _ => True) (text : Text)
    (pass : Nat) (specifiersOf : Match → List Text) :
    ((form.findAll text).map fun found =>
      (⟨pass, indentEnd text found.offset, specifiersOf found⟩ : Statement)).Pairwise
        Statement.ListedBy := by
  refine List.pairwise_map.mpr ((pairwise_findAll yields text).imp fun before => ?_)
  exact Or.inr ⟨rfl, indentEnd_monotone text (Nat.le_of_lt before)⟩

theorem namesImport_yields : namesImport.Yields fun _ _ => True := by
  simp [namesImport, lineIndent, spacing, moduleName, nameStart, seq, Yields, Node.text, many,
    atLeastOne, among, noneOf, wordCharOr]

theorem modulesImport_yields : modulesImport.Yields fun _ _ => True := by
  simp [modulesImport, lineIndent, spacing, spaces, opt, fewestSome, seq, Yields, Node.text, many,
    atLeastOne, among, noneOf, wordCharOr]

/-! ## The order of a list -/

namespace Found

theorem le_total (first second : Found) : (first.le second || second.le first) = true := by
  simp only [Found.le, Bool.or_eq_true, Bool.and_eq_true, decide_eq_true_eq, beq_iff_eq]
  rcases Nat.lt_trichotomy first.offset second.offset with before | same | behind
  · exact Or.inl (Or.inl before)
  · have either := Text.le_total first.specifier second.specifier
    rcases Bool.or_eq_true_iff.mp either with lower | lower
    · exact Or.inl (Or.inr ⟨same, lower⟩)
    · exact Or.inr (Or.inr ⟨same.symm, lower⟩)
  · exact Or.inr (Or.inl behind)

theorem le_trans (first second third : Found) (lower : first.le second = true)
    (upper : second.le third = true) : first.le third = true := by
  simp only [Found.le, Bool.or_eq_true, Bool.and_eq_true, decide_eq_true_eq, beq_iff_eq]
    at lower upper ⊢
  rcases lower with before | ⟨same, lower⟩
  · omega
  · rcases upper with before | ⟨alike, upper⟩
    · omega
    · exact Or.inr ⟨same.trans alike, Text.le_trans lower upper⟩

theorem offset_le_of_le {first second : Found} (before : first.le second = true) :
    first.offset ≤ second.offset := by
  simp only [Found.le, Bool.or_eq_true, Bool.and_eq_true, decide_eq_true_eq, beq_iff_eq] at before
  omega

end Found

/-- The specifiers are those of the statements, taken pass by pass in the order in which the
statements begin, each listed once. -/
theorem exists_listing (style : Style) (text : Text) :
    ∃ listed : List Statement, listed.Perm (statements text style) ∧
      listed.Pairwise Statement.ListedBy ∧
      specifiers style text = (listed.flatMap Statement.specifiers).eraseDups := by
  cases style with
  | quoted =>
      refine ⟨_, (List.mergeSort_perm (quotedForms.flatMap (foundBy text)) Found.le).map _, ?_, ?_⟩
      · refine List.pairwise_map.mpr ?_
        refine (List.pairwise_mergeSort Found.le_trans Found.le_total _).imp fun before => ?_
        exact Or.inr ⟨rfl, indentEnd_monotone text (Found.offset_le_of_le before)⟩
      · rw [List.flatMap_map, ← List.map_eq_flatMap]
        rfl
  | dotted =>
      refine ⟨_, .refl _, ?_, ?_⟩
      · refine List.pairwise_append.mpr ⟨pairwise_statements namesImport_yields text 0 _,
          pairwise_statements modulesImport_yields text 1 _,
          fun earlier inFirst later inSecond => ?_⟩
        obtain ⟨_, -, rfl⟩ := List.mem_map.mp inFirst
        obtain ⟨_, -, rfl⟩ := List.mem_map.mp inSecond
        exact Or.inl Nat.zero_lt_one
      · rw [statements, List.flatMap_append, List.flatMap_map, List.flatMap_map]
        rfl

section Listing

variable {style : Style} {text : Text}

/-- What is listed is what the statements yield. -/
theorem mem_specifiers {specifier : Text} : specifier ∈ specifiers style text ↔
    ∃ statement ∈ statements text style, specifier ∈ statement.specifiers := by
  obtain ⟨listed, same, -, equal⟩ := exists_listing style text
  simp [equal, same.mem_iff]

theorem nodup_specifiers : (specifiers style text).Nodup := by
  obtain ⟨listed, -, -, equal⟩ := exists_listing style text
  exact equal ▸ nodup_eraseDups _

/-- Pass by pass, specifiers are listed in the order in which they first appear. -/
theorem specifiers_pairwise_listedBy :
    (specifiers style text).Pairwise (AppearsBy Statement.ListedBy (statements text style)) := by
  obtain ⟨listed, same, ordered, equal⟩ := exists_listing style text
  rw [equal]
  have first := pairwise_eraseDups_flatMap Statement.ListedBy.refl Statement.specifiers ordered
  simp only [same.mem_iff] at first
  exact first

/-- Where no statement of an earlier pass begins behind one of a later pass, specifiers are
listed in the order in which they first appear. -/
theorem specifiers_pairwise_beginsBy (aligned : ∀ earlier ∈ statements text style,
      ∀ later ∈ statements text style, earlier.pass < later.pass → earlier.BeginsBy later) :
    (specifiers style text).Pairwise (AppearsBy Statement.BeginsBy (statements text style)) := by
  refine specifiers_pairwise_listedBy.imp fun appears later member yields => ?_
  obtain ⟨earlier, inside, yielded, before | ⟨-, before⟩⟩ := appears later member yields
  · exact ⟨earlier, inside, yielded, aligned earlier inside later member before⟩
  · exact ⟨earlier, inside, yielded, before⟩

end Listing

/-- Quoted paths are found in one pass. -/
theorem pass_of_mem_statements_quoted {text : Text} {statement : Statement}
    (member : statement ∈ statements text .quoted) : statement.pass = 0 := by
  obtain ⟨_, -, rfl⟩ := List.mem_map.mp member
  rfl

/-- The specifiers of a text are those that its statements yield, each listed once.  Quoted
paths are listed in the order in which they first appear.  Dotted names are so among the
statements that take names from modules and among those that take whole modules; all names
of the former come first, and so names appear in order if no statement of the former kind
begins behind one of the latter. -/
theorem specifiers_in_order (text : Text) :
    (∀ style, (specifiers style text).Nodup ∧
      (∀ specifier, specifier ∈ specifiers style text ↔
        ∃ statement ∈ statements text style, specifier ∈ statement.specifiers) ∧
      (specifiers style text).Pairwise (AppearsBy Statement.ListedBy (statements text style))) ∧
    (specifiers .quoted text).Pairwise
      (AppearsBy Statement.BeginsBy (statements text .quoted)) ∧
    ((∀ earlier ∈ statements text .dotted, ∀ later ∈ statements text .dotted,
        earlier.pass < later.pass → earlier.BeginsBy later) →
      (specifiers .dotted text).Pairwise
        (AppearsBy Statement.BeginsBy (statements text .dotted))) := by
  refine ⟨fun style => ⟨nodup_specifiers, fun _ => mem_specifiers, specifiers_pairwise_listedBy⟩,
    specifiers_pairwise_beginsBy fun earlier first later second before => ?_,
    specifiers_pairwise_beginsBy⟩
  rw [pass_of_mem_statements_quoted first, pass_of_mem_statements_quoted second] at before
  exact absurd before (Nat.lt_irrefl 0)

/-- A text in which the names that are taken from a module come first. -/
def alignedImports : Text := "from a import b\n  import os\n".toList

theorem specifiers_in_order_aligned :
    specifiers .dotted alignedImports = ["a".toList, "a.b".toList, "os".toList] ∧
      (specifiers .dotted alignedImports).Pairwise
        (AppearsBy Statement.BeginsBy (statements alignedImports .dotted)) := by
  have found : statements alignedImports .dotted =
      [⟨0, 0, ["a".toList, "a.b".toList]⟩, ⟨1, 18, ["os".toList]⟩] := by decide +kernel
  refine ⟨by decide +kernel, (specifiers_in_order alignedImports).2.2 ?_⟩
  rw [found]
  decide

/-- A text in which a module is imported as a whole first. -/
def misalignedImports : Text := "import os\nfrom a import b\n".toList

/-- A module that is imported as a whole is listed behind names that appear after it. -/
theorem specifiers_out_of_order :
    specifiers .dotted misalignedImports = ["a".toList, "a.b".toList, "os".toList] ∧
      ¬ (specifiers .dotted misalignedImports).Pairwise
        (AppearsBy Statement.BeginsBy (statements misalignedImports .dotted)) := by
  have listed : specifiers .dotted misalignedImports =
      ["a".toList, "a.b".toList, "os".toList] := by decide +kernel
  have found : statements misalignedImports .dotted =
      [⟨0, 10, ["a".toList, "a.b".toList]⟩, ⟨1, 0, ["os".toList]⟩] := by decide +kernel
  rw [listed, found]
  exact ⟨rfl, by decide⟩

end Import
end Codemap
