import Codemap.Proofs.Pattern.Faults
import Codemap.Proofs.Search.Matching

namespace Codemap
namespace Search

/-!
# Patterns that are refused

A malformed pattern does not spoil a search: it is left out, and the others find what they
find without it.  A pattern that is refused for another reason is not left out.  It ends the
search if there is a file to look into, and the first such pattern decides how.

There are few such patterns: those in which a count has ten digits or more, those with so many
parentheses that the calls for nested groups may not fit, and those that ask for the letters of
one script and for those of all.
-/

open Pattern

variable {tree : Tree} {files patterns : List Text}

/-- A pattern that can be read. -/
def isReadable (text : Text) : Bool :=
  (Node.ofText options text).toOption.isSome

theorem isReadable_iff {text : Text} :
    isReadable text = true ↔ ∃ node, Node.ofText options text = .ok node := by
  rw [isReadable]
  cases Node.ofText options text <;> simp [Except.toOption]

theorem Tolerated.of_isReadable {text : Text} (can : isReadable text = true) : Tolerated text := by
  rcases isReadable_iff.mp can with ⟨node, read⟩
  intro why unread
  rw [read] at unread
  cases unread

theorem mem_readable {node : Node} :
    node ∈ readable patterns ↔ ∃ text ∈ patterns, Node.ofText options text = .ok node := by
  rw [readable, List.mem_filterMap]
  refine exists_congr fun text => and_congr_right fun _ => ?_
  cases Node.ofText options text <;> simp [Except.toOption]

/-- Patterns that cannot be read are not among those that are used. -/
theorem readable_filter (patterns : List Text) :
    readable (patterns.filter isReadable) = readable patterns := by
  rw [readable, List.filterMap_filter]
  apply List.filterMap_congr
  intro text _
  rw [isReadable]
  cases Node.ofText options text <;> rfl

/-- A file is a text that contains a match for a pattern that can be read. -/
theorem contains_readable_iff {file : Text} :
    contains tree (readable patterns) file = true ↔
      ∃ content, tree.readText (Path.ofText file) = .ok content ∧
        ∃ text ∈ patterns, ∃ node, Node.ofText options text = .ok node ∧
          (node.search? content).isSome = true := by
  rw [contains]
  cases tree.readText (Path.ofText file) with
  | error why => simp
  | ok content =>
      simp only [List.any_eq_true, mem_readable, Except.ok.injEq, exists_eq_left']
      constructor
      · rintro ⟨node, ⟨text, listed, read⟩, found⟩
        exact ⟨text, listed, node, read, found⟩
      · rintro ⟨text, listed, node, read, found⟩
        exact ⟨node, ⟨text, listed, read⟩, found⟩

/-- A search in files ends with a fault exactly if there is a file, and the patterns are
refused with this fault. -/
theorem byContent_error_iff {why : Fault} :
    byContent tree files patterns = .error why ↔ files ≠ [] ∧ Refuses patterns why := by
  rw [byContent]
  split
  · next none => simp [List.isEmpty_iff.mp none]
  · next some => rw [map_eq_error_iff, readPatterns_error_iff, and_iff_right (by simpa using some)]

/-- When a search in files succeeds, and what it finds then. -/
theorem byContent_ok_iff {found : List Text} :
    byContent tree files patterns = .ok found ↔
      (files = [] ∨ ∀ text ∈ patterns, Tolerated text) ∧
        found = Text.sortedSet (files.filter (contains tree (readable patterns))) := by
  by_cases tolerated : ∀ text ∈ patterns, Tolerated text
  · rw [byContent_eq tolerated, Except.ok.injEq, eq_comm, and_iff_right (Or.inr tolerated)]
  · by_cases none : files = []
    · simp [none, byContent, Text.sortedSet, Text.sort, eq_comm]
    · push Not at tolerated
      rcases tolerated with ⟨text, listed, refused⟩
      rcases exists_refuses listed refused with ⟨why, refuses⟩
      rw [byContent_error_iff.mpr ⟨none, refuses⟩]
      constructor
      · intro impossible
        cases impossible
      · rintro ⟨nothing | tolerated, -⟩
        · exact absurd nothing none
        · exact absurd (tolerated text listed) refused

/-- A pattern that is refused though it is not malformed has a count of at least ten digits, very
many parentheses, or options for the letters of one script and for those of all. -/
theorem written_of_not_tolerated {text : Text} (refused : ¬ Tolerated text) :
    HasLongCount text ∨ HasDeepNesting text ∨
      ∃ ascii full, HasOptions text ascii ∧ HasOptions text full ∧ 'a' ∈ ascii ∧ 'u' ∈ full := by
  rcases not_tolerated_iff.mp refused with ⟨fault, unread, notMalformed⟩
  exact written_of_refused unread notMalformed

/-- A tree with one short text. -/
def shortTree : Tree where
  root := .directory [("a.txt".toList, .file (Utf8.encode "aa\n".toList) 0)]

end Search
end Codemap
