import Codemap.Proofs.Files.Place
import Codemap.Proofs.Glob.Segments
import Codemap.Proofs.Search.Refusals

namespace Codemap
namespace Search

/-!
# Searching without globs

Without globs a search is meant to look into every file below its directory.  What it looks
into are the files that the glob of two stars and a star selects, and the two stars stand for
directories on one line: a file is not looked into if a directory on the way to it has a line
feed in its name.  The name of the file itself may have one.
-/

open Glob Glob.Piece Codemap.Tree

/-- No directory on the way to a file has a line feed in its name. -/
def InView (names : List Text) : Prop :=
  ∀ directory ∈ names.dropLast, '\n' ∉ directory

/-- Any directories, and then any segment, are read if no directory has a line feed. -/
theorem readsAll_everyFile_iff {names : List Text} (some : names ≠ [])
    (noSlash : ∀ name ∈ names, '/' ∉ name) :
    ReadsAll [.directories, .segmentRun] (List.intercalate ['/'] names) ↔ InView names := by
  simp only [readsAll_cons, readsAll_nil]
  constructor
  · rintro ⟨above, _, joined, first, last, _, rfl, second, rfl⟩
    rw [List.append_nil] at joined
    cases second with
    | segmentRun lastInside =>
        have alone : last.splitOn '/' = [last] := List.splitOn_eq_singleton lastInside
        cases first with
        | noDirectories =>
            have only : names = [last] := by
              rw [← List.splitOn_intercalate '/' noSlash some, joined, List.nil_append, alone]
            simp [InView, only]
        | @directories line oneLine =>
            rw [List.append_assoc, List.singleton_append] at joined
            have names_eq : names = line.splitOn '/' ++ [last] := by
              rw [split_of_intercalate noSlash some joined, alone]
            intro directory above lineFeed
            rw [names_eq, List.dropLast_concat, ← Text.fields_eq_splitOn] at above
            exact oneLine (Text.mem_of_mem_fields above lineFeed).1
  · intro inView
    have lastInside := noSlash _ (List.getLast_mem some)
    by_cases only : names.dropLast = []
    · refine ⟨[], names.getLast some, ?_, .noDirectories, names.getLast some, [], by simp,
        .segmentRun lastInside, rfl⟩
      conv_lhs => rw [← List.dropLast_append_getLast some, only]
      simp
    · refine ⟨List.intercalate ['/'] names.dropLast ++ ['/'], names.getLast some, ?_,
        .directories ?_, names.getLast some, [], by simp, .segmentRun lastInside, rfl⟩
      · conv_lhs => rw [← List.dropLast_append_getLast some]
        rw [intercalate_append_slash only (List.cons_ne_nil _ _)]
        simp
      · intro lineFeed
        rcases Text.exists_of_mem_intercalate lineFeed with slash | ⟨directory, above, inside⟩
        · exact absurd slash (by decide)
        · exact inView directory above inside

/-- The glob for every file selects the files that are in view. -/
theorem selects_everyFile_iff {names : List Text} (some : names ≠ [])
    (noSlash : ∀ name ∈ names, '/' ∉ name) :
    (Selection.ofTexts everyFile).selects (List.intercalate ['/'] names) = true ↔ InView names := by
  have cut : pieces "**/*".toList = [.directories, .segmentRun] := by decide
  rcases pattern?_matchesAll (by rw [cut]; decide) with ⟨node, usable, matchesAll⟩
  have clause : Clause.ofText "**/*".toList = .include "**/*".toList := rfl
  have cleaned : Matcher.cleaned "**/*".toList = "**/*".toList := by decide
  have matcher : Matcher.ofText? "**/*".toList = Option.some ⟨"**/*".toList, node, false⟩ := by
    rw [Matcher.ofText?, cleaned, usable]
    rfl
  have selection : Selection.ofTexts everyFile =
      { includes := [⟨"**/*".toList, node, false⟩] } := by
    rw [Selection.ofTexts, everyFile]
    simp only [List.filterMap_cons, List.filterMap_nil, clause, matcher]
  rw [← readsAll_everyFile_iff some noSlash, ← cut, ← matchesAll, selection]
  simp [Selection.selects, Matcher.accepts]

section Matching

variable {tree : Tree} {base root : Path} {patterns excluded found names : List Text}

/-- The files that are looked into without globs. -/
theorem mem_candidates_everywhere (lawful : tree.Lawful) (rooted : tree.current.isAbsolute = true)
    (base : Path) {file : Text} :
    file ∈ candidates tree (Path.resolve tree.current base) [] excluded ↔
      ∃ names, Reaches tree (Path.resolve tree.current base) excluded names ∧ InView names ∧
        file = Path.text { names := (Path.resolve tree.current base).names ++ names } := by
  have everywhere : candidates tree (Path.resolve tree.current base) [] excluded =
      byGlob tree (Path.resolve tree.current base) everyFile excluded := rfl
  rw [everywhere, mem_byGlob, resolve_resolve rooted]
  simp only [mem_relativeFiles_iff lawful (plain_resolve rooted base)]
  refine exists_congr fun names => and_congr_right fun reaches => ?_
  have noSlash : ∀ name ∈ names, '/' ∉ name := fun name member =>
    (isSegment_iff.mp (isSegment_of_isName (reaches.named lawful name member))).2.1
  rw [selects_everyFile_iff reaches.nonempty noSlash, and_comm]

/-- A file that can be reached is listed under its path. -/
theorem Reaches.lists (reaches : Reaches tree root excluded names) (lawful : tree.Lawful) :
    ∃ content changed,
      tree.Lists (Path.text { names := root.names ++ names }) (root.names ++ names) content
        changed := by
  rcases reaches.file with ⟨content, changed, there⟩
  exact ⟨content, changed, rfl, by simp [reaches.nonempty],
    (Entry.isLawful_of_at? lawful there).1, there⟩

theorem candidates_everywhere_ne_nil (lawful : tree.Lawful)
    (rooted : tree.current.isAbsolute = true) (base : Path) :
    candidates tree (Path.resolve tree.current base) [] excluded ≠ [] ↔
      ∃ names, Reaches tree (Path.resolve tree.current base) excluded names ∧ InView names := by
  constructor
  · intro nonempty
    rcases List.exists_mem_of_ne_nil _ nonempty with ⟨file, listed⟩
    rcases (mem_candidates_everywhere lawful rooted base).mp listed with ⟨names, reaches, inView, -⟩
    exact ⟨names, reaches, inView⟩
  · rintro ⟨names, reaches, inView⟩
    exact List.ne_nil_of_mem
      ((mem_candidates_everywhere lawful rooted base).mpr ⟨names, reaches, inView, rfl⟩)

theorem byContent_nil (tree : Tree) (files : List Text) : byContent tree files [] = .ok [] := by
  have nothing : contains tree (readable []) = fun _ => false := by
    funext file
    rw [contains]
    cases tree.readText (Path.ofText file) <;> rfl
  rw [byContent_eq (by simp), nothing]
  simp [Text.sortedSet, Text.sort]

/-- Without globs a search finds what it finds in the files that it looks into. -/
theorem matching_everywhere (there : checkBase tree base = .ok root) :
    matching tree base [] patterns excluded =
      byContent tree (candidates tree root [] excluded) patterns := by
  rw [matching_eq there]
  by_cases unasked : patterns.isEmpty = true
  · rw [if_pos unasked, List.isEmpty_iff.mp unasked, byContent_nil]
    simp [Except.map, Text.sortedSet, Text.sort]
  · rw [if_neg unasked]
    cases looked : byContent tree (candidates tree root [] excluded) patterns with
    | error why => rfl
    | ok found =>
        rw [(byContent_ok_iff.mp looked).2]
        apply congrArg Except.ok
        apply (Text.ascending_sortedSet _).eq_of_mem_iff (Text.ascending_sortedSet _)
        simp [Text.mem_sortedSet]

/-- The content of a file is a text that contains a match for a pattern that can be read. -/
def Matched (patterns : List Text) (content : Bytes) : Prop :=
  ∃ text, Utf8.decode content = .ok text ∧
    ∃ pattern ∈ patterns, ∃ node, Pattern.Node.ofText options pattern = .ok node ∧
      (node.search? text.unifyNewlines).isSome = true

theorem contains_iff_matched {file : Text} {content : Bytes} {changed : Int}
    (lists : tree.Lists file names content changed) :
    contains tree (readable patterns) file = true ↔ Matched patterns content := by
  rw [contains_readable_iff, lists.readText, Matched]
  cases Utf8.decode content <;> simp

end Matching

/-- A directory in which one name has a line feed. -/
def foldedTree : Tree where
  root := .directory
    [("srv".toList, .directory
      [("a\nb".toList, .directory [("c.py".toList, .file (Utf8.encode "needle\n".toList) 0)]),
        ("d\n.py".toList, .file (Utf8.encode "a\r\nneedle\n".toList) 1)])]

end Search
end Codemap
