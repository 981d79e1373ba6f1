import Codemap.Glob.Selection
import Codemap.Proofs.Files.Path
import Codemap.Proofs.Glob.Pieces
import Codemap.Proofs.Text.Words

namespace Codemap
namespace Glob

/-!
# Globs matched segment by segment

A glob of literal characters, stars, question marks and slashes has a meaning that knows
nothing of patterns: its segments match the segments of a path one after another.  Two
stars that are a whole segment take any number of segments, and at the end of the glob
at least one; any other segment takes exactly one segment of the path.

This module proves that the pattern of such a glob means the same.  The pieces of a glob
are cut from left to right and know only the character before them, so the proof follows
the segments of the glob: within a segment the pieces read a run without a slash, and two
stars that are a whole segment are one piece.
-/

/-- A segment of a glob matches a segment of a path: a star stands for any run of
characters, a question mark for one character, any other character for itself. -/
inductive SegmentMatch : Text → Text → Prop
  | done : SegmentMatch [] []
  | star {glob segment : Text} (run : Text) (rest : SegmentMatch glob segment) :
      SegmentMatch ('*' :: glob) (run ++ segment)
  | one {glob segment : Text} (c : Char) (rest : SegmentMatch glob segment) :
      SegmentMatch ('?' :: glob) (c :: segment)
  | same {glob segment : Text} {c : Char} (noStar : c ≠ '*') (noMark : c ≠ '?')
      (rest : SegmentMatch glob segment) : SegmentMatch (c :: glob) (c :: segment)

/-- The segment that stands for any number of segments. -/
def anySegments : Text := ['*', '*']

/-- The segments of a glob match the segments of a path. -/
inductive PathMatch : List Text → List Text → Prop
  | done : PathMatch [] []
  | one {glob segment : Text} {globs path : List Text} (plain : glob ≠ anySegments)
      (first : SegmentMatch glob segment) (rest : PathMatch globs path) :
      PathMatch (glob :: globs) (segment :: path)
  | skip {globs path : List Text} (notLast : globs ≠ []) (skipped : List Text)
      (rest : PathMatch globs path) : PathMatch (anySegments :: globs) (skipped ++ path)
  | all {path : List Text} (some : path ≠ []) : PathMatch [anySegments] path

namespace SegmentMatch

theorem nil_iff {segment : Text} : SegmentMatch [] segment ↔ segment = [] :=
  ⟨fun | .done => rfl, fun nothing => nothing ▸ .done⟩

theorem star_iff {glob segment : Text} :
    SegmentMatch ('*' :: glob) segment ↔
      ∃ run rest, segment = run ++ rest ∧ SegmentMatch glob rest := by
  constructor
  · rintro (_ | ⟨run, rest⟩ | _ | ⟨noStar, _, _⟩)
    · exact ⟨run, _, rfl, rest⟩
    · exact absurd rfl noStar
  · rintro ⟨run, rest, rfl, matched⟩
    exact .star run matched

/-- Several stars stand for what one of them stands for. -/
theorem star_star_iff {glob segment : Text} :
    SegmentMatch ('*' :: '*' :: glob) segment ↔ SegmentMatch ('*' :: glob) segment := by
  constructor
  · intro matched
    obtain ⟨run, _, rfl, later⟩ := star_iff.mp matched
    obtain ⟨more, rest, rfl, last⟩ := star_iff.mp later
    rw [← List.append_assoc]
    exact .star (run ++ more) last
  · intro matched
    exact .star [] matched

theorem mark_iff {glob segment : Text} :
    SegmentMatch ('?' :: glob) segment ↔ ∃ c rest, segment = c :: rest ∧ SegmentMatch glob rest := by
  constructor
  · rintro (_ | _ | ⟨c, rest⟩ | ⟨_, noMark, _⟩)
    · exact ⟨c, _, rfl, rest⟩
    · exact absurd rfl noMark
  · rintro ⟨c, rest, rfl, matched⟩
    exact .one c matched

theorem same_iff {c : Char} {glob segment : Text} (noStar : c ≠ '*') (noMark : c ≠ '?') :
    SegmentMatch (c :: glob) segment ↔ ∃ rest, segment = c :: rest ∧ SegmentMatch glob rest := by
  constructor
  · rintro (_ | _ | _ | ⟨_, _, rest⟩)
    · exact absurd rfl noStar
    · exact absurd rfl noMark
    · exact ⟨_, rfl, rest⟩
  · rintro ⟨rest, rfl, matched⟩
    exact .same noStar noMark matched

end SegmentMatch

namespace PathMatch

/-- A path without segments is matched only by no segments. -/
theorem eq_nil {globs path : List Text} (matched : PathMatch globs path) (nothing : path = []) :
    globs = [] := by
  induction matched with
  | done => rfl
  | one => cases nothing
  | skip notLast skipped _ inductionHypothesis =>
      exact absurd (inductionHypothesis (List.append_eq_nil_iff.mp nothing).2) notLast
  | all some => exact absurd nothing some

theorem one_iff {glob : Text} {globs path : List Text} (plain : glob ≠ anySegments) :
    PathMatch (glob :: globs) path ↔
      ∃ segment rest, path = segment :: rest ∧ SegmentMatch glob segment ∧ PathMatch globs rest := by
  constructor
  · rintro (_ | ⟨_, first, rest⟩ | _ | _)
    · exact ⟨_, _, rfl, first, rest⟩
    · exact absurd rfl plain
    · exact absurd rfl plain
  · rintro ⟨segment, rest, rfl, first, later⟩
    exact .one plain first later

theorem skip_iff {globs path : List Text} (notLast : globs ≠ []) :
    PathMatch (anySegments :: globs) path ↔
      ∃ skipped rest, path = skipped ++ rest ∧ PathMatch globs rest := by
  constructor
  · rintro (_ | ⟨plain, _, _⟩ | ⟨_, skipped, rest⟩ | _)
    · exact absurd rfl plain
    · exact ⟨skipped, _, rfl, rest⟩
    · exact absurd rfl notLast
  · rintro ⟨skipped, rest, rfl, matched⟩
    exact .skip notLast skipped matched

end PathMatch

/-! ## Cutting a plain glob -/

/-- A character that is not read specially except for stars, question marks and slashes. -/
def IsPlainChar (c : Char) : Prop :=
  c ≠ '[' ∧ c ≠ '\x7b' ∧ c ≠ '\\'

instance : DecidablePred IsPlainChar := fun c =>
  inferInstanceAs (Decidable (c ≠ '[' ∧ c ≠ '\x7b' ∧ c ≠ '\\'))

section Cutting

variable {depth : Nat} {before : Option Char}

theorem piecesFrom_literal {c : Char} (plain : IsPlainChar c) (noStar : c ≠ '*') (noMark : c ≠ '?')
    (rest : Text) :
    piecesFrom 0 before 0 (c :: rest) = .literal c :: piecesFrom 0 (some c) 0 rest := by
  obtain ⟨noBracket, noBrace, noBackslash⟩ := plain
  simp [piecesFrom, noStar, noMark, noBracket, noBrace, noBackslash]

theorem piecesFrom_mark (rest : Text) :
    piecesFrom depth before 0 ('?' :: rest) = .segmentChar :: piecesFrom depth (some '?') 0 rest := by
  simp [piecesFrom]

theorem piecesFrom_escaped (c : Char) (rest : Text) :
    piecesFrom depth before 0 ('\\' :: c :: rest) =
      .literal c :: piecesFrom depth (some c) 0 rest := by
  simp [piecesFrom]

/-- A star that no other follows stays within its segment. -/
theorem piecesFrom_star {rest : Text} (single : rest.head? ≠ some '*') :
    piecesFrom depth before 0 ('*' :: rest) = .segmentRun :: piecesFrom depth (some '*') 0 rest := by
  simp [piecesFrom, single]

/-- Two stars that are not a whole segment stay within their segment. -/
theorem piecesFrom_stars {rest : Text}
    (inside : before.all (· == '/') = false ∨ rest ≠ [] ∧ rest.head? ≠ some '/') :
    piecesFrom depth before 0 ('*' :: '*' :: rest) =
      .segmentRun :: piecesFrom depth (some '*') 0 rest := by
  rcases inside with within | ⟨nonempty, noSlash⟩
  · simp [piecesFrom, within]
  · simp [piecesFrom, nonempty, noSlash]

theorem piecesFrom_directories (atStart : before.all (· == '/') = true) (rest : Text) :
    piecesFrom depth before 0 ('*' :: '*' :: '/' :: rest) =
      .directories :: piecesFrom depth (some '/') 0 rest := by
  simp [piecesFrom, atStart]

theorem piecesFrom_everything (atStart : before.all (· == '/') = true) :
    piecesFrom depth before 0 ['*', '*'] = [.everything] := by
  simp [piecesFrom, atStart]

end Cutting

/-- The pieces of a plain glob have patterns of their own. -/
theorem isSome_node_of_plain {before : Option Char} {skip : Nat} {glob : Text}
    (plain : ∀ c ∈ glob, IsPlainChar c) :
    ∀ piece ∈ piecesFrom 0 before skip glob, piece.node?.isSome = true := by
  induction glob generalizing before skip with
  | nil => simp [piecesFrom]
  | cons c rest inductionHypothesis =>
      obtain ⟨⟨noBracket, noBrace, noBackslash⟩, later⟩ := List.forall_mem_cons.mp plain
      have others {before skip} := @inductionHypothesis before skip later
      rw [piecesFrom]
      simp only [noBracket, noBrace, noBackslash, false_and, and_false, if_false, ne_eq,
        not_true_eq_false]
      repeat' split
      all_goals first
        | exact others
        | exact List.forall_mem_cons.mpr ⟨rfl, others⟩

/-! ## Reading within a segment -/

open Piece

/-- What follows a segment of a glob: nothing, or a slash. -/
def IsSegmentEnd (tail : Text) : Prop :=
  tail = [] ∨ ∃ more, tail = '/' :: more

/-- After a segment, the character before it is of no account. -/
theorem piecesFrom_segmentEnd {tail : Text} (ends : IsSegmentEnd tail) (before : Option Char) :
    piecesFrom 0 before 0 tail = piecesFrom 0 none 0 tail := by
  rcases ends with rfl | ⟨more, rfl⟩
  · rfl
  · have slash : IsPlainChar '/' := by decide
    rw [piecesFrom_literal slash (by decide) (by decide),
      piecesFrom_literal slash (by decide) (by decide)]

/-- A star after a piece of a segment belongs to the segment. -/
theorem IsSegmentEnd.head_of_append {tail glob : Text} (ends : IsSegmentEnd tail)
    (star : (glob ++ tail).head? = some '*') : ∃ more, glob = '*' :: more := by
  cases glob with
  | nil =>
      rcases ends with rfl | ⟨more, rfl⟩
      · cases star
      · simp at star
  | cons c more =>
      rw [List.cons_append, List.head?_cons, Option.some.injEq] at star
      exact ⟨more, by rw [star]⟩

/-- Two stars with more of their segment behind them are not a whole segment. -/
theorem append_not_segmentEnd {more : Text} (noSlash : '/' ∉ more)
    (longer : '*' :: '*' :: more ≠ anySegments) (tail : Text) :
    more ++ tail ≠ [] ∧ (more ++ tail).head? ≠ some '/' := by
  cases more with
  | nil => exact absurd rfl longer
  | cons c rest =>
      rw [List.mem_cons, not_or] at noSlash
      exact ⟨by simp, by simpa using Ne.symm noSlash.1⟩

/-- A text begins with a run without a slash that a segment of a glob matches, and the
rest of the text has a property. -/
def BeginsWith (glob : Text) (after : Text → Prop) (text : Text) : Prop :=
  ∃ segment rest, text = segment ++ rest ∧ '/' ∉ segment ∧ SegmentMatch glob segment ∧ after rest

section Reading

variable {glob : Text} {after : Text → Prop} {pieces : List Piece}

theorem readsAll_run (later : ∀ text, ReadsAll pieces text ↔ BeginsWith glob after text)
    (text : Text) :
    ReadsAll (.segmentRun :: pieces) text ↔ BeginsWith ('*' :: glob) after text := by
  rw [readsAll_cons]
  constructor
  · rintro ⟨run, _, rfl, noSlash, reads⟩
    cases noSlash with
    | segmentRun noSlash =>
        obtain ⟨segment, rest, rfl, inside, matched, holds⟩ := (later _).mp reads
        exact ⟨run ++ segment, rest, by simp, by simp [noSlash, inside], .star run matched, holds⟩
  · rintro ⟨_, rest, rfl, inside, matched, holds⟩
    obtain ⟨run, segment, rfl, below⟩ := SegmentMatch.star_iff.mp matched
    rw [List.mem_append, not_or] at inside
    exact ⟨run, segment ++ rest, by simp, .segmentRun inside.1,
      (later _).mpr ⟨segment, rest, rfl, inside.2, below, holds⟩⟩

theorem readsAll_mark (later : ∀ text, ReadsAll pieces text ↔ BeginsWith glob after text)
    (text : Text) :
    ReadsAll (.segmentChar :: pieces) text ↔ BeginsWith ('?' :: glob) after text := by
  rw [readsAll_cons]
  constructor
  · rintro ⟨_, _, rfl, noSlash, reads⟩
    cases noSlash with
    | segmentChar noSlash =>
        obtain ⟨segment, rest, rfl, inside, matched, holds⟩ := (later _).mp reads
        exact ⟨_ :: segment, rest, rfl, by simp [noSlash.symm, inside], .one _ matched, holds⟩
  · rintro ⟨_, rest, rfl, inside, matched, holds⟩
    obtain ⟨c, segment, rfl, below⟩ := SegmentMatch.mark_iff.mp matched
    rw [List.mem_cons, not_or] at inside
    exact ⟨[c], segment ++ rest, rfl, .segmentChar (Ne.symm inside.1),
      (later _).mpr ⟨segment, rest, rfl, inside.2, below, holds⟩⟩

theorem readsAll_same {c : Char} (noSlash : c ≠ '/') (noStar : c ≠ '*') (noMark : c ≠ '?')
    (later : ∀ text, ReadsAll pieces text ↔ BeginsWith glob after text) (text : Text) :
    ReadsAll (.literal c :: pieces) text ↔ BeginsWith (c :: glob) after text := by
  rw [readsAll_cons]
  constructor
  · rintro ⟨_, _, rfl, ⟨⟩, reads⟩
    obtain ⟨segment, rest, rfl, inside, matched, holds⟩ := (later _).mp reads
    exact ⟨c :: segment, rest, rfl, by simp [noSlash.symm, inside], .same noStar noMark matched,
      holds⟩
  · rintro ⟨_, rest, rfl, inside, matched, holds⟩
    obtain ⟨segment, rfl, below⟩ := (SegmentMatch.same_iff noStar noMark).mp matched
    rw [List.mem_cons, not_or] at inside
    exact ⟨[c], segment ++ rest, rfl, .literal c,
      (later _).mpr ⟨segment, rest, rfl, inside.2, below, holds⟩⟩

/-- Two stars read what one star reads. -/
theorem beginsWith_star_star {text : Text} :
    BeginsWith ('*' :: '*' :: glob) after text ↔ BeginsWith ('*' :: glob) after text := by
  simp only [BeginsWith, SegmentMatch.star_star_iff]

end Reading

/-- A segment that is not two stars reads a run without a slash. -/
theorem readsAll_segment {tail : Text} (ends : IsSegmentEnd tail) (glob : Text)
    (before : Option Char) (plain : ∀ c ∈ glob, IsPlainChar c) (noSlash : '/' ∉ glob)
    (inside : before.all (· == '/') = false ∨ glob ≠ anySegments) (text : Text) :
    ReadsAll (piecesFrom 0 before 0 (glob ++ tail)) text ↔
      BeginsWith glob (ReadsAll (piecesFrom 0 none 0 tail)) text := by
  match glob with
  | [] =>
      rw [List.nil_append, piecesFrom_segmentEnd ends]
      constructor
      · intro reads
        exact ⟨[], text, rfl, List.not_mem_nil, .done, reads⟩
      · rintro ⟨segment, rest, rfl, _, matched, reads⟩
        rwa [SegmentMatch.nil_iff.mp matched]
  | c :: glob =>
      obtain ⟨plainHere, plainLater⟩ := List.forall_mem_cons.mp plain
      rw [List.mem_cons, not_or] at noSlash
      have later := readsAll_segment ends glob (some c) plainLater noSlash.2
      rw [List.cons_append]
      by_cases star : c = '*'
      · subst star
        by_cases double : (glob ++ tail).head? = some '*'
        · obtain ⟨more, rfl⟩ := ends.head_of_append double
          obtain ⟨-, plainMore⟩ := List.forall_mem_cons.mp plainLater
          have noSlashMore : '/' ∉ more := fun slash => noSlash.2 (List.mem_cons_of_mem _ slash)
          rw [List.cons_append, piecesFrom_stars (inside.imp_right (append_not_segmentEnd noSlashMore · tail)),
            beginsWith_star_star]
          exact readsAll_run
            (readsAll_segment ends more (some '*') plainMore noSlashMore (Or.inl rfl)) text
        · rw [piecesFrom_star double]
          exact readsAll_run (later (Or.inl rfl)) text
      · have within : (some c).all (· == '/') = false := by simpa using Ne.symm noSlash.1
        by_cases mark : c = '?'
        · subst mark
          rw [piecesFrom_mark]
          exact readsAll_mark (later (Or.inl within)) text
        · rw [piecesFrom_literal plainHere star mark]
          exact readsAll_same (Ne.symm noSlash.1) star mark (later (Or.inl within)) text
  termination_by glob.length

/-! ## Paths as texts -/

section Joined

variable {path : List Text}

/-- Joining two parts of a path joins their texts with a slash. -/
theorem intercalate_append_slash {front back : List Text} (frontSome : front ≠ [])
    (backSome : back ≠ []) :
    List.intercalate ['/'] (front ++ back) =
      List.intercalate ['/'] front ++ '/' :: List.intercalate ['/'] back := by
  induction front with
  | nil => exact absurd rfl frontSome
  | cons first rest inductionHypothesis =>
      cases rest with
      | nil =>
          rw [List.singleton_append, List.intercalate_cons_of_ne_nil backSome,
            List.intercalate_singleton, List.append_assoc, List.singleton_append]
      | cons second others =>
          rw [List.cons_append, List.intercalate_cons_of_ne_nil (by simp),
            inductionHypothesis (by simp), List.intercalate_cons_cons]
          simp

/-- A slash in the text of a path stands between two parts of the path. -/
theorem split_of_intercalate (noSlash : ∀ segment ∈ path, '/' ∉ segment) (some : path ≠ [])
    {left right : Text} (joined : List.intercalate ['/'] path = left ++ '/' :: right) :
    path = left.splitOn '/' ++ right.splitOn '/' := by
  rw [← List.splitOn_append_cons_self, ← joined, List.splitOn_intercalate '/' noSlash some]

/-- The text after the last slash is the last segment. -/
theorem baseName_intercalate (noSlash : ∀ segment ∈ path, '/' ∉ segment) (some : path ≠ []) :
    baseName (List.intercalate ['/'] path) = path.getLast some := by
  have kept : ∀ c ∈ (path.getLast some).reverse, (c != '/') = true := by
    intro c member
    rw [bne_iff_ne]
    rintro rfl
    exact noSlash _ (List.getLast_mem some) (List.mem_reverse.mp member)
  rw [baseName]
  conv_lhs => rw [← List.dropLast_append_getLast some]
  by_cases only : path.dropLast = []
  · rw [only, List.nil_append, List.intercalate_singleton,
      ← List.append_nil (path.getLast some).reverse, List.takeWhile_append_of_pos kept]
    simp
  · rw [intercalate_append_slash only (List.cons_ne_nil _ _), List.intercalate_singleton,
      List.reverse_append, List.reverse_cons, List.append_assoc,
      List.takeWhile_append_of_pos kept]
    simp

end Joined

/-! ## Matching segment by segment -/

section Matching

variable {globs path : List Text} {before : Option Char}

/-- The segments of a path contain neither slashes nor line feeds. -/
def Legible (path : List Text) : Prop :=
  ∀ segment ∈ path, '/' ∉ segment ∧ '\n' ∉ segment

/-- The pieces of the segments of a glob, read behind a slash, match segment by segment. -/
def MatchesBelow (globs : List Text) : Prop :=
  ∀ path : List Text, path ≠ [] → Legible path →
    (ReadsAll (piecesFrom 0 (some '/') 0 (List.intercalate ['/'] globs))
      (List.intercalate ['/'] path) ↔ PathMatch globs path)

theorem noLineFeed_of_legible (legible : Legible path) :
    '\n' ∉ List.intercalate ['/'] path := by
  intro member
  rcases Text.exists_of_mem_intercalate member with slash | ⟨segment, listed, inside⟩
  · exact absurd slash (by decide)
  · exact (legible segment listed).2 inside

/-- Two stars as the last segment read every path. -/
theorem readsAll_anySegments (atStart : before.all (· == '/') = true) (some : path ≠ [])
    (legible : Legible path) :
    ReadsAll (piecesFrom 0 before 0 (List.intercalate ['/'] [anySegments]))
        (List.intercalate ['/'] path) ↔ PathMatch [anySegments] path := by
  rw [List.intercalate_singleton, anySegments, piecesFrom_everything atStart]
  refine iff_of_true ?_ (.all some)
  rw [← List.append_nil (List.intercalate ['/'] path)]
  exact .cons (.everything (noLineFeed_of_legible legible)) .nil

/-- Two stars before other segments skip any number of segments. -/
theorem readsAll_skip (atStart : before.all (· == '/') = true) (some : path ≠ [])
    (legible : Legible path) (notLast : globs ≠ []) (below : MatchesBelow globs) :
    ReadsAll (piecesFrom 0 before 0 (List.intercalate ['/'] (anySegments :: globs)))
        (List.intercalate ['/'] path) ↔ PathMatch (anySegments :: globs) path := by
  have noSlash : ∀ segment ∈ path, '/' ∉ segment := fun segment member =>
    (legible segment member).1
  have joined : List.intercalate ['/'] (anySegments :: globs) =
      '*' :: '*' :: '/' :: List.intercalate ['/'] globs := by
    rw [List.intercalate_cons_of_ne_nil notLast]
    rfl
  rw [joined, piecesFrom_directories atStart, readsAll_cons, PathMatch.skip_iff notLast]
  constructor
  · rintro ⟨_, right, whole, skips, reads⟩
    cases skips with
    | noDirectories =>
        rw [List.nil_append] at whole
        rw [← whole] at reads
        exact ⟨[], path, rfl, (below path some legible).mp reads⟩
    | @directories left oneLine =>
        rw [List.append_assoc, List.singleton_append] at whole
        have parts := split_of_intercalate noSlash some whole
        refine ⟨_, _, parts, (below _ (List.splitOn_ne_nil '/' right) ?_).mp ?_⟩
        · exact fun segment member => legible segment (parts ▸ List.mem_append_right _ member)
        · rwa [List.intercalate_splitOn]
  · rintro ⟨skipped, rest, rfl, matched⟩
    have restSome : rest ≠ [] := fun nothing => notLast (matched.eq_nil nothing)
    have reads := (below rest restSome fun segment member =>
      legible segment (List.mem_append_right _ member)).mpr matched
    by_cases none : skipped = []
    · subst none
      exact ⟨[], _, rfl, .noDirectories, reads⟩
    · refine ⟨List.intercalate ['/'] skipped ++ ['/'], _, ?_, .directories ?_, reads⟩
      · rw [intercalate_append_slash none restSome, List.append_assoc, List.singleton_append]
      · exact noLineFeed_of_legible fun segment member =>
          legible segment (List.mem_append_left _ member)

/-- Any other segment reads one segment of the path. -/
theorem readsAll_one {glob : Text} (plain : ∀ c ∈ glob, IsPlainChar c) (noSlash : '/' ∉ glob)
    (other : glob ≠ anySegments) (some : path ≠ []) (legible : Legible path)
    (below : globs ≠ [] → MatchesBelow globs) :
    ReadsAll (piecesFrom 0 before 0 (List.intercalate ['/'] (glob :: globs)))
        (List.intercalate ['/'] path) ↔ PathMatch (glob :: globs) path := by
  have apart : ∀ segment ∈ path, '/' ∉ segment := fun segment member => (legible segment member).1
  rw [PathMatch.one_iff other]
  by_cases last : globs = []
  · subst last
    have cut := @readsAll_segment [] (Or.inl rfl) glob before plain noSlash (Or.inr other)
      (List.intercalate ['/'] path)
    rw [List.append_nil] at cut
    rw [List.intercalate_singleton, cut]
    constructor
    · rintro ⟨segment, _, whole, inside, matched, ⟨⟩⟩
      rw [List.append_nil] at whole
      refine ⟨segment, [], ?_, matched, .done⟩
      rw [← List.splitOn_intercalate '/' apart some, whole, List.splitOn_eq_singleton inside]
    · rintro ⟨segment, _, rfl, matched, ⟨⟩⟩
      exact ⟨segment, [], by simp, apart segment (List.mem_singleton_self segment), matched, .nil⟩
  · have joined : List.intercalate ['/'] (glob :: globs) =
        glob ++ '/' :: List.intercalate ['/'] globs := by
      rw [List.intercalate_cons_of_ne_nil last, List.append_assoc, List.singleton_append]
    have slash : IsPlainChar '/' := by decide
    rw [joined, readsAll_segment (Or.inr ⟨_, rfl⟩) glob before plain noSlash (Or.inr other),
      piecesFrom_literal slash (by decide) (by decide)]
    constructor
    · rintro ⟨segment, _, whole, inside, matched, reads⟩
      obtain ⟨_, right, rfl, ⟨⟩, reads⟩ := readsAll_cons.mp reads
      have parts := split_of_intercalate apart some whole
      rw [List.splitOn_eq_singleton inside, List.singleton_append] at parts
      refine ⟨segment, _, parts, matched, (below last _ (List.splitOn_ne_nil '/' right) ?_).mp ?_⟩
      · exact fun other member => legible other (parts ▸ List.mem_cons_of_mem _ member)
      · rwa [List.intercalate_splitOn]
    · rintro ⟨segment, rest, rfl, matched, others⟩
      have restSome : rest ≠ [] := fun nothing => last (others.eq_nil nothing)
      refine ⟨segment, '/' :: List.intercalate ['/'] rest, ?_,
        apart segment List.mem_cons_self, matched, readsAll_cons.mpr ⟨['/'], _, rfl, .literal '/', ?_⟩⟩
      · rw [List.intercalate_cons_of_ne_nil restSome, List.append_assoc, List.singleton_append]
      · exact (below last rest restSome fun other member =>
          legible other (List.mem_cons_of_mem _ member)).mpr others

/-- The pieces of a plain glob read the path texts that the glob matches segment by
segment.  The induction is on the segments of the glob; the character in front of them
matters only because they begin a segment. -/
theorem readsAll_iff_pathMatch (globsSome : globs ≠ [])
    (plain : ∀ glob ∈ globs, (∀ c ∈ glob, IsPlainChar c) ∧ '/' ∉ glob)
    (atStart : before.all (· == '/') = true) (some : path ≠ []) (legible : Legible path) :
    ReadsAll (piecesFrom 0 before 0 (List.intercalate ['/'] globs)) (List.intercalate ['/'] path) ↔
      PathMatch globs path := by
  induction globs generalizing before path with
  | nil => exact absurd rfl globsSome
  | cons glob globs inductionHypothesis =>
      obtain ⟨⟨plainHere, noSlash⟩, plainLater⟩ := List.forall_mem_cons.mp plain
      have below : globs ≠ [] → MatchesBelow globs := fun globsSome path some legible =>
        inductionHypothesis globsSome plainLater rfl some legible
      by_cases other : glob = anySegments
      · subst other
        by_cases last : globs = []
        · subst last
          exact readsAll_anySegments atStart some legible
        · exact readsAll_skip atStart some legible last (below last)
      · exact readsAll_one plainHere noSlash other some legible below

end Matching

/-- The glob itself is made usable: nothing of it is trimmed. -/
theorem cleaned_eq {glob : Text} (trimmed : glob.trim = glob) (outside : ¬ ['.', '/'] <+: glob) :
    Matcher.cleaned glob = glob := by
  rw [Matcher.cleaned, trimmed]
  simp only [List.isPrefixOf_iff_prefix, outside, if_false]

/-- A glob of literal characters, stars, question marks and slashes selects exactly the
paths whose segments its own segments match; without a slash it also selects the paths
whose last segment it matches. -/
theorem accepts_iff_pathMatch {glob : Text} (nonempty : glob ≠ [])
    (plain : ∀ c ∈ glob, IsPlainChar c) (trimmed : glob.trim = glob)
    (outside : ¬ ['.', '/'] <+: glob) :
    ∃ matcher, Matcher.ofText? glob = some matcher ∧
      ∀ (path : List Text) (some : path ≠ []), Legible path →
        (matcher.accepts (List.intercalate ['/'] path) = true ↔
          PathMatch (glob.fields '/') path ∨
            '/' ∉ glob ∧ PathMatch [glob] [path.getLast some]) := by
  obtain ⟨node, usable, matchesAll⟩ := pattern?_matchesAll (isSome_node_of_plain plain)
  refine ⟨⟨glob, node, !glob.contains '/'⟩, ?_, ?_⟩
  · simp [Matcher.ofText?, cleaned_eq trimmed outside, nonempty, usable]
  intro path some legible
  have joined : List.intercalate ['/'] (glob.fields '/') = glob := by
    rw [Text.fields_eq_splitOn, List.intercalate_splitOn]
  have fieldsPlain : ∀ field ∈ glob.fields '/', (∀ c ∈ field, IsPlainChar c) ∧ '/' ∉ field := by
    intro field listed
    exact ⟨fun c member => plain c (Text.mem_of_mem_fields listed member).1,
      fun slash => (Text.mem_of_mem_fields listed slash).2 rfl⟩
  have whole : node.matchesAll (List.intercalate ['/'] path) = true ↔
      PathMatch (glob.fields '/') path := by
    rw [matchesAll, pieces]
    conv_lhs => rw [← joined]
    exact readsAll_iff_pathMatch (Text.fields_eq_splitOn '/' glob ▸ List.splitOn_ne_nil '/' glob)
      fieldsPlain rfl some legible
  have base (noSlash : '/' ∉ glob) :
      node.matchesAll (baseName (List.intercalate ['/'] path)) = true ↔
        PathMatch [glob] [path.getLast some] := by
    rw [matchesAll, pieces, baseName_intercalate (fun segment member => (legible segment member).1)]
    have single := @readsAll_iff_pathMatch [glob] [path.getLast some] none (by simp)
      (by simpa using ⟨plain, noSlash⟩) rfl (by simp)
      (by simpa [Legible] using legible _ (List.getLast_mem some))
    simpa using single
  simp only [Matcher.accepts, Bool.or_eq_true, Bool.and_eq_true, Bool.not_eq_true', whole,
    List.contains_eq_mem, decide_eq_false_iff_not]
  exact or_congr_right (and_congr_right base)

/-- The glob `src/**/*.py` selects a file two directories down. -/
theorem accepts_sourceFile :
    ∃ matcher, Matcher.ofText? "src/**/*.py".toList = some matcher ∧
      matcher.accepts "src/app/main.py".toList = true := by
  have plain : ∀ c ∈ "src/**/*.py".toList, IsPlainChar c :=
    @of_decide_eq_true _ (List.decidableBAll _ _) rfl
  obtain ⟨matcher, usable, accepts⟩ := @accepts_iff_pathMatch "src/**/*.py".toList (by decide) plain
    (by decide) (by decide)
  refine ⟨matcher, usable, (accepts ["src".toList, "app".toList, "main.py".toList] (by decide)
    (by unfold Legible; decide)).mpr (Or.inl ?_)⟩
  refine .one (by decide) (.same (by decide) (by decide) (.same (by decide) (by decide)
    (.same (by decide) (by decide) .done))) (.skip (by decide) ["app".toList] ?_)
  refine .one (by decide) (.star "main".toList (.same (by decide) (by decide)
    (.same (by decide) (by decide) (.same (by decide) (by decide) .done)))) .done

end Glob
end Codemap
