import Codemap.Proofs.Glob.Segments
import Mathlib.Data.List.TakeWhile

namespace Codemap
namespace Glob

/-!
# Parts of a glob

Where alternatives stand in braces, a glob consists of parts: what precedes the braces, the
alternatives, and what follows.  The same parts can be put side by side without braces.
Whether a part means the same in both places depends on two stars only: they stand for
directories if they fill a segment, and a brace beside them hides that they do.

Stars are cut in pairs from the left, so the pieces of a part are not the same everywhere
even where they mean the same.  Here the meaning of a part is therefore given by pieces that
are cut star by star.  Such pieces of two parts are the pieces of the parts together, unless
the parts meet in a segment that two stars fill.
-/

open Piece

/-! ## Text in which nothing special stands -/

/-- Special characters stand in a text only behind a backslash, and every backslash has a
character behind it. -/
def isFree (special : List Char) : Text → Bool
  | [] => true
  | '\\' :: _ :: rest => isFree special rest
  | c :: rest => c != '\\' && !special.contains c && isFree special rest

section Free

variable {special : List Char}

theorem isFree_cons {c : Char} (plain : c ≠ '\\') (rest : Text) :
    isFree special (c :: rest) = true ↔ c ∉ special ∧ isFree special rest = true := by
  simp [isFree, plain]

/-- How a text begins in which nothing special stands. -/
inductive Begins (special : List Char) : Text → Prop
  | nothing : Begins special []
  | escaped (c : Char) (rest : Text) (free : isFree special rest = true) :
      Begins special ('\\' :: c :: rest)
  | star (rest : Text) (free : isFree special rest = true) : Begins special ('*' :: rest)
  | mark (rest : Text) (free : isFree special rest = true) : Begins special ('?' :: rest)
  | literal {c : Char} (rest : Text) (ordinary : c ∉ '*' :: '?' :: '\\' :: special)
      (free : isFree special rest = true) : Begins special (c :: rest)

theorem begins_of_isFree {text : Text} (free : isFree special text = true) :
    Begins special text := by
  cases text with
  | nil => exact .nothing
  | cons c rest =>
      by_cases escape : c = '\\'
      · subst escape
        cases rest with
        | nil => cases free
        | cons c rest => exact .escaped c rest free
      · rw [isFree_cons escape] at free
        by_cases star : c = '*'
        · exact star ▸ .star rest free.2
        · by_cases mark : c = '?'
          · exact mark ▸ .mark rest free.2
          · exact .literal rest (by simp [star, mark, escape, free.1]) free.2

theorem isFree_of_forall {text : Text} (each : ∀ c ∈ text, c ≠ '\\' ∧ c ∉ special) :
    isFree special text = true := by
  induction text with
  | nil => rfl
  | cons c rest inductionHypothesis =>
      rcases List.forall_mem_cons.mp each with ⟨⟨plain, other⟩, later⟩
      exact (isFree_cons plain rest).mpr ⟨other, inductionHypothesis later⟩

theorem isFree_append {left right : Text} (leftFree : isFree special left = true)
    (rightFree : isFree special right = true) : isFree special (left ++ right) = true := by
  fun_induction isFree special left with
  | case1 => exact rightFree
  | case2 c rest inductionHypothesis => exact inductionHypothesis leftFree
  | case3 c rest alone inductionHypothesis =>
      simp only [Bool.and_eq_true, bne_iff_ne, Bool.not_eq_true', List.contains_eq_mem,
        decide_eq_false_iff_not] at leftFree
      exact (isFree_cons leftFree.1.1 _).mpr ⟨leftFree.1.2, inductionHypothesis leftFree.2⟩

/-- A text stays free of fewer special characters. -/
theorem isFree_mono {fewer : List Char} (within : ∀ c ∈ fewer, c ∈ special) {text : Text}
    (free : isFree special text = true) : isFree fewer text = true := by
  fun_induction isFree special text with
  | case1 => rfl
  | case2 c rest inductionHypothesis => exact inductionHypothesis free
  | case3 c rest alone inductionHypothesis =>
      simp only [Bool.and_eq_true, bne_iff_ne, Bool.not_eq_true', List.contains_eq_mem,
        decide_eq_false_iff_not] at free
      exact (isFree_cons free.1.1 rest).mpr
        ⟨fun member => free.1.2 (within c member), inductionHypothesis free.2⟩

theorem isFree_nil {text : Text} (free : isFree special text = true) : isFree [] text = true :=
  isFree_mono (List.forall_mem_nil _) free

end Free

/-! ## Pieces cut star by star -/

/-- The pieces of a part, where stars within a segment are cut one by one.  `ends` says that
nothing follows the part, and `atStart` that the part begins a segment. -/
def starwise (ends : Bool) : Bool → Text → List Piece
  | _, [] => []
  | true, '*' :: '*' :: '/' :: rest => .directories :: starwise ends true rest
  | true, ['*', '*'] => if ends then [.everything] else [.segmentRun, .segmentRun]
  | _, '*' :: rest => .segmentRun :: starwise ends false rest
  | _, '?' :: rest => .segmentChar :: starwise ends false rest
  | _, '\\' :: c :: rest => .literal c :: starwise ends (c == '/') rest
  | _, c :: rest => .literal c :: starwise ends (c == '/') rest

/-- What follows a star completes a segment of two stars. -/
def Doubled (ends : Bool) (rest : Text) : Prop :=
  (∃ more, rest = '*' :: '/' :: more) ∨ (rest = ['*'] ∧ ends = true)

section Starwise

variable {special : List Char} {ends atStart : Bool}

theorem starwise_star {rest : Text} (single : atStart = true → ¬ Doubled ends rest) :
    starwise ends atStart ('*' :: rest) = .segmentRun :: starwise ends false rest := by
  cases atStart with
  | false => simp [starwise]
  | true =>
      have other := single rfl
      by_cases double : rest.head? = some '*'
      · obtain ⟨more, rfl⟩ := List.head?_eq_some_iff.mp double
        cases more with
        | nil =>
            cases ends with
            | true => exact absurd (Or.inr ⟨rfl, rfl⟩) other
            | false => rfl
        | cons c more =>
            have within : c ≠ '/' := fun slash => other (Or.inl ⟨more, by rw [slash]⟩)
            simp [starwise, within]
      · have within : ∀ more, rest ≠ '*' :: more := by
          rintro more rfl
          exact double rfl
        simp [starwise, within]

theorem starwise_mark (rest : Text) :
    starwise ends atStart ('?' :: rest) = .segmentChar :: starwise ends false rest := by
  cases atStart <;> rfl

theorem starwise_escaped (c : Char) (rest : Text) :
    starwise ends atStart ('\\' :: c :: rest) = .literal c :: starwise ends (c == '/') rest := by
  cases atStart <;> rfl

theorem starwise_literal {c : Char} (ordinary : c ∉ '*' :: '?' :: '\\' :: special) (rest : Text) :
    starwise ends atStart (c :: rest) = .literal c :: starwise ends (c == '/') rest := by
  simp only [List.mem_cons, not_or] at ordinary
  cases atStart <;> simp [starwise, ordinary]

/-- Where no two stars fill a segment, it is of no account whether the part begins one. -/
theorem starwise_start {part : Text} (free : isFree special part = true)
    (single : atStart = true → ∀ rest, part = '*' :: rest → ¬ Doubled ends rest) :
    starwise ends atStart part = starwise ends false part := by
  cases begins_of_isFree free with
  | nothing => simp [starwise]
  | escaped c rest => rw [starwise_escaped, starwise_escaped]
  | star rest =>
      rw [starwise_star fun start => single start rest rfl, starwise_star (by simp)]
  | mark rest => rw [starwise_mark, starwise_mark]
  | literal rest ordinary => rw [starwise_literal ordinary, starwise_literal ordinary]

end Starwise

/-! ## Where a part ends -/

/-- What follows a part: nothing, or a character that is neither a star nor a slash. -/
def IsPartEnd (tail : Text) : Prop :=
  ∀ c ∈ tail.head?, c ≠ '*' ∧ c ≠ '/'

theorem isPartEnd_nil : IsPartEnd [] := by
  simp [IsPartEnd]

theorem IsPartEnd.head_of_append {tail part : Text} (ends : IsPartEnd tail) {c : Char}
    (special : c = '*' ∨ c = '/') (begins : (part ++ tail).head? = some c) :
    ∃ more, part = c :: more := by
  cases part with
  | nil =>
      rcases ends c begins with ⟨noStar, noSlash⟩
      exact (special.elim noStar noSlash).elim
  | cons d more =>
      rw [List.cons_append, List.head?_cons, Option.some.injEq] at begins
      exact ⟨more, by rw [begins]⟩

/-- The characters that are special within so many braces. -/
def specialAt (depth : Nat) : List Char :=
  if depth = 0 then ['[', '\x7b'] else ['[', '\x7b', ',', '\x7d']

/-- A part in front of a text falls into pieces with patterns of their own, which read what
the pieces of the part read that are cut star by star. -/
structure Falls (depth : Nat) (before : Option Char) (part tail : Text) (pieces : List Piece)
    (last : Option Char) : Prop where
  own : ∀ piece ∈ pieces, piece.node?.isSome = true
  cut : piecesFrom depth before 0 (part ++ tail) = pieces ++ piecesFrom depth last 0 tail
  reads : ∀ text, ReadsAll pieces text ↔
    ReadsAll (starwise tail.isEmpty (before.all (· == '/')) part) text

/-- A part that nothing follows is cut into its pieces. -/
theorem Falls.cut_nil {depth : Nat} {before last : Option Char} {part : Text} {pieces : List Piece}
    (falls : Falls depth before part [] pieces last) :
    piecesFrom depth before 0 part = pieces := by
  simpa [piecesFrom] using falls.cut

section Falls

variable {depth : Nat} {before : Option Char} {tail : Text}

theorem piecesFrom_ordinary {c : Char} (ordinary : c ∉ '*' :: '?' :: '\\' :: specialAt depth)
    (rest : Text) :
    piecesFrom depth before 0 (c :: rest) = .literal c :: piecesFrom depth (some c) 0 rest := by
  by_cases outside : depth = 0
  · subst outside
    simp only [specialAt, if_true, List.mem_cons, List.not_mem_nil, or_false, not_or] at ordinary
    simp [piecesFrom, ordinary]
  · simp only [specialAt, outside, if_false, List.mem_cons, List.not_mem_nil, or_false, not_or]
      at ordinary
    simp [piecesFrom, ordinary]

/-- A piece in front of a part that falls into pieces. -/
theorem Falls.cons {part rest : Text} {piece : Piece} {pieces : List Piece}
    {last next : Option Char} (later : Falls depth next rest tail pieces last)
    (own : piece.node?.isSome = true)
    (cut : piecesFrom depth before 0 (part ++ tail) =
      piece :: piecesFrom depth next 0 (rest ++ tail))
    (star : starwise tail.isEmpty (before.all (· == '/')) part =
      piece :: starwise tail.isEmpty (next.all (· == '/')) rest) :
    Falls depth before part tail (piece :: pieces) last where
  own := List.forall_mem_cons.mpr ⟨own, later.own⟩
  cut := by rw [cut, later.cut, List.cons_append]
  reads := by
    intro text
    rw [star, readsAll_cons, readsAll_cons]
    simp only [later.reads]

/-- Two stars within a segment in front of a part that falls into pieces: they are cut as one
piece. -/
theorem Falls.stars {rest : Text} {pieces : List Piece} {last : Option Char}
    (later : Falls depth (some '*') rest tail pieces last)
    (inside : before.all (· == '/') = false ∨ rest ++ tail ≠ [] ∧ (rest ++ tail).head? ≠ some '/') :
    Falls depth before ('*' :: '*' :: rest) tail (.segmentRun :: pieces) last where
  own := List.forall_mem_cons.mpr ⟨rfl, later.own⟩
  cut := by
    rw [List.cons_append, List.cons_append, piecesFrom_stars inside, later.cut, List.cons_append]
  reads := by
    intro text
    have single : before.all (· == '/') = true → ¬ Doubled tail.isEmpty ('*' :: rest) := by
      intro atStart doubled
      rcases inside with within | ⟨nonempty, noSlash⟩
      · exact Bool.false_ne_true (within.symm.trans atStart)
      · rcases doubled with ⟨more, same⟩ | ⟨same, ends⟩
        · rw [(List.cons.inj same).2] at noSlash
          exact noSlash rfl
        · rw [(List.cons.inj same).2] at nonempty
          exact nonempty (by simpa using ends)
    rw [starwise_star single, starwise_star (by simp), readsAll_run_run, readsAll_cons,
      readsAll_cons]
    simp only [later.reads]
    rfl

/-- Every part in which nothing special stands falls into pieces.  The recursion skips a
character behind a backslash and a star behind a star. -/
theorem exists_falls (ends : IsPartEnd tail) (part : Text) (before : Option Char)
    (free : isFree (specialAt depth) part = true) :
    ∃ pieces last, Falls depth before part tail pieces last := by
  cases begins_of_isFree free with
  | nothing => exact ⟨[], before, by simp, rfl, fun _ => by simp [starwise]⟩
  | escaped c rest restFree =>
      rcases exists_falls ends rest (some c) restFree with ⟨pieces, last, later⟩
      exact ⟨_, last, later.cons rfl (piecesFrom_escaped c _) (starwise_escaped c rest)⟩
  | mark rest restFree =>
      rcases exists_falls ends rest (some '?') restFree with ⟨pieces, last, later⟩
      exact ⟨_, last, later.cons rfl (piecesFrom_mark _) (starwise_mark rest)⟩
  | @literal c rest ordinary restFree =>
      rcases exists_falls ends rest (some c) restFree with ⟨pieces, last, later⟩
      exact ⟨_, last,
        later.cons rfl (piecesFrom_ordinary ordinary _) (starwise_literal ordinary rest)⟩
  | star rest restFree =>
      by_cases double : (rest ++ tail).head? = some '*'
      · rcases ends.head_of_append (Or.inl rfl) double with ⟨more, rfl⟩
        have moreFree := ((isFree_cons (by decide : '*' ≠ '\\') more).mp restFree).2
        by_cases inside : before.all (· == '/') = false ∨
            more ++ tail ≠ [] ∧ (more ++ tail).head? ≠ some '/'
        · rcases exists_falls ends more (some '*') moreFree with ⟨pieces, last, later⟩
          exact ⟨_, last, later.stars inside⟩
        · rw [not_or, not_and, not_not, Bool.not_eq_false] at inside
          rcases inside with ⟨atStart, whole⟩
          by_cases nothing : more ++ tail = []
          · rcases List.append_eq_nil_iff.mp nothing with ⟨rfl, rfl⟩
            refine ⟨[.everything], none, List.forall_mem_singleton.mpr rfl, ?_, ?_⟩
            · exact piecesFrom_everything atStart
            · rw [atStart]
              exact fun _ => Iff.rfl
          · rcases ends.head_of_append (Or.inr rfl) (whole nothing) with ⟨below, rfl⟩
            have belowFree := ((isFree_cons (by decide : '/' ≠ '\\') below).mp moreFree).2
            rcases exists_falls ends below (some '/') belowFree with ⟨pieces, last, later⟩
            have cut := @piecesFrom_directories depth before atStart (below ++ tail)
            refine ⟨_, last, later.cons rfl cut ?_⟩
            rw [atStart]
            rfl
      · rcases exists_falls ends rest (some '*') restFree with ⟨pieces, last, later⟩
        refine ⟨_, last, later.cons rfl (piecesFrom_star double) (starwise_star ?_)⟩
        rintro _ (⟨more, rfl⟩ | ⟨rfl, _⟩) <;> exact double rfl
  termination_by part.length

end Falls

/-! ## Two parts side by side -/

/-- The text before the first slash. -/
def firstSegment (text : Text) : Text :=
  text.takeWhile (· != '/')

theorem baseName_cons {c : Char} {rest : Text} (later : c = '/' ∨ '/' ∈ rest) :
    baseName (c :: rest) = baseName rest := by
  rw [baseName, baseName, List.reverse_cons, List.takeWhile_append]
  split
  · next whole =>
      have same := (List.takeWhile_prefix (fun d => d != '/')).eq_of_length whole
      have noSlash : '/' ∉ rest := by
        intro member
        rw [← List.mem_reverse, ← same] at member
        have kept := List.mem_takeWhile_imp member
        simp at kept
      rw [same, later.resolve_right noSlash]
      simp
  · rfl

/-- The segment in which two parts meet is not filled by two stars. -/
def Apart (atStart : Bool) (part tail : Text) : Prop :=
  atStart = true ∨ '/' ∈ part → baseName part ++ firstSegment tail ≠ anySegments

theorem Apart.cons {atStart : Bool} {c : Char} {rest tail : Text}
    (apart : Apart atStart (c :: rest) tail) : Apart (c == '/') rest tail := by
  intro later
  have slash : c = '/' ∨ '/' ∈ rest := by simpa using later
  rw [← baseName_cons slash]
  exact apart (Or.inr (by simpa [eq_comm] using slash))

/-- Two stars that fill a segment do not stand in different parts. -/
theorem Apart.exists_of_doubled {ends : Bool} {rest tail : Text}
    (apart : Apart true ('*' :: rest) tail) (doubled : Doubled ends (rest ++ tail)) :
    ∃ more, rest = '*' :: '/' :: more := by
  have other := apart (Or.inl rfl)
  rcases rest with _ | ⟨c, _ | ⟨d, more⟩⟩
  · refine (other ?_).elim
    rcases doubled with ⟨more, same⟩ | ⟨same, -⟩ <;>
    · rw [List.nil_append] at same
      rw [same]
      rfl
  · refine (other ?_).elim
    rcases doubled with ⟨more, same⟩ | ⟨same, -⟩ <;>
    · obtain ⟨rfl, rfl⟩ := List.cons.inj same
      rfl
  · rcases doubled with ⟨later, same⟩ | ⟨same, -⟩
    · rcases List.cons.inj same with ⟨star, same⟩
      exact ⟨more, by rw [star, (List.cons.inj same).1]⟩
    · cases (List.cons.inj same).2

theorem Doubled.firstSegment {ends : Bool} {rest : Text} (doubled : Doubled ends rest) :
    firstSegment ('*' :: rest) = anySegments := by
  rcases doubled with ⟨more, rfl⟩ | ⟨rfl, -⟩ <;> rfl

section Append

variable {ends : Bool} {tail : Text}

/-- Parts that do not meet in a segment of two stars are cut apart. -/
theorem starwise_append {atStart : Bool} {part : Text} (free : isFree [] part = true)
    (tailFree : isFree [] tail = true) (apart : Apart atStart part tail) :
    starwise ends atStart (part ++ tail) =
      starwise false atStart part ++ starwise ends false tail := by
  cases begins_of_isFree free with
  | nothing =>
      have single : atStart = true → ∀ rest, tail = '*' :: rest → ¬ Doubled ends rest := by
        rintro start rest rfl doubled
        exact apart (Or.inl start) doubled.firstSegment
      rw [List.nil_append, starwise_start tailFree single]
      simp [starwise]
  | escaped c rest restFree =>
      simp only [List.cons_append, starwise_escaped]
      exact congrArg _ (starwise_append restFree tailFree apart.cons.cons)
  | mark rest restFree =>
      simp only [List.cons_append, starwise_mark]
      exact congrArg _ (starwise_append restFree tailFree apart.cons)
  | literal rest ordinary restFree =>
      simp only [List.cons_append, starwise_literal ordinary]
      exact congrArg _ (starwise_append restFree tailFree apart.cons)
  | star rest restFree =>
      by_cases doubled : atStart = true ∧ Doubled ends (rest ++ tail)
      · rcases doubled with ⟨rfl, doubled⟩
        rcases apart.exists_of_doubled doubled with ⟨below, rfl⟩
        have belowFree : isFree [] below = true := by simpa [isFree] using restFree
        simp only [List.cons_append, starwise]
        exact congrArg _ (starwise_append belowFree tailFree apart.cons.cons.cons)
      · have partly : atStart = true → ¬ Doubled false rest := by
          rintro start (⟨more, rfl⟩ | ⟨-, impossible⟩)
          · exact doubled ⟨start, Or.inl ⟨more ++ tail, rfl⟩⟩
          · cases impossible
        simp only [List.cons_append, starwise_star (not_and.mp doubled), starwise_star partly]
        exact congrArg _ (starwise_append restFree tailFree apart.cons)
  termination_by part.length

/-! ## Reading one line -/

/-- Two stars that fill a segment read every line that they read within a segment. -/
theorem readsAll_doubled {rest text : Text} (doubled : Doubled ends rest) (oneLine : '\n' ∉ text)
    (reads : ReadsAll (starwise ends false ('*' :: rest)) text) :
    ReadsAll (starwise ends true ('*' :: rest)) text := by
  rcases doubled with ⟨more, rfl⟩ | ⟨rfl, rfl⟩
  · have within : starwise ends false ('*' :: '*' :: '/' :: more) =
        .segmentRun :: .segmentRun :: .literal '/' :: starwise ends true more := by
      simp [starwise]
    rw [within, readsAll_run_run, readsAll_cons] at reads
    rcases reads with ⟨run, later, rfl, -, reads⟩
    rcases readsAll_literal.mp reads with ⟨below, rfl, readsBelow⟩
    have runOneLine : '\n' ∉ run := fun member => oneLine (List.mem_append_left _ member)
    have skipped : run ++ '/' :: below = (run ++ ['/']) ++ below := by simp
    rw [skipped]
    exact .cons (.directories runOneLine) readsBelow
  · rw [← List.append_nil text]
    exact .cons (.everything oneLine) .nil

/-- At the beginning of a segment a part reads every line that it reads within one. -/
theorem readsAll_start {atStart : Bool} {part text : Text} (free : isFree [] part = true)
    (oneLine : '\n' ∉ text) (reads : ReadsAll (starwise ends false part) text) :
    ReadsAll (starwise ends atStart part) text := by
  by_cases whole : atStart = true ∧ ∃ rest, part = '*' :: rest ∧ Doubled ends rest
  · rcases whole with ⟨rfl, rest, rfl, doubled⟩
    exact readsAll_doubled doubled oneLine reads
  · have single : atStart = true → ∀ rest, part = '*' :: rest → ¬ Doubled ends rest :=
      fun start rest same doubled => whole ⟨start, rest, same, doubled⟩
    rwa [starwise_start free single]

/-- A line that two parts read one after the other is read by the parts side by side. -/
theorem readsAll_starwise_append {atStart : Bool} {part left right : Text}
    (free : isFree [] part = true) (tailFree : isFree [] tail = true)
    (first : ReadsAll (starwise false atStart part) left)
    (second : ReadsAll (starwise ends false tail) right) (oneLine : '\n' ∉ left ++ right) :
    ReadsAll (starwise ends atStart (part ++ tail)) (left ++ right) := by
  cases begins_of_isFree free with
  | nothing =>
      rw [starwise] at first
      rw [readsAll_nil.mp first, List.nil_append] at oneLine ⊢
      exact readsAll_start tailFree oneLine second
  | escaped c rest restFree =>
      rw [starwise_escaped] at first
      rcases readsAll_literal.mp first with ⟨later, rfl, others⟩
      rw [List.cons_append, List.mem_cons, not_or] at oneLine
      simp only [List.cons_append, starwise_escaped]
      exact readsAll_literal.mpr
        ⟨_, rfl, readsAll_starwise_append restFree tailFree others second oneLine.2⟩
  | mark rest restFree =>
      rw [starwise_mark] at first
      rcases readsAll_cons.mp first with ⟨one, later, rfl, reads, others⟩
      rw [List.append_assoc, List.mem_append, not_or] at oneLine
      rw [List.cons_append, starwise_mark, List.append_assoc]
      exact .cons reads (readsAll_starwise_append restFree tailFree others second oneLine.2)
  | literal rest ordinary restFree =>
      rw [starwise_literal ordinary] at first
      rcases readsAll_literal.mp first with ⟨later, rfl, others⟩
      rw [List.cons_append, List.mem_cons, not_or] at oneLine
      simp only [List.cons_append, starwise_literal ordinary]
      exact readsAll_literal.mpr
        ⟨_, rfl, readsAll_starwise_append restFree tailFree others second oneLine.2⟩
  | star rest restFree =>
      by_cases doubled : atStart = true ∧ ∃ more, rest = '*' :: '/' :: more
      · rcases doubled with ⟨rfl, below, rfl⟩
        have belowFree : isFree [] below = true := by simpa [isFree] using restFree
        rcases readsAll_cons.mp first with ⟨skipped, later, rfl, skips, others⟩
        rw [List.append_assoc, List.mem_append, not_or] at oneLine
        rw [List.append_assoc]
        exact .cons skips (readsAll_starwise_append belowFree tailFree others second oneLine.2)
      · have partly : atStart = true → ¬ Doubled false rest := by
          rintro start (doubles | ⟨-, impossible⟩)
          · exact doubled ⟨start, doubles⟩
          · cases impossible
        rw [starwise_star partly] at first
        rcases readsAll_cons.mp first with ⟨run, later, rfl, runs, others⟩
        -- The stars may fill a segment only now, so they are read within one first.
        apply readsAll_start (isFree_append free tailFree) oneLine
        rw [List.append_assoc, List.mem_append, not_or] at oneLine
        rw [List.cons_append, starwise_star (by simp), List.append_assoc]
        exact .cons runs (readsAll_starwise_append restFree tailFree others second oneLine.2)
  termination_by part.length

end Append

end Glob
end Codemap
