import Codemap.Proofs.Glob.Segments

namespace Codemap
namespace Glob

/-!
# Slashes in matched paths

Without braces and without segments of two stars, a glob matches paths that have as many
slashes as itself, except for its character classes.  A star and a question mark do not read
a slash, and a slash in the glob reads one.  A class, however, reads a slash if it lists it:
in a range around it, or in a negated class without it.

So the slashes of a matched path are those that the glob has outside its classes and at most
one more for each class that lists the slash, and both bounds are attained.
-/

open Pattern Piece

/-! ## Classes -/

/-- A glob without its character classes.  `skip` counts the characters that a class or a
backslash already covers. -/
def outsideClasses (skip : Nat) : Text → Text
  | [] => []
  | c :: rest =>
      if skip ≠ 0 then outsideClasses (skip - 1) rest
      else if c = '[' then
        match classBody? rest with
        | some body => outsideClasses (body.length + 1) rest
        | none => c :: outsideClasses 0 rest
      else if c = '\\' then c :: (rest.head?.toList ++ outsideClasses 1 rest)
      else c :: outsideClasses 0 rest

theorem classHead_prefix (rest : Text) : classHead rest <+: rest := by
  rcases rest with _ | ⟨c, rest⟩
  · exact List.prefix_rfl
  · simp only [classHead]
    by_cases mark : c = '!' ∨ c = '^'
    · rw [if_pos mark]
      rcases rest with _ | ⟨d, rest⟩
      · simp
      · by_cases bracket : d = ']'
        · simp [bracket]
        · simp [bracket]
    · rw [if_neg mark]
      by_cases bracket : c = ']'
      · simp [bracket]
      · simp [bracket]

/-- A text is what stands before a mark, the mark, and what stands behind it. -/
theorem exists_takeWhile_append {mark : Char} {text : Text} (member : mark ∈ text) :
    ∃ more, text = text.takeWhile (· != mark) ++ mark :: more := by
  induction text with
  | nil => cases member
  | cons c rest inductionHypothesis =>
      by_cases same : c = mark
      · exact ⟨rest, by simp [same]⟩
      · rcases inductionHypothesis (List.mem_of_ne_of_mem (Ne.symm same) member) with ⟨more, split⟩
        refine ⟨more, ?_⟩
        rw [List.takeWhile_cons_of_pos (by simpa using same), List.cons_append, ← split]

/-- A class ends with a closing bracket. -/
theorem split_of_classBody? {rest body : Text} (closed : classBody? rest = some body) :
    ∃ more, rest = body ++ ']' :: more := by
  rcases classHead_prefix rest with ⟨after, whole⟩
  have behind : (classHead rest ++ after).drop (classHead rest).length = after := List.drop_left ..
  rw [whole] at behind
  simp only [classBody?, behind] at closed
  split at closed
  · next member =>
      rcases exists_takeWhile_append member with ⟨more, split⟩
      refine ⟨more, ?_⟩
      rw [← Option.some.inj closed, List.append_assoc, ← split, whole]
  · cases closed

/-! ## Cutting a glob without braces -/

theorem piecesFrom_skip (depth : Nat) (before : Option Char) (covered : Text) (last : Char)
    (rest : Text) :
    piecesFrom depth before (covered.length + 1) (covered ++ last :: rest) =
      piecesFrom depth (some last) 0 rest := by
  induction covered generalizing before with
  | nil => simp [piecesFrom]
  | cons c covered inductionHypothesis =>
      rw [List.cons_append, piecesFrom, if_pos (Nat.succ_ne_zero _)]
      exact inductionHypothesis (some c)

/-- A class is one piece, whose text may have another mark of negation. -/
theorem piecesFrom_charClass (depth : Nat) (before : Option Char) {body rest : Text}
    (closed : classBody? (body ++ ']' :: rest) = some body) :
    ∃ marked, piecesFrom depth before 0 ('[' :: (body ++ ']' :: rest)) =
      .charClass marked :: piecesFrom depth (some ']') 0 rest := by
  rw [piecesFrom]
  simp only [ne_eq, not_true_eq_false, if_false, if_true, closed, piecesFrom_skip]
  exact ⟨_, rfl⟩

/-- How a glob without braces is cut into pieces, behind a character or at its beginning. -/
inductive Cut : Option Char → Text → List Piece → Prop
  | nil {before : Option Char} : Cut before [] []
  | directories {before : Option Char} {rest : Text} {pieces : List Piece}
      (atStart : before.all (· == '/') = true) (others : Cut (some '/') rest pieces) :
      Cut before ('*' :: '*' :: '/' :: rest) (.directories :: pieces)
  | everything {before : Option Char} (atStart : before.all (· == '/') = true) :
      Cut before ['*', '*'] [.everything]
  | stars {before : Option Char} {rest : Text} {pieces : List Piece}
      (others : Cut (some '*') rest pieces) :
      Cut before ('*' :: '*' :: rest) (.segmentRun :: pieces)
  | star {before : Option Char} {rest : Text} {pieces : List Piece}
      (others : Cut (some '*') rest pieces) : Cut before ('*' :: rest) (.segmentRun :: pieces)
  | mark {before : Option Char} {rest : Text} {pieces : List Piece}
      (others : Cut (some '?') rest pieces) : Cut before ('?' :: rest) (.segmentChar :: pieces)
  | charClass {before : Option Char} {body marked rest : Text} {pieces : List Piece}
      (closed : classBody? (body ++ ']' :: rest) = some body)
      (others : Cut (some ']') rest pieces) :
      Cut before ('[' :: (body ++ ']' :: rest)) (.charClass marked :: pieces)
  | escaped {before : Option Char} {c : Char} {rest : Text} {pieces : List Piece}
      (others : Cut (some c) rest pieces) :
      Cut before ('\\' :: c :: rest) (.literal c :: pieces)
  | literal {before : Option Char} {c : Char} {rest : Text} {pieces : List Piece}
      (unescaped : c = '\\' → rest = []) (unclosed : c = '[' → classBody? rest = none)
      (others : Cut (some c) rest pieces) : Cut before (c :: rest) (.literal c :: pieces)

theorem cut_piecesFrom (before : Option Char) (glob : Text) (noBrace : '\x7b' ∉ glob) :
    Cut before glob (piecesFrom 0 before 0 glob) := by
  match glob with
  | [] => exact .nil
  | c :: rest =>
      rw [List.mem_cons, not_or] at noBrace
      rcases noBrace with ⟨other, below⟩
      have others (next : Option Char) := cut_piecesFrom next rest below
      have noOpen : c ≠ '\x7b' := Ne.symm other
      by_cases star : c = '*'
      · subst star
        by_cases double : rest.head? = some '*'
        · rcases List.head?_eq_some_iff.mp double with ⟨more, rfl⟩
          have belowMore : '\x7b' ∉ more := fun member => below (List.mem_cons_of_mem _ member)
          by_cases inside : before.all (· == '/') = false ∨ more ≠ [] ∧ more.head? ≠ some '/'
          · rw [piecesFrom_stars inside]
            exact .stars (cut_piecesFrom _ more belowMore)
          · rw [not_or, not_and, not_not, Bool.not_eq_false] at inside
            rcases inside with ⟨atStart, whole⟩
            by_cases nothing : more = []
            · rw [nothing, piecesFrom_everything atStart]
              exact .everything atStart
            · rcases List.head?_eq_some_iff.mp (whole nothing) with ⟨last, rfl⟩
              rw [piecesFrom_directories atStart]
              exact .directories atStart
                (cut_piecesFrom _ last fun member => belowMore (List.mem_cons_of_mem _ member))
        · rw [piecesFrom_star double]
          exact .star (others _)
      by_cases mark : c = '?'
      · subst mark
        rw [piecesFrom_mark]
        exact .mark (others _)
      by_cases bracket : c = '['
      · subst bracket
        cases closed : classBody? rest with
        | some body =>
            rcases split_of_classBody? closed with ⟨more, rfl⟩
            have belowMore : '\x7b' ∉ more := by simp_all
            rcases piecesFrom_charClass 0 before closed with ⟨marked, cut⟩
            rw [cut]
            exact .charClass closed (cut_piecesFrom _ more belowMore)
        | none =>
            have cut : piecesFrom 0 before 0 ('[' :: rest) =
                .literal '[' :: piecesFrom 0 (some '[') 0 rest := by
              simp [piecesFrom, closed]
            rw [cut]
            exact .literal (by simp) (fun _ => closed) (others _)
      by_cases escape : c = '\\'
      · subst escape
        cases behind : rest.head? with
        | none =>
            rw [List.head?_eq_none_iff.mp behind]
            exact .literal (fun _ => rfl) (by simp) .nil
        | some d =>
            rcases List.head?_eq_some_iff.mp behind with ⟨more, rfl⟩
            rw [piecesFrom_escaped]
            exact .escaped
              (cut_piecesFrom _ more fun member => below (List.mem_cons_of_mem _ member))
      · have cut : piecesFrom 0 before 0 (c :: rest) =
            .literal c :: piecesFrom 0 (some c) 0 rest := by
          simp [piecesFrom, star, mark, bracket, escape, noOpen]
        rw [cut]
        exact .literal (fun same => absurd same escape) (fun same => absurd same bracket) (others _)
  termination_by glob.length

section Cut

variable {before : Option Char} {glob : Text} {pieces : List Piece}

/-- A class of a glob in one piece is left out. -/
theorem outsideClasses_skip (covered : Text) (last : Char) (rest : Text) :
    outsideClasses (covered.length + 1) (covered ++ last :: rest) = outsideClasses 0 rest := by
  induction covered with
  | nil => simp [outsideClasses]
  | cons c covered inductionHypothesis =>
      rw [List.cons_append, outsideClasses, if_pos (Nat.succ_ne_zero _)]
      exact inductionHypothesis

/-- The slashes outside the classes of a glob become pieces of their own, unless they belong to
directories. -/
theorem Cut.count_slash (cut : Cut before glob pieces) :
    pieces.count (.literal '/') + pieces.count .directories =
      (outsideClasses 0 glob).count '/' := by
  induction cut with
  | nil => rfl
  | directories atStart _ inductionHypothesis =>
      simp [outsideClasses, ← inductionHypothesis, Nat.add_assoc]
  | everything => rfl
  | stars _ inductionHypothesis => simp [outsideClasses, ← inductionHypothesis]
  | star _ inductionHypothesis => simp [outsideClasses, ← inductionHypothesis]
  | mark _ inductionHypothesis => simp [outsideClasses, ← inductionHypothesis]
  | charClass closed _ inductionHypothesis =>
      simp [outsideClasses, ← inductionHypothesis, closed, outsideClasses_skip]
  | @escaped _ c rest _ _ inductionHypothesis =>
      by_cases slash : c = '/'
      · simp [outsideClasses, ← inductionHypothesis, slash]
        omega
      · simp [outsideClasses, ← inductionHypothesis, slash]
  | @literal _ c rest _ unescaped unclosed _ inductionHypothesis =>
      have outside : outsideClasses 0 (c :: rest) = c :: outsideClasses 0 rest := by
        by_cases bracket : c = '['
        · simp [outsideClasses, bracket, unclosed bracket]
        · by_cases escape : c = '\\'
          · simp [outsideClasses, escape, unescaped escape]
          · simp [outsideClasses, bracket, escape]
      rw [outside, List.count_cons, List.count_cons, List.count_cons, ← inductionHypothesis]
      by_cases slash : c = '/'
      · simp [slash]
        omega
      · simp [slash]

theorem Cut.flat (cut : Cut before glob pieces) :
    ∀ piece ∈ pieces, piece ∉ [.openBrace, .bar, .closeBrace] := by
  induction cut <;> simp_all

/-- Two stars between slashes are a segment. -/
theorem anySegments_mem_fields {front back : Text} (atStart : front.getLast?.all (· == '/') = true)
    (ends : IsSegmentEnd back) : anySegments ∈ (front ++ (anySegments ++ back)).fields '/' := by
  rw [Text.fields_eq_splitOn]
  have behind : anySegments ∈ (anySegments ++ back).splitOn '/' := by
    rcases ends with rfl | ⟨more, rfl⟩
    · decide
    · rw [List.splitOn_append_cons_self]
      exact List.mem_append_left _ (by decide)
  cases last : front.getLast? with
  | none =>
      rw [List.getLast?_eq_none_iff.mp last]
      exact behind
  | some c =>
      rw [last, Option.all_some, beq_iff_eq] at atStart
      rcases List.getLast?_eq_some_iff.mp last with ⟨first, rfl⟩
      rw [atStart, List.append_assoc, List.singleton_append, List.splitOn_append_cons_self]
      exact List.mem_append_right _ behind

/-- Directories and everything that is left come from a segment of two stars. -/
theorem Cut.anySegments_mem (cut : Cut before glob pieces) {front : Text}
    (behind : before = front.getLast?)
    (member : .directories ∈ pieces ∨ .everything ∈ pieces) :
    anySegments ∈ (front ++ glob).fields '/' := by
  induction cut generalizing front with
  | nil => simp at member
  | directories atStart _ _ =>
      exact anySegments_mem_fields (behind ▸ atStart) (Or.inr ⟨_, rfl⟩)
  | everything atStart =>
      exact anySegments_mem_fields (behind ▸ atStart) (Or.inl rfl)
  | @stars _ rest _ _ inductionHypothesis =>
      have later := @inductionHypothesis (front ++ ['*', '*']) (by simp) (by simpa using member)
      simpa using later
  | @star _ rest _ _ inductionHypothesis =>
      have later := @inductionHypothesis (front ++ ['*']) (by simp) (by simpa using member)
      simpa using later
  | @mark _ rest _ _ inductionHypothesis =>
      have later := @inductionHypothesis (front ++ ['?']) (by simp) (by simpa using member)
      simpa using later
  | @charClass _ body _ rest _ _ _ inductionHypothesis =>
      have later := @inductionHypothesis ((front ++ '[' :: body) ++ [']'])
        List.getLast?_concat.symm (by simpa using member)
      simpa using later
  | @escaped _ c rest _ _ inductionHypothesis =>
      have later := @inductionHypothesis (front ++ ['\\', c]) (by simp) (by simpa using member)
      simpa using later
  | @literal _ c rest _ _ _ _ inductionHypothesis =>
      have later := @inductionHypothesis (front ++ [c]) (by simp) (by simpa using member)
      simpa using later

end Cut

/-! ## Counting slashes -/

/-- A class that lists the slash. -/
def Piece.crosses : Piece → Bool
  | .charClass body => (charClass? body).any (·.contains '/')
  | _ => false

/-- A piece that stays on its level of directories. -/
def Piece.IsLevel (piece : Piece) : Prop :=
  piece ≠ .directories ∧ piece ≠ .everything

/-- A piece reads one slash if it is a slash, none or one if it is a class that lists the slash,
and otherwise none. -/
theorem Piece.Reads.count_slash {piece : Piece} {text : Text} (reads : piece.Reads text)
    (level : piece.IsLevel) :
    [piece].count (.literal '/') ≤ text.count '/' ∧
      text.count '/' ≤ [piece].count (.literal '/') + [piece].countP crosses := by
  cases reads with
  | literal c => by_cases slash : c = '/' <;> simp [slash, crosses]
  | segmentRun inside => simp [List.count_eq_zero.mpr inside]
  | segmentChar inside => simp [inside]
  | noDirectories | directories => exact absurd rfl level.1
  | everything => exact absurd rfl level.2
  | @charClass body cls c usable listed =>
      by_cases slash : c = '/'
      · subst slash
        simp [crosses, usable, listed]
      · simp [slash]

/-- A piece that reads anything reads something with every slash that it may read. -/
theorem Piece.Reads.exists_count_slash {piece : Piece} {text : Text} (reads : piece.Reads text)
    (level : piece.IsLevel) :
    ∃ other, piece.Reads other ∧
      other.count '/' = [piece].count (.literal '/') + [piece].countP crosses := by
  by_cases crossing : piece.crosses = true
  · cases piece with
    | charClass body =>
        cases usable : charClass? body with
        | none => simp [crosses, usable] at crossing
        | some cls =>
            have listed : cls.contains '/' = true := by simpa [crosses, usable] using crossing
            exact ⟨['/'], .charClass usable listed, by simp [crossing]⟩
    | _ => cases crossing
  · refine ⟨text, reads, ?_⟩
    have bounds := reads.count_slash level
    simp only [List.countP_cons, crossing] at bounds ⊢
    simp at bounds ⊢
    omega

section Level

variable {pieces : List Piece} {path : Text}

theorem count_slash_of_readsAll (reads : ReadsAll pieces path)
    (level : ∀ piece ∈ pieces, piece.IsLevel) :
    pieces.count (.literal '/') ≤ path.count '/' ∧
      path.count '/' ≤ pieces.count (.literal '/') + pieces.countP crosses := by
  induction reads with
  | nil => simp
  | @cons piece pieces left right first _ inductionHypothesis =>
      rcases List.forall_mem_cons.mp level with ⟨here, later⟩
      have one := first.count_slash here
      have others := inductionHypothesis later
      rw [← List.singleton_append, List.count_append, List.count_append, List.countP_append]
      omega

theorem exists_count_slash_of_readsAll (reads : ReadsAll pieces path)
    (level : ∀ piece ∈ pieces, piece.IsLevel) :
    ∃ other, ReadsAll pieces other ∧
      other.count '/' = pieces.count (.literal '/') + pieces.countP crosses := by
  induction reads with
  | nil => exact ⟨[], .nil, rfl⟩
  | @cons piece pieces left right first _ inductionHypothesis =>
      rcases List.forall_mem_cons.mp level with ⟨here, later⟩
      rcases first.exists_count_slash here with ⟨one, reads, oneCount⟩
      rcases inductionHypothesis later with ⟨others, readsOthers, othersCount⟩
      refine ⟨one ++ others, .cons reads readsOthers, ?_⟩
      rw [← List.singleton_append, List.count_append, List.count_append, List.countP_append]
      omega

/-- Without segments of two stars a glob stays on its level of directories. -/
theorem Cut.isLevel {glob : Text} (cut : Cut none glob pieces)
    (noStars : anySegments ∉ glob.fields '/') : ∀ piece ∈ pieces, piece.IsLevel := by
  refine fun piece listed => ⟨?_, ?_⟩
  · rintro rfl
    exact noStars (@Cut.anySegments_mem _ _ _ cut [] rfl (Or.inl listed))
  · rintro rfl
    exact noStars (@Cut.anySegments_mem _ _ _ cut [] rfl (Or.inr listed))

theorem Cut.count_slash_eq {before : Option Char} {glob : Text} (cut : Cut before glob pieces)
    (level : ∀ piece ∈ pieces, piece.IsLevel) :
    pieces.count (.literal '/') = (outsideClasses 0 glob).count '/' := by
  have none : pieces.count .directories = 0 :=
    List.count_eq_zero.mpr fun listed => (level _ listed).1 rfl
  rw [← cut.count_slash, none, Nat.add_zero]

end Level

/-- A glob that matches something, and has no alternatives, matches what its pieces read. -/
theorem matchesWhole_iff_of_flat {glob path : Text}
    (flat : ∀ piece ∈ pieces glob, piece ∉ [.openBrace, .bar, .closeBrace])
    (matched : MatchesWhole glob path) (other : Text) :
    MatchesWhole glob other ↔ ReadsAll (pieces glob) other := by
  rcases matched with ⟨node, usable, -⟩
  exact (matchesWhole_of_own (own_of_assemble flat usable)).2 other

/-- Without braces and without segments of two stars, every path that a glob matches has the
slashes that the glob has outside its classes, and at most one more for each class that lists
the slash.  If it matches any path, then also one with all these slashes, so the slashes are as
many as outside the classes in every matched path exactly if no class lists the slash. -/
theorem count_slash_of_matchesWhole {glob : Text} (noBrace : '\x7b' ∉ glob)
    (noStars : anySegments ∉ glob.fields '/') :
    (∀ path, MatchesWhole glob path →
      (outsideClasses 0 glob).count '/' ≤ path.count '/' ∧
        path.count '/' ≤ (outsideClasses 0 glob).count '/' + (pieces glob).countP crosses) ∧
    ((∃ path, MatchesWhole glob path) →
      (∃ path, MatchesWhole glob path ∧
        path.count '/' = (outsideClasses 0 glob).count '/' + (pieces glob).countP crosses) ∧
      ((∀ path, MatchesWhole glob path → path.count '/' = (outsideClasses 0 glob).count '/') ↔
        ∀ piece ∈ pieces glob, piece.crosses = false)) := by
  have cut : Cut none glob (pieces glob) := cut_piecesFrom none glob noBrace
  have level := cut.isLevel noStars
  have slashes := cut.count_slash_eq level
  have reads {path : Text} (matched : MatchesWhole glob path) :=
    matchesWhole_iff_of_flat cut.flat matched
  have bounds (path : Text) (matched : MatchesWhole glob path) :=
    slashes ▸ count_slash_of_readsAll ((reads matched path).mp matched) level
  refine ⟨bounds, ?_⟩
  rintro ⟨path, matched⟩
  rcases exists_count_slash_of_readsAll ((reads matched path).mp matched) level
    with ⟨most, readsMost, count⟩
  rw [slashes] at count
  have matchedMost := (reads matched most).mpr readsMost
  refine ⟨⟨most, matchedMost, count⟩, ?_⟩
  have none_iff : (pieces glob).countP crosses = 0 ↔
      ∀ piece ∈ pieces glob, piece.crosses = false := by
    simp [List.countP_eq_zero]
  rw [← none_iff]
  constructor
  · intro same
    have counted := same most matchedMost
    omega
  · intro none other matchedOther
    have within := bounds other matchedOther
    omega

/-- The file that `src/[a-z]?*.py` matches is directly in `src`. -/
theorem count_slash_of_sourceFile :
    '\x7b' ∉ "src/[a-z]?*.py".toList ∧ anySegments ∉ Text.fields '/' "src/[a-z]?*.py".toList ∧
      ∀ path, MatchesWhole "src/[a-z]?*.py".toList path → path.count '/' = 1 := by
  have noBrace : '\x7b' ∉ "src/[a-z]?*.py".toList := by decide +kernel
  have noStars : anySegments ∉ Text.fields '/' "src/[a-z]?*.py".toList := by decide +kernel
  refine ⟨noBrace, noStars, fun path matched => ?_⟩
  have whole := (count_slash_of_matchesWhole noBrace noStars).2 ⟨path, matched⟩
  exact whole.2.mpr (by decide +kernel) path matched

/-- A negated class and a range that goes around the slash match it. -/
theorem count_slash_of_negated :
    (outsideClasses 0 "src[!a]main.py".toList).count '/' = 0 ∧
      MatchesWhole "src[!a]main.py".toList "src/main.py".toList ∧
      (outsideClasses 0 "src[--9]main.py".toList).count '/' = 0 ∧
      MatchesWhole "src[--9]main.py".toList "src/main.py".toList := by
  decide +kernel

end Glob
end Codemap
