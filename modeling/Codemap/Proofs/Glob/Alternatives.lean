import Codemap.Proofs.Glob.Parts

namespace Codemap
namespace Glob

/-!
# Alternatives in braces

A glob with alternatives in braces is meant to stand for the globs that it expands to, one
for each alternative.  The pattern of such a glob is put together in place and not by
expanding, and it is compared with the expanded globs here.

There are two reservations.  The closing brace is looked for without regard to backslashes,
so with escaped braces in the alternatives the opening brace may stand for itself.  And two
stars that fill a segment of an expanded glob, but touch a brace, stay within their segment.
A line that the glob matches is matched by an expanded glob even so.
-/

open Pattern Piece

/-! ## Assembling alternatives -/

/-- Alternatives become the choice between their sequences. -/
theorem assemble_alternatives {parts : List (List Piece)} {nodes : List (List Node)}
    (own : List.Forall₂ Patterned parts nodes) (nonempty : parts ≠ []) (complete : List Node)
    (enclosing : Level) (outer : List Level) (back : List Piece) :
    assemble { complete } (enclosing :: outer)
        (List.intercalate [.bar] parts ++ .closeBrace :: back) =
      assemble (enclosing.push (Node.choice (complete ++ nodes.map Node.seq))) outer back := by
  induction own generalizing complete with
  | nil => exact absurd rfl nonempty
  | cons first later inductionHypothesis =>
      cases later with
      | nil =>
          rw [List.intercalate_singleton, assemble_append first]
          simp [assemble, Level.node]
      | cons =>
          rw [List.intercalate_cons_cons, List.append_assoc, List.append_assoc,
            assemble_append first]
          simp only [List.singleton_append, assemble, Level.split]
          rw [inductionHypothesis (by simp)]
          simp

theorem exists_alternativeNodes {parts : List (List Piece)}
    (own : ∀ part ∈ parts, ∀ piece ∈ part, piece.node?.isSome = true) :
    ∃ nodes, List.Forall₂ Patterned parts nodes := by
  induction parts with
  | nil => exact ⟨[], .nil⟩
  | cons first others inductionHypothesis =>
      rcases List.forall_mem_cons.mp own with ⟨here, later⟩
      rcases exists_nodes here with ⟨nodes, are⟩
      rcases inductionHypothesis later with ⟨others, theirs⟩
      exact ⟨nodes :: others, .cons are theirs⟩

theorem isRegular_alternatives {parts : List (List Piece)} {nodes : List (List Node)}
    (own : List.Forall₂ Patterned parts nodes) : ∀ node ∈ nodes.map Node.seq, node.IsRegular := by
  induction own with
  | nil => simp
  | cons first _ inductionHypothesis =>
      exact List.forall_mem_cons.mpr
        ⟨Node.isRegular_seq (isRegular_of_mem first), inductionHypothesis⟩

/-- The choice between alternatives spells what the pieces of one of them read. -/
theorem spells_alternatives {parts : List (List Piece)} {nodes : List (List Node)}
    (own : List.Forall₂ Patterned parts nodes) (text : Text) :
    (Node.choice (nodes.map Node.seq)).Spells text ↔ ∃ part ∈ parts, ReadsAll part text := by
  rw [Node.spells_choice]
  induction own with
  | nil => simp
  | cons first _ inductionHypothesis =>
      rw [List.map_cons, List.exists_mem_cons_iff, List.exists_mem_cons_iff, inductionHypothesis,
        spells_seq first]

/-- Pieces in front of alternatives, the alternatives, and pieces behind them have a pattern
together, which matches what they read one after the other. -/
theorem assembled_matchesAll {front back : List Piece} {parts : List (List Piece)}
    (frontOwn : ∀ piece ∈ front, piece.node?.isSome = true)
    (backOwn : ∀ piece ∈ back, piece.node?.isSome = true)
    (own : ∀ part ∈ parts, ∀ piece ∈ part, piece.node?.isSome = true) (nonempty : parts ≠ []) :
    ∃ node, assemble {} [] (front ++ .openBrace ::
        (List.intercalate [.bar] parts ++ .closeBrace :: back)) = some node ∧
      ∀ text, node.matchesAll text = true ↔
        ∃ left middle right, text = left ++ (middle ++ right) ∧ ReadsAll front left ∧
          (∃ part ∈ parts, ReadsAll part middle) ∧ ReadsAll back right := by
  rcases exists_nodes frontOwn with ⟨frontNodes, frontAre⟩
  rcases exists_nodes backOwn with ⟨backNodes, backAre⟩
  rcases exists_alternativeNodes own with ⟨nodes, are⟩
  let choice := Node.choice (nodes.map Node.seq)
  refine ⟨Node.seq (frontNodes ++ choice :: backNodes), ?_, fun text => ?_⟩
  · rw [assemble_append frontAre, assemble, assemble_alternatives are nonempty,
      ← List.append_nil back, assemble_append backAre]
    simp [assemble, Level.push, Level.node, Node.choice, choice]
  · have choiceRegular : choice.IsRegular := Node.isRegular_choice (isRegular_alternatives are)
    have regular : ∀ node ∈ frontNodes ++ choice :: backNodes, node.IsRegular := by
      rw [List.forall_mem_append, List.forall_mem_cons]
      exact ⟨isRegular_of_mem frontAre, choiceRegular, isRegular_of_mem backAre⟩
    rw [Node.matchesAll_iff_spells (Node.isRegular_seq regular)]
    simp only [Node.spells_seq_append, Node.spells_seq_cons, spells_seq frontAre,
      spells_seq backAre, spells_alternatives are, choice]
    constructor
    · rintro ⟨left, _, rfl, first, middle, right, rfl, chosen, last⟩
      exact ⟨left, middle, right, rfl, first, chosen, last⟩
    · rintro ⟨left, middle, right, rfl, first, chosen, last⟩
      exact ⟨left, _, rfl, first, middle, right, rfl, chosen, last⟩

/-! ## Cutting alternatives -/

/-- Alternatives in front of a text fall into parts that bars separate, which read what the
alternatives read that are cut star by star. -/
structure Parted (before : Option Char) (alternatives : List Text) (back : Text)
    (parts : List (List Piece)) : Prop where
  nonempty : parts ≠ []
  own : ∀ part ∈ parts, ∀ piece ∈ part, piece.node?.isSome = true
  cut : piecesFrom 1 before 0 (List.intercalate [','] alternatives ++ '\x7d' :: back) =
    List.intercalate [.bar] parts ++ .closeBrace :: piecesFrom 0 (some '\x7d') 0 back
  reads : ∀ text, (∃ part ∈ parts, ReadsAll part text) ↔
    ∃ alternative ∈ alternatives, ReadsAll (starwise false false alternative) text

theorem exists_parted {alternatives : List Text} (nonempty : alternatives ≠ [])
    (free : ∀ alternative ∈ alternatives, isFree (specialAt 1) alternative = true)
    {before : Option Char} (inside : before.all (· == '/') = false) (back : Text) :
    ∃ parts, Parted before alternatives back parts := by
  induction alternatives generalizing before with
  | nil => exact absurd rfl nonempty
  | cons first others inductionHypothesis =>
      rcases List.forall_mem_cons.mp free with ⟨firstFree, othersFree⟩
      cases others with
      | nil =>
          have ends : IsPartEnd ('\x7d' :: back) := by simp [IsPartEnd]
          rcases exists_falls ends first before firstFree with ⟨part, last, falls⟩
          refine ⟨[part], by simp, List.forall_mem_singleton.mpr falls.own, ?_, ?_⟩
          · rw [List.intercalate_singleton, List.intercalate_singleton, falls.cut]
            simp [piecesFrom]
          · simpa [inside] using falls.reads
      | cons second more =>
          let others := List.intercalate [','] (second :: more) ++ '\x7d' :: back
          have ends : IsPartEnd (',' :: others) := by simp [IsPartEnd]
          rcases exists_falls ends first before firstFree with ⟨part, last, falls⟩
          have within : (some ',').all (· == '/') = false := rfl
          rcases inductionHypothesis (by simp) othersFree within with ⟨parts, later⟩
          refine ⟨part :: parts, by simp, List.forall_mem_cons.mpr ⟨falls.own, later.own⟩, ?_, ?_⟩
          · have bar : piecesFrom 1 last 0 (',' :: others) =
                .bar :: piecesFrom 1 (some ',') 0 others := by
              simp [piecesFrom]
            rw [List.intercalate_cons_cons, List.intercalate_cons_of_ne_nil later.nonempty]
            simp only [List.append_assoc, List.cons_append, List.nil_append]
            rw [falls.cut, bar, later.cut]
          · intro text
            rw [List.exists_mem_cons_iff, List.exists_mem_cons_iff, later.reads, falls.reads]
            simp [inside]

/-! ## The closing brace -/

/-- Alternatives in braces, without the opening one. -/
def enclosed (alternatives : List Text) (back : Text) : Text :=
  List.intercalate [','] alternatives ++ '\x7d' :: back

/-- Where no brace opens, the first closing brace closes. -/
theorem closesBrace_of_notMem {text : Text} (noOpen : '\x7b' ∉ text) (back : Text) :
    closesBrace 0 (text ++ '\x7d' :: back) = true := by
  induction text with
  | nil => rfl
  | cons c rest inductionHypothesis =>
      rw [List.mem_cons, not_or] at noOpen
      rw [List.cons_append, closesBrace, if_neg (Ne.symm noOpen.1)]
      split
      · rfl
      · exact inductionHypothesis noOpen.2

/-! ## Globs with and without alternatives -/

/-- A glob in which nothing special stands is usable, and its pieces read what it matches. -/
theorem matchesWhole_free {glob : Text} (free : isFree (specialAt 0) glob = true) :
    (pattern? glob).isSome = true ∧
      ∀ text, MatchesWhole glob text ↔ ReadsAll (starwise true true glob) text := by
  rcases exists_falls isPartEnd_nil glob none free with ⟨whole, last, falls⟩
  have cut : pieces glob = whole := falls.cut_nil
  rcases matchesWhole_of_own (cut ▸ falls.own) with ⟨usable, matched⟩
  refine ⟨usable, fun text => ?_⟩
  rw [matched, cut]
  exact falls.reads text

/-- A glob with alternatives matches what its parts read one after the other. -/
theorem matchesWhole_alternatives {front back : Text} {alternatives : List Text}
    (frontFree : isFree (specialAt 0) front = true) (backFree : isFree (specialAt 0) back = true)
    (nonempty : alternatives ≠ [])
    (free : ∀ alternative ∈ alternatives, isFree (specialAt 1) alternative = true)
    (closed : closesBrace 0 (enclosed alternatives back) = true) :
    (pattern? (front ++ '\x7b' :: enclosed alternatives back)).isSome = true ∧
      ∀ text, MatchesWhole (front ++ '\x7b' :: enclosed alternatives back) text ↔
        ∃ left middle right, text = left ++ (middle ++ right) ∧
          ReadsAll (starwise false true front) left ∧
          (∃ alternative ∈ alternatives, ReadsAll (starwise false false alternative) middle) ∧
          ReadsAll (starwise true false back) right := by
  have ends : IsPartEnd ('\x7b' :: enclosed alternatives back) := by simp [IsPartEnd]
  rcases exists_falls ends front none frontFree with ⟨frontPieces, last, frontFalls⟩
  rcases exists_falls isPartEnd_nil back (some '\x7d') backFree with ⟨backPieces, _, backFalls⟩
  rcases exists_parted nonempty free (rfl : (some '\x7b').all (· == '/') = false) back
    with ⟨parts, parted⟩
  have opening : piecesFrom 0 last 0 ('\x7b' :: enclosed alternatives back) =
      .openBrace :: piecesFrom 1 (some '\x7b') 0 (enclosed alternatives back) := by
    simp [piecesFrom, closed]
  have cut : pieces (front ++ '\x7b' :: enclosed alternatives back) =
      frontPieces ++ .openBrace ::
        (List.intercalate [.bar] parts ++ .closeBrace :: backPieces) := by
    rw [pieces, frontFalls.cut, opening, enclosed, parted.cut, backFalls.cut_nil]
  rcases assembled_matchesAll frontFalls.own backFalls.own parted.own parted.nonempty
    with ⟨node, usable, matchesAll⟩
  rw [← cut, ← pattern?] at usable
  refine ⟨by rw [usable]; rfl, fun text => ?_⟩
  simp only [MatchesWhole, usable, Option.some.injEq, exists_eq_left', matchesAll, parted.reads,
    frontFalls.reads, backFalls.reads]
  rfl

/-- A brace that is not closed stands for itself, as if a backslash stood before it. -/
theorem matchesWhole_unclosed {front rest : Text} (frontFree : isFree (specialAt 0) front = true)
    (restFree : isFree (specialAt 0) rest = true) (unclosed : closesBrace 0 rest = false) :
    (pattern? (front ++ '\x7b' :: rest)).isSome = true ∧
      ∀ text, MatchesWhole (front ++ '\x7b' :: rest) text ↔
        MatchesWhole (front ++ '\\' :: '\x7b' :: rest) text := by
  have ends : IsPartEnd ('\x7b' :: rest) := by simp [IsPartEnd]
  rcases exists_falls ends front none frontFree with ⟨frontPieces, last, frontFalls⟩
  rcases exists_falls isPartEnd_nil rest (some '\x7b') restFree with ⟨restPieces, _, restFalls⟩
  have literal : piecesFrom 0 last 0 ('\x7b' :: rest) =
      .literal '\x7b' :: piecesFrom 0 (some '\x7b') 0 rest := by
    simp [piecesFrom, unclosed]
  have cut : pieces (front ++ '\x7b' :: rest) = frontPieces ++ .literal '\x7b' :: restPieces := by
    rw [pieces, frontFalls.cut, literal, restFalls.cut_nil]
  have own : ∀ piece ∈ pieces (front ++ '\x7b' :: rest), piece.node?.isSome = true := by
    rw [cut, List.forall_mem_append, List.forall_mem_cons]
    exact ⟨frontFalls.own, rfl, restFalls.own⟩
  rcases matchesWhole_of_own own with ⟨usable, matched⟩
  refine ⟨usable, fun text => ?_⟩
  have escapedFree : isFree (specialAt 0) ('\\' :: '\x7b' :: rest) = true := restFree
  have apart : Apart true front ('\\' :: '\x7b' :: rest) := by
    intro _ same
    have member : '\\' ∈ anySegments := by
      rw [← same]
      exact List.mem_append_right _ (by simp [firstSegment])
    simp [anySegments] at member
  rw [(matchesWhole_free (isFree_append frontFree escapedFree)).2,
    starwise_append (isFree_nil frontFree) (isFree_nil escapedFree) apart, starwise_escaped,
    matched, cut]
  simp only [readsAll_append, readsAll_literal, frontFalls.reads, restFalls.reads]
  rfl

/-! ## Braced and expanded globs -/

/-- In the glob that an alternative expands to, no segment of two stars touches a brace. -/
structure Seamless (front alternative back : Text) : Prop where
  opening : baseName front ++ firstSegment (alternative ++ back) ≠ anySegments
  closing : baseName (front ++ alternative) ++ firstSegment back ≠ anySegments

theorem baseName_append {front back : Text} (slash : '/' ∈ back) :
    baseName (front ++ back) = baseName back := by
  induction front with
  | nil => rfl
  | cons c rest inductionHypothesis =>
      rw [List.cons_append, baseName_cons (Or.inr (List.mem_append_right _ slash)),
        inductionHypothesis]

/-- An alternative that fits in without a seam is read between its neighbours. -/
theorem Seamless.starwise_eq {front alternative back : Text}
    (seamless : Seamless front alternative back) (frontFree : isFree [] front = true)
    (free : isFree [] alternative = true) (backFree : isFree [] back = true) :
    starwise true true (front ++ (alternative ++ back)) =
      starwise false true front ++
        (starwise false false alternative ++ starwise true false back) := by
  have frontApart : Apart true front (alternative ++ back) := fun _ => seamless.opening
  have backApart : Apart false alternative back := by
    intro slash
    rw [← @baseName_append front alternative (slash.resolve_left (by simp))]
    exact seamless.closing
  rw [starwise_append frontFree (isFree_append free backFree) frontApart,
    starwise_append free backFree backApart]

theorem isFree_intercalate {special : List Char} (noComma : ',' ∉ special)
    {alternatives : List Text}
    (free : ∀ alternative ∈ alternatives, isFree special alternative = true) :
    isFree special (List.intercalate [','] alternatives) = true := by
  induction alternatives with
  | nil => rfl
  | cons first others inductionHypothesis =>
      rcases List.forall_mem_cons.mp free with ⟨firstFree, othersFree⟩
      cases others with
      | nil => rwa [List.intercalate_singleton]
      | cons second more =>
          rw [List.intercalate_cons_cons, List.append_assoc]
          apply isFree_append firstFree
          exact (isFree_cons (by decide) _).mpr ⟨noComma, inductionHypothesis othersFree⟩

/-! ## Braced and expanded globs together -/

/-- A text in which every backslash has a character behind it, and brackets, braces and commas
have a backslash in front. -/
def IsAlternative (text : Text) : Prop :=
  isFree ['[', ']', '\x7b', '\x7d', ','] text = true

/-- A text without backslashes, brackets and braces. -/
def IsBare (text : Text) : Prop :=
  ∀ c ∈ text, c ∉ ['\\', '[', ']', '\x7b', '\x7d']

instance (text : Text) : Decidable (IsAlternative text) :=
  inferInstanceAs (Decidable (_ = _))

instance (text : Text) : Decidable (IsBare text) :=
  List.decidableBAll _ text

theorem IsAlternative.isFree {text : Text} (alternative : IsAlternative text) (depth : Nat) :
    isFree (specialAt depth) text = true := by
  apply isFree_mono _ alternative
  intro c member
  rw [specialAt] at member
  split at member
  · simp only [List.mem_cons, List.not_mem_nil, or_false] at member
    rcases member with rfl | rfl <;> simp
  · simp only [List.mem_cons, List.not_mem_nil, or_false] at member
    rcases member with rfl | rfl | rfl | rfl <;> simp

theorem IsBare.isFree {text : Text} (bare : IsBare text) : isFree (specialAt 0) text = true := by
  apply isFree_of_forall
  intro c member
  have other := bare c member
  simp only [List.mem_cons, List.not_mem_nil, or_false, not_or] at other
  simp [specialAt, other]

/-- A glob with alternatives in braces. -/
def braced (front : Text) (alternatives : List Text) (back : Text) : Text :=
  front ++ '\x7b' :: enclosed alternatives back

/-- The glob that an alternative in braces expands to. -/
def expanded (front back alternative : Text) : Text :=
  front ++ (alternative ++ back)

section Braced

variable {front back : Text} {alternatives : List Text}

/-- What the globs match that the alternatives expand to. -/
theorem matchesWhole_expanded (frontBare : IsBare front) (backBare : IsBare back)
    {alternative : Text} (own : IsAlternative alternative) :
    (pattern? (expanded front back alternative)).isSome = true ∧
      ∀ text, MatchesWhole (expanded front back alternative) text ↔
        ReadsAll (starwise true true (expanded front back alternative)) text :=
  matchesWhole_free
    (isFree_append frontBare.isFree (isFree_append (own.isFree _) backBare.isFree))

/-- A line that a glob with alternatives matches is matched by a glob that it expands to. -/
theorem exists_matchesWhole_expanded (frontBare : IsBare front) (backBare : IsBare back)
    (nonempty : alternatives ≠ []) (own : ∀ alternative ∈ alternatives, IsAlternative alternative)
    (closed : closesBrace 0 (enclosed alternatives back) = true) {text : Text}
    (oneLine : '\n' ∉ text) (matched : MatchesWhole (braced front alternatives back) text) :
    ∃ alternative ∈ alternatives, MatchesWhole (expanded front back alternative) text := by
  have inside : ∀ alternative ∈ alternatives, isFree (specialAt 1) alternative = true :=
    fun alternative listed => (own alternative listed).isFree _
  have parts :=
    (matchesWhole_alternatives frontBare.isFree backBare.isFree nonempty inside closed).2
  rcases (parts text).mp matched with
    ⟨left, middle, right, rfl, first, ⟨alternative, listed, second⟩, third⟩
  refine ⟨alternative, listed,
    ((matchesWhole_expanded frontBare backBare (own alternative listed)).2 _).mpr ?_⟩
  have free : isFree [] alternative = true := isFree_nil (own alternative listed)
  have backFree := isFree_nil backBare.isFree
  have oneLineBehind : '\n' ∉ middle ++ right :=
    fun member => oneLine (List.mem_append_right _ member)
  have behind : ReadsAll (starwise true false (alternative ++ back)) (middle ++ right) :=
    readsAll_starwise_append free backFree second third oneLineBehind
  exact readsAll_starwise_append (isFree_nil frontBare.isFree) (isFree_append free backFree)
    first behind oneLine

/-- Where no alternative has a seam, a glob with alternatives matches what the globs match that
it expands to. -/
theorem matchesWhole_of_seamless (frontBare : IsBare front) (backBare : IsBare back)
    (nonempty : alternatives ≠ []) (own : ∀ alternative ∈ alternatives, IsAlternative alternative)
    (closed : closesBrace 0 (enclosed alternatives back) = true)
    (seamless : ∀ alternative ∈ alternatives, Seamless front alternative back) (text : Text) :
    MatchesWhole (braced front alternatives back) text ↔
      ∃ alternative ∈ alternatives, MatchesWhole (expanded front back alternative) text := by
  have inside : ∀ alternative ∈ alternatives, isFree (specialAt 1) alternative = true :=
    fun alternative listed => (own alternative listed).isFree _
  have parts :=
    (matchesWhole_alternatives frontBare.isFree backBare.isFree nonempty inside closed).2
  have whole (alternative : Text) (listed : alternative ∈ alternatives) :
      MatchesWhole (expanded front back alternative) text ↔
        ReadsAll (starwise false true front ++
          (starwise false false alternative ++ starwise true false back)) text := by
    rw [(matchesWhole_expanded frontBare backBare (own alternative listed)).2, expanded,
      (seamless alternative listed).starwise_eq (isFree_nil frontBare.isFree)
        (isFree_nil (own alternative listed)) (isFree_nil backBare.isFree)]
  rw [braced, parts]
  constructor
  · rintro ⟨left, middle, right, rfl, first, ⟨alternative, listed, second⟩, third⟩
    refine ⟨alternative, listed, (whole alternative listed).mpr ?_⟩
    exact readsAll_append.mpr
      ⟨left, _, rfl, first, readsAll_append.mpr ⟨middle, right, rfl, second, third⟩⟩
  · rintro ⟨alternative, listed, matched⟩
    rcases readsAll_append.mp ((whole alternative listed).mp matched) with
      ⟨left, _, rfl, first, others⟩
    rcases readsAll_append.mp others with ⟨middle, right, rfl, second, third⟩
    exact ⟨left, middle, right, rfl, first, ⟨alternative, listed, second⟩, third⟩

theorem isFree_enclosed (backBare : IsBare back)
    (own : ∀ alternative ∈ alternatives, IsAlternative alternative) :
    isFree (specialAt 0) (enclosed alternatives back) = true := by
  apply isFree_append
  · exact isFree_intercalate (by decide) fun alternative listed =>
      (own alternative listed).isFree _
  · exact (isFree_cons (by decide) back).mpr ⟨by decide, backBare.isFree⟩

/-- The closing brace is found if no alternative has an opening one. -/
theorem closesBrace_enclosed (noOpen : ∀ alternative ∈ alternatives, '\x7b' ∉ alternative)
    (back : Text) : closesBrace 0 (enclosed alternatives back) = true := by
  apply closesBrace_of_notMem
  intro member
  rcases Text.exists_of_mem_intercalate member with comma | ⟨alternative, listed, inside⟩
  · exact absurd comma (by decide)
  · exact noOpen alternative listed inside

/-- Braces mean alternatives, as far as their closing brace is found.  A glob with alternatives
in braces is usable, and so are the globs that it expands to.

If the closing brace is found, a line that the glob matches is matched by an expanded glob, and
the glob matches exactly what the expanded globs match if no segment of two stars touches a
brace in any of them.  The closing brace is found if the alternatives have no opening brace.
If it is not found, the opening brace stands for itself. -/
theorem matchesWhole_braced (frontBare : IsBare front) (backBare : IsBare back)
    (nonempty : alternatives ≠ []) (own : ∀ alternative ∈ alternatives, IsAlternative alternative) :
    (∀ glob ∈ braced front alternatives back :: alternatives.map (expanded front back),
      (pattern? glob).isSome = true) ∧
    ((∀ alternative ∈ alternatives, '\x7b' ∉ alternative) →
      closesBrace 0 (enclosed alternatives back) = true) ∧
    (closesBrace 0 (enclosed alternatives back) = true →
      (∀ text, '\n' ∉ text → MatchesWhole (braced front alternatives back) text →
        ∃ alternative ∈ alternatives, MatchesWhole (expanded front back alternative) text) ∧
      ((∀ alternative ∈ alternatives, Seamless front alternative back) →
        ∀ text, MatchesWhole (braced front alternatives back) text ↔
          ∃ alternative ∈ alternatives, MatchesWhole (expanded front back alternative) text)) ∧
    (closesBrace 0 (enclosed alternatives back) = false →
      ∀ text, MatchesWhole (braced front alternatives back) text ↔
        MatchesWhole (front ++ '\\' :: '\x7b' :: enclosed alternatives back) text) := by
  have unclosedWhole := matchesWhole_unclosed frontBare.isFree (isFree_enclosed backBare own)
  refine ⟨List.forall_mem_cons.mpr ⟨?_, List.forall_mem_map.mpr ?_⟩,
    fun noOpen => closesBrace_enclosed noOpen back, fun closed => ⟨?_, ?_⟩, fun unclosed => ?_⟩
  · cases closed : closesBrace 0 (enclosed alternatives back) with
    | true =>
        have inside : ∀ alternative ∈ alternatives, isFree (specialAt 1) alternative = true :=
          fun alternative listed => (own alternative listed).isFree _
        exact (matchesWhole_alternatives frontBare.isFree backBare.isFree nonempty inside closed).1
    | false => exact (unclosedWhole closed).1
  · intro alternative listed
    exact (matchesWhole_expanded frontBare backBare (own alternative listed)).1
  · intro text oneLine matched
    exact exists_matchesWhole_expanded frontBare backBare nonempty own closed oneLine matched
  · exact matchesWhole_of_seamless frontBare backBare nonempty own closed
  · exact (unclosedWhole unclosed).2

end Braced

/-- The glob `src/**/{*.py,\{x\}.md}` matches what `src/**/*.py` and `src/**/\{x\}.md` match. -/
theorem matchesWhole_braced_kinds :
    IsBare "src/**/".toList ∧
      (∀ alternative ∈ ["*.py".toList, "\\\x7bx\\\x7d.md".toList], IsAlternative alternative) ∧
      ∀ text, MatchesWhole "src/**/\x7b*.py,\\\x7bx\\\x7d.md\x7d".toList text ↔
        MatchesWhole "src/**/*.py".toList text ∨
          MatchesWhole "src/**/\\\x7bx\\\x7d.md".toList text := by
  have bare : IsBare "src/**/".toList := by decide +kernel
  have own : ∀ alternative ∈ ["*.py".toList, "\\\x7bx\\\x7d.md".toList],
      IsAlternative alternative := by decide +kernel
  have seamless : ∀ alternative ∈ ["*.py".toList, "\\\x7bx\\\x7d.md".toList],
      Seamless "src/**/".toList alternative [] := by
    intro alternative listed
    simp only [List.mem_cons, List.not_mem_nil, or_false] at listed
    rcases listed with rfl | rfl <;> constructor <;> decide +kernel
  have whole := matchesWhole_braced bare (by decide : IsBare []) (List.cons_ne_nil _ _) own
  refine ⟨bare, own, fun text => ?_⟩
  have same := (whole.2.2.1 (by decide +kernel)).2 seamless text
  simpa [braced, expanded, enclosed, List.intercalate] using same

/-- Two stars that fill a segment stay within theirs at the beginning of an alternative, and a
brace is not closed if an opening one stands behind a backslash in an alternative. -/
theorem matchesWhole_braced_seams :
    MatchesWhole "**/*.py".toList "src/app/main.py".toList ∧
      ¬ MatchesWhole "\x7b**/*.py,*.md\x7d".toList "src/app/main.py".toList ∧
      MatchesWhole "a.txt".toList "a.txt".toList ∧
      ¬ MatchesWhole "\x7ba,\\\x7b\x7d.txt".toList "a.txt".toList := by
  decide +kernel

end Glob
end Codemap
