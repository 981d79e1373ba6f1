import Codemap.Glob.Expression
import Codemap.Proofs.Pattern.Language

namespace Codemap
namespace Glob

/-!
# The texts of the pieces of a glob

A piece that is no bracket of alternatives has a pattern of its own, and a list of such
pieces has the sequence of their patterns.  These patterns are regular, so a list of
pieces reads a text exactly if the text falls into parts that the pieces read one by one.
-/

open Pattern

namespace Piece

/-- The pattern of a piece, unless it is a bracket of alternatives or an unusable class. -/
def node? : Piece → Option Node
  | .literal c => some (.char c)
  | .segmentRun => some (Node.many inSegment)
  | .segmentChar => some inSegment
  | .directories => some (Node.opt (.cat lineRun (.char '/')))
  | .everything => some lineRun
  | .charClass body => (charClass? body).map .oneOf
  | .openBrace | .bar | .closeBrace => none

/-- A piece reads a text. -/
inductive Reads : Piece → Text → Prop
  | literal (c : Char) : Reads (.literal c) [c]
  | segmentRun {text : Text} (inside : '/' ∉ text) : Reads .segmentRun text
  | segmentChar {c : Char} (inside : c ≠ '/') : Reads .segmentChar [c]
  | noDirectories : Reads .directories []
  | directories {text : Text} (oneLine : '\n' ∉ text) : Reads .directories (text ++ ['/'])
  | everything {text : Text} (oneLine : '\n' ∉ text) : Reads .everything text
  | charClass {body : Text} {cls : CharClass} {c : Char} (usable : charClass? body = some cls)
      (listed : cls.contains c = true) : Reads (.charClass body) [c]

/-- The pieces of a list read the parts of a text in their order. -/
inductive ReadsAll : List Piece → Text → Prop
  | nil : ReadsAll [] []
  | cons {piece : Piece} {pieces : List Piece} {left right : Text} (first : piece.Reads left)
      (others : ReadsAll pieces right) : ReadsAll (piece :: pieces) (left ++ right)

theorem readsAll_nil {text : Text} : ReadsAll [] text ↔ text = [] :=
  ⟨fun | .nil => rfl, fun nothing => nothing ▸ .nil⟩

theorem readsAll_cons {piece : Piece} {pieces : List Piece} {text : Text} :
    ReadsAll (piece :: pieces) text ↔
      ∃ left right, text = left ++ right ∧ piece.Reads left ∧ ReadsAll pieces right :=
  ⟨fun | .cons first others => ⟨_, _, rfl, first, others⟩,
    fun ⟨_, _, whole, first, others⟩ => whole ▸ .cons first others⟩

theorem readsAll_append {front back : List Piece} {text : Text} :
    ReadsAll (front ++ back) text ↔
      ∃ left right, text = left ++ right ∧ ReadsAll front left ∧ ReadsAll back right := by
  induction front generalizing text with
  | nil => simp [readsAll_nil]
  | cons first others inductionHypothesis =>
      simp only [List.cons_append, readsAll_cons, inductionHypothesis]
      constructor
      · rintro ⟨one, _, rfl, read, left, right, rfl, front, back⟩
        exact ⟨one ++ left, right, by simp, ⟨one, left, rfl, read, front⟩, back⟩
      · rintro ⟨_, right, rfl, ⟨one, left, rfl, read, front⟩, back⟩
        exact ⟨one, left ++ right, by simp, read, left, right, rfl, front, back⟩

theorem readsAll_literal {c : Char} {pieces : List Piece} {text : Text} :
    ReadsAll (.literal c :: pieces) text ↔ ∃ rest, text = c :: rest ∧ ReadsAll pieces rest := by
  rw [readsAll_cons]
  constructor
  · rintro ⟨_, rest, rfl, ⟨⟩, reads⟩
    exact ⟨rest, rfl, reads⟩
  · rintro ⟨rest, rfl, reads⟩
    exact ⟨[c], rest, rfl, .literal c, reads⟩

/-- Two runs read what one run reads. -/
theorem readsAll_run_run {pieces : List Piece} {text : Text} :
    ReadsAll (.segmentRun :: .segmentRun :: pieces) text ↔ ReadsAll (.segmentRun :: pieces) text := by
  simp only [readsAll_cons]
  constructor
  · rintro ⟨first, _, rfl, firstRun, second, others, rfl, secondRun, reads⟩
    cases firstRun with
    | segmentRun firstInside =>
        cases secondRun with
        | segmentRun secondInside =>
            refine ⟨first ++ second, others, (List.append_assoc ..).symm, .segmentRun ?_, reads⟩
            rw [List.mem_append, not_or]
            exact ⟨firstInside, secondInside⟩
  · rintro ⟨run, others, rfl, first, reads⟩
    exact ⟨[], _, rfl, .segmentRun List.not_mem_nil, run, others, rfl, first, reads⟩

end Piece

/-! ## The pattern of a piece -/

theorem contains_notChars_singleton (excluded c : Char) :
    (CharClass.notChars [excluded]).contains c = true ↔ c ≠ excluded := by
  have same : c.toNat < excluded.toNat ∨ excluded.toNat < c.toNat ↔ c ≠ excluded := by
    rw [← Nat.ne_iff_lt_or_gt, not_iff_not]
    exact ⟨fun equal => Char.ext (UInt32.toNat_inj.mp equal), fun equal => equal ▸ rfl⟩
  simp [CharClass.contains, CharClass.notChars, ClassItem.contains, same]

/-- A run of characters other than one of them. -/
theorem spells_many_noneOf {excluded : Char} {text : Text} :
    (Node.many (.oneOf (.notChars [excluded]))).Spells text ↔ excluded ∉ text := by
  rw [Node.spells_many_oneOf]
  constructor
  · intro each member
    exact (contains_notChars_singleton excluded excluded).mp (each excluded member) rfl
  · intro absent c member
    refine (contains_notChars_singleton excluded c).mpr ?_
    rintro rfl
    exact absent member

theorem isRegular_node {piece : Piece} {node : Node} (own : piece.node? = some node) :
    node.IsRegular := by
  cases piece with
  | charClass body =>
      obtain ⟨cls, -, rfl⟩ := Option.map_eq_some_iff.mp own
      trivial
  | openBrace | bar | closeBrace => cases own
  | literal | segmentRun | segmentChar | directories | everything =>
      cases own
      simp [Node.IsRegular, Node.many, Node.opt, lineRun, inSegment, Node.noneOf]

/-- The pattern of a piece spells the texts that the piece reads. -/
theorem spells_node {piece : Piece} {node : Node} (own : piece.node? = some node) (text : Text) :
    node.Spells text ↔ piece.Reads text := by
  cases piece with
  | literal c =>
      cases own
      rw [Node.spells_char]
      exact ⟨fun single => single ▸ .literal c, fun | .literal _ => rfl⟩
  | segmentRun =>
      cases own
      exact spells_many_noneOf.trans ⟨.segmentRun, fun | .segmentRun inside => inside⟩
  | segmentChar =>
      cases own
      rw [inSegment, Node.noneOf, Node.spells_oneOf]
      constructor
      · rintro ⟨c, rfl, other⟩
        exact .segmentChar ((contains_notChars_singleton '/' c).mp other)
      · intro read
        cases read with
        | segmentChar inside => exact ⟨_, rfl, (contains_notChars_singleton '/' _).mpr inside⟩
  | directories =>
      cases own
      rw [Node.spells_opt, Node.spells_cat]
      constructor
      · rintro (rfl | ⟨line, _, rfl, spelled, slash⟩)
        · exact .noDirectories
        · rw [Node.spells_char.mp slash]
          exact .directories (spells_many_noneOf.mp spelled)
      · rintro (_ | _ | _ | _ | oneLine | _ | _)
        · exact Or.inl rfl
        · exact Or.inr ⟨_, _, rfl, spells_many_noneOf.mpr oneLine, Node.spells_char.mpr rfl⟩
  | everything =>
      cases own
      exact spells_many_noneOf.trans ⟨.everything, fun | .everything oneLine => oneLine⟩
  | charClass body =>
      obtain ⟨cls, usable, rfl⟩ := Option.map_eq_some_iff.mp own
      rw [Node.spells_oneOf]
      constructor
      · rintro ⟨c, rfl, listed⟩
        exact .charClass usable listed
      · intro read
        cases read with
        | charClass same listed =>
            cases Option.some.inj (usable.symm.trans same)
            exact ⟨_, rfl, listed⟩
  | openBrace | bar | closeBrace => cases own

/-! ## The pattern of a list of pieces -/

/-- A piece with a pattern of its own is put into the alternative that is open. -/
theorem assemble_cons {piece : Piece} {node : Node} (own : piece.node? = some node) (level : Level)
    (outer : List Level) (others : List Piece) :
    assemble level outer (piece :: others) = assemble (level.push node) outer others := by
  cases piece with
  | charClass body =>
      obtain ⟨cls, usable, rfl⟩ := Option.map_eq_some_iff.mp own
      simp [assemble, usable]
  | openBrace | bar | closeBrace => cases own
  | literal | segmentRun | segmentChar | directories | everything =>
      cases own
      rfl

/-- Pieces have patterns of their own. -/
abbrev Patterned (pieces : List Piece) (nodes : List Node) : Prop :=
  List.Forall₂ (fun piece node => Piece.node? piece = some node) pieces nodes

/-- Pieces with patterns of their own are put into the alternative that is open. -/
theorem assemble_append {front : List Piece} {nodes : List Node} (own : Patterned front nodes)
    (level : Level) (outer : List Level) (back : List Piece) :
    assemble level outer (front ++ back) =
      assemble { level with current := nodes.reverse ++ level.current } outer back := by
  induction own generalizing level with
  | nil => rfl
  | cons first _ inductionHypothesis =>
      rw [List.cons_append, assemble_cons first, inductionHypothesis]
      simp [Level.push]

theorem isRegular_of_mem {pieces : List Piece} {nodes : List Node} (own : Patterned pieces nodes) :
    ∀ node ∈ nodes, node.IsRegular := by
  induction own with
  | nil => simp
  | cons first _ inductionHypothesis =>
      exact List.forall_mem_cons.mpr ⟨isRegular_node first, inductionHypothesis⟩

/-- The sequence of the patterns of some pieces spells the texts that the pieces read. -/
theorem spells_seq {pieces : List Piece} {nodes : List Node}
    (own : Patterned pieces nodes) (text : Text) :
    (Node.seq nodes).Spells text ↔ Piece.ReadsAll pieces text := by
  induction own generalizing text with
  | nil => exact Node.spells_empty.trans Piece.readsAll_nil.symm
  | cons first _ inductionHypothesis =>
      rw [Node.spells_seq_cons, Piece.readsAll_cons]
      simp only [spells_node first, inductionHypothesis]

theorem exists_nodes {pieces : List Piece} (own : ∀ piece ∈ pieces, piece.node?.isSome = true) :
    ∃ nodes, Patterned pieces nodes := by
  induction pieces with
  | nil => exact ⟨[], .nil⟩
  | cons first others inductionHypothesis =>
      obtain ⟨here, later⟩ := List.forall_mem_cons.mp own
      obtain ⟨node, is⟩ := Option.isSome_iff_exists.mp here
      obtain ⟨nodes, are⟩ := inductionHypothesis later
      exact ⟨node :: nodes, .cons is are⟩

/-- A glob whose pieces all have patterns of their own has a pattern, and this pattern
matches the texts that the pieces read. -/
theorem pattern?_matchesAll {glob : Text} (own : ∀ piece ∈ pieces glob, piece.node?.isSome = true) :
    ∃ node, pattern? glob = some node ∧
      ∀ text, node.matchesAll text = true ↔ Piece.ReadsAll (pieces glob) text := by
  obtain ⟨nodes, are⟩ := exists_nodes own
  refine ⟨Node.seq nodes, ?_, fun text => ?_⟩
  · rw [pattern?, ← List.append_nil (pieces glob), assemble_append are]
    simp [assemble, Level.node, Node.choice]
  · rw [Node.matchesAll_iff_spells (Node.isRegular_seq (isRegular_of_mem are)), spells_seq are]

/-! ## Matching a whole text -/

/-- A glob matches the whole of a text. -/
def MatchesWhole (glob text : Text) : Prop :=
  ∃ node, pattern? glob = some node ∧ node.matchesAll text = true

instance (glob text : Text) : Decidable (MatchesWhole glob text) :=
  match same : pattern? glob with
  | some node => decidable_of_iff (node.matchesAll text = true) (by simp [MatchesWhole, same])
  | none => .isFalse (by simp [MatchesWhole, same])

/-- A glob whose pieces all have patterns of their own is usable, and matches what its pieces
read. -/
theorem matchesWhole_of_own {glob : Text} (own : ∀ piece ∈ pieces glob, piece.node?.isSome = true) :
    (pattern? glob).isSome = true ∧
      ∀ text, MatchesWhole glob text ↔ Piece.ReadsAll (pieces glob) text := by
  rcases pattern?_matchesAll own with ⟨node, usable, matchesAll⟩
  refine ⟨by rw [usable]; rfl, fun text => ?_⟩
  simp only [MatchesWhole, usable, Option.some.injEq, exists_eq_left', matchesAll]

/-- The pieces of a usable glob without alternatives have patterns of their own. -/
theorem own_of_assemble {level : Level} {outer : List Level} {pieces : List Piece} {node : Node}
    (flat : ∀ piece ∈ pieces, piece ∉ [Piece.openBrace, .bar, .closeBrace])
    (usable : assemble level outer pieces = some node) :
    ∀ piece ∈ pieces, piece.node?.isSome = true := by
  induction pieces generalizing level with
  | nil => simp
  | cons piece others inductionHypothesis =>
      rcases List.forall_mem_cons.mp flat with ⟨here, later⟩
      have own : piece.node?.isSome = true := by
        cases piece with
        | charClass body =>
            rw [assemble] at usable
            split at usable
            · next same => simp [Piece.node?, same]
            · cases usable
        | openBrace | bar | closeBrace => simp at here
        | literal | segmentRun | segmentChar | directories | everything => rfl
      rcases Option.isSome_iff_exists.mp own with ⟨first, is⟩
      rw [assemble_cons is] at usable
      exact List.forall_mem_cons.mpr ⟨own, inductionHypothesis later usable⟩

end Glob
end Codemap
