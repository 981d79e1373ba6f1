import Codemap.Pattern.Match
import Mathlib.Data.List.Basic

namespace Codemap
namespace Pattern

/-!
# The texts of a regular pattern

A pattern that has only characters, classes, sequences, choices and greedy repetitions is
regular.  Such a pattern spells certain texts, whatever stands around them, and nothing
that was matched before matters to it.  Matching it with a continuation succeeds exactly
if the text at the position splits into a text that the pattern spells and a rest that the
continuation takes.  So backtracking loses no match: whatever order the possibilities are
tried in, one that lets the rest match is found.
-/

/-! ## Positions -/

/-- The position between two texts, the first one written backwards. -/
def Cursor.between (before after : Text) : Cursor :=
  ⟨before, after, after.length, (Cursor.start after).remaining_eq⟩

theorem Cursor.eq_between (cursor : Cursor) : cursor = .between cursor.before cursor.after := by
  obtain ⟨before, after, remaining, rfl⟩ := cursor
  rfl

@[simp] theorem Cursor.between_after (before after : Text) :
    (Cursor.between before after).after = after := rfl

@[simp] theorem Cursor.between_remaining (before after : Text) :
    (Cursor.between before after).remaining = after.length := rfl

@[simp] theorem Cursor.next?_nil (before : Text) : (Cursor.between before []).next? = none := rfl

@[simp] theorem Cursor.next?_cons (before : Text) (c : Char) (rest : Text) :
    (Cursor.between before (c :: rest)).next? = some (c, .between (c :: before) rest) := rfl

/-! ## Regular patterns and their texts -/

namespace Node

/-- A pattern without groups, anchors, assertions and other orders of repetition, whose
repetitions ask for no more passes than they allow. -/
def IsRegular : Node → Prop
  | .empty | .never | .char _ | .oneOf _ => True
  | .cat first second | .alt first second => first.IsRegular ∧ second.IsRegular
  | .rep body least most greed =>
      greed = .greedy ∧ (∀ greatest ∈ most, least ≤ greatest) ∧ body.IsRegular
  | _ => False

/-- A pattern spells a text.  A group spells what its body spells, and an anchor nothing. -/
inductive Spells : Node → Text → Prop
  | empty : Spells .empty []
  | char (c : Char) : Spells (.char c) [c]
  | oneOf {cls : CharClass} {c : Char} (listed : cls.contains c = true) : Spells (.oneOf cls) [c]
  | cat {first second : Node} {left right : Text} (leftSpelled : Spells first left)
      (rightSpelled : Spells second right) : Spells (.cat first second) (left ++ right)
  | first {first second : Node} {text : Text} (spelled : Spells first text) :
      Spells (.alt first second) text
  | second {first second : Node} {text : Text} (spelled : Spells second text) :
      Spells (.alt first second) text
  | rep {body : Node} {least : Nat} {most : Option Nat} {greed : Greed} (texts : List Text)
      (each : ∀ text ∈ texts, Spells body text) (enough : least ≤ texts.length)
      (bounded : ∀ greatest ∈ most, texts.length ≤ greatest) :
      Spells (.rep body least most greed) texts.flatten
  | group {index : Nat} {body : Node} {text : Text} (spelled : Spells body text) :
      Spells (.group index body) text
  | anchor (condition : Anchor) : Spells (.anchor condition) []

end Node

/-! ## Matching a regular pattern -/

/-- A matcher reads the texts with a property: it succeeds exactly if one of them stands at
the position and the rest matches after it. -/
def Reads (matcher : Matcher) (spelled : Text → Prop) : Prop :=
  ∀ (rest : Continuation) (before after : Text) (captures : List Capture),
    (matcher rest ⟨.between before after, captures⟩).isSome = true ↔
      ∃ read left, after = read ++ left ∧ spelled read ∧
        (rest ⟨.between (read.reverse ++ before) left, captures⟩).isSome = true

namespace Matcher

variable {body : Matcher} {spelled : Text → Prop}

theorem isSome_orElse (first : Option MatchState) (second : Unit → Option MatchState) :
    (orElse first second).isSome = true ↔ first.isSome = true ∨ (second ()).isSome = true := by
  cases first <;> simp [orElse]

/-- A fixed number of passes reads as many texts. -/
theorem isSome_exactly (reads : Reads body spelled) (rest : Continuation) (count : Nat)
    (before after : Text) (captures : List Capture) :
    (exactly body rest count ⟨.between before after, captures⟩).isSome = true ↔
      ∃ (texts : List Text) (left : Text), texts.length = count ∧ (∀ text ∈ texts, spelled text) ∧
        after = texts.flatten ++ left ∧
        (rest ⟨.between (texts.flatten.reverse ++ before) left, captures⟩).isSome = true := by
  induction count generalizing before after with
  | zero =>
      rw [exactly]
      constructor
      · intro matched
        exact ⟨[], after, rfl, fun text member => absurd member List.not_mem_nil, rfl, matched⟩
      · rintro ⟨texts, left, none, _, rfl, matched⟩
        rw [List.length_eq_zero_iff.mp none] at matched ⊢
        exact matched
  | succ count inductionHypothesis =>
      rw [exactly, reads]
      constructor
      · rintro ⟨read, left, rfl, first, matched⟩
        obtain ⟨texts, last, rfl, each, rfl, continued⟩ :=
          (inductionHypothesis (read.reverse ++ before) left).mp matched
        refine ⟨read :: texts, last, rfl, List.forall_mem_cons.mpr ⟨first, each⟩, by simp, ?_⟩
        simpa using continued
      · rintro ⟨texts, left, length, each, rfl, matched⟩
        obtain ⟨read, others, rfl⟩ := List.exists_cons_of_length_eq_add_one length
        obtain ⟨first, remaining⟩ := List.forall_mem_cons.mp each
        refine ⟨read, others.flatten ++ left, by simp, first, ?_⟩
        refine (inductionHypothesis _ _).mpr ⟨others, left, by simpa using length, remaining, rfl, ?_⟩
        simpa using matched

/-- A greedy loop reads texts that are not empty, at most as many as it has passes. -/
theorem isSome_greedyLoop (reads : Reads body spelled) (rest : Continuation) (passes : Nat)
    (before after : Text) (captures : List Capture) :
    (greedyLoop body rest passes ⟨.between before after, captures⟩).isSome = true ↔
      ∃ (texts : List Text) (left : Text), texts.length ≤ passes ∧ (∀ text ∈ texts, text ≠ [] ∧ spelled text) ∧
        after = texts.flatten ++ left ∧
        (rest ⟨.between (texts.flatten.reverse ++ before) left, captures⟩).isSome = true := by
  induction passes generalizing before after with
  | zero =>
      rw [greedyLoop]
      constructor
      · intro matched
        exact ⟨[], after, Nat.le_refl 0, fun text member => absurd member List.not_mem_nil, rfl,
          matched⟩
      · rintro ⟨texts, left, none, _, rfl, matched⟩
        rw [List.length_eq_zero_iff.mp (Nat.le_zero.mp none)] at matched ⊢
        exact matched
  | succ passes inductionHypothesis =>
      rw [greedyLoop, isSome_orElse, reads]
      constructor
      · rintro (⟨read, left, rfl, first, matched⟩ | matched)
        · by_cases nothing : read = []
          · subst nothing
            exact ⟨[], left, Nat.zero_le _, fun text member => absurd member List.not_mem_nil, rfl,
              by simpa using matched⟩
          · have shorter : left.length ≠ (read ++ left).length := by
              have positive := List.length_pos_iff.mpr nothing
              rw [List.length_append]
              omega
            rw [if_neg (by exact shorter)] at matched
            obtain ⟨texts, last, few, each, rfl, continued⟩ :=
              (inductionHypothesis (read.reverse ++ before) left).mp matched
            refine ⟨read :: texts, last, Nat.succ_le_succ few,
              List.forall_mem_cons.mpr ⟨⟨nothing, first⟩, each⟩, by simp, ?_⟩
            simpa using continued
        · exact ⟨[], after, Nat.zero_le _, fun text member => absurd member List.not_mem_nil, rfl,
            matched⟩
      · rintro ⟨texts, left, few, each, rfl, matched⟩
        cases texts with
        | nil => exact Or.inr (by simpa using matched)
        | cons read others =>
            left
            obtain ⟨⟨some, first⟩, remaining⟩ := List.forall_mem_cons.mp each
            refine ⟨read, others.flatten ++ left, by simp, first, ?_⟩
            have shorter : (others.flatten ++ left).length ≠ ((read :: others).flatten ++ left).length := by
              have positive := List.length_pos_iff.mpr some
              simp only [List.flatten_cons, List.length_append]
              omega
            rw [if_neg (by exact shorter)]
            refine (inductionHypothesis _ _).mpr
              ⟨others, left, Nat.le_of_succ_le_succ few, remaining, rfl, ?_⟩
            simpa using matched

end Matcher

/-- Texts that are not empty are at most as many as their characters. -/
theorem length_le_flatten {texts : List Text} (nonempty : ∀ text ∈ texts, text ≠ []) :
    texts.length ≤ texts.flatten.length := by
  induction texts with
  | nil => exact Nat.le_refl 0
  | cons first rest inductionHypothesis =>
      obtain ⟨some, others⟩ := List.forall_mem_cons.mp nonempty
      have positive := List.length_pos_iff.mpr some
      have later := inductionHypothesis others
      rw [List.length_cons, List.flatten_cons, List.length_append]
      omega

namespace Node

variable {node : Node}

/-- Leaving out the empty ones of some texts does not change what they are together. -/
theorem flatten_filter_nonempty (texts : List Text) :
    (texts.filter fun text => !text.isEmpty).flatten = texts.flatten := by
  induction texts with
  | nil => rfl
  | cons first rest inductionHypothesis => cases first <;> simpa using inductionHypothesis

/-- A greedy repetition reads what its body spells again and again. -/
theorem reads_rep {body : Node} (reads : Reads body.run body.Spells) {least : Nat}
    {most : Option Nat} (possible : ∀ greatest ∈ most, least ≤ greatest) :
    Reads (Node.run (.rep body least most .greedy)) (Node.Spells (.rep body least most .greedy)) := by
  intro rest before after captures
  rw [Node.run, Matcher.loop]
  dsimp only
  rw [Matcher.isSome_exactly reads]
  constructor
  · rintro ⟨first, left, rfl, firstEach, rfl, matched⟩
    obtain ⟨others, last, few, otherEach, rfl, continued⟩ :=
      (Matcher.isSome_greedyLoop reads _ _ _ _ _).mp matched
    refine ⟨(first ++ others).flatten, last, by simp, ?_, by simpa using continued⟩
    refine .rep (first ++ others) ?_ ?_ ?_
    · rw [List.forall_mem_append]
      exact ⟨firstEach, fun text member => (otherEach text member).2⟩
    · rw [List.length_append]
      omega
    · rintro greatest ⟨⟩
      have reachable := possible greatest rfl
      dsimp only at few
      rw [List.length_append]
      omega
  · rintro ⟨read, left, rfl, spelled, matched⟩
    cases spelled with
    | rep texts each enough bounded =>
        -- Passes that read nothing are left out, for the loop would stop at one.
        let others := (texts.drop least).filter fun text => !text.isEmpty
        have same : (texts.take least).flatten ++ others.flatten = texts.flatten := by
          rw [flatten_filter_nonempty, ← List.flatten_append, List.take_append_drop]
        have some : ∀ text ∈ others, text ≠ [] ∧ body.Spells text := by
          intro text member
          obtain ⟨later, nonempty⟩ := List.mem_filter.mp member
          exact ⟨by simpa using nonempty, each text (List.mem_of_mem_drop later)⟩
        have short := length_le_flatten fun text member => (some text member).1
        have few : others.length ≤ texts.length - least :=
          Nat.le_trans (List.length_filter_le _ _) (Nat.le_of_eq List.length_drop)
        refine ⟨texts.take least, others.flatten ++ left, List.length_take_of_le enough,
          fun text member => each text (List.mem_of_mem_take member), ?_, ?_⟩
        · rw [← List.append_assoc, same]
        · refine (Matcher.isSome_greedyLoop reads _ _ _ _ _).mpr ⟨others, left, ?_, some, rfl, ?_⟩
          · cases most with
            | none =>
                simp only [Cursor.between_remaining, List.length_append]
                omega
            | some greatest =>
                have atMost := bounded greatest rfl
                simp only [Cursor.between_remaining, List.length_append]
                omega
          · rw [← List.append_assoc, ← List.reverse_append, same]
            exact matched

/-- Every regular pattern reads the texts that it spells. -/
theorem reads_run {node : Node} (regular : node.IsRegular) : Reads node.run node.Spells := by
  induction node with
  | empty =>
      intro rest before after captures
      constructor
      · intro matched
        exact ⟨[], after, rfl, .empty, matched⟩
      · rintro ⟨_, left, rfl, ⟨⟩, matched⟩
        exact matched
  | never =>
      intro rest before after captures
      constructor
      · intro matched
        cases matched
      · rintro ⟨_, left, rfl, ⟨⟩, matched⟩
  | char expected =>
      intro rest before after captures
      constructor
      · intro matched
        cases after with
        | nil => cases matched
        | cons c left =>
            rw [Node.run, Cursor.next?_cons] at matched
            by_cases same : c = expected
            · subst same
              exact ⟨[c], left, rfl, .char c, by simpa using matched⟩
            · simp [same] at matched
      · rintro ⟨_, left, rfl, ⟨⟩, matched⟩
        simpa [Node.run] using matched
  | oneOf cls =>
      intro rest before after captures
      constructor
      · intro matched
        cases after with
        | nil => cases matched
        | cons c left =>
            rw [Node.run, Cursor.next?_cons] at matched
            by_cases listed : cls.contains c = true
            · exact ⟨[c], left, rfl, .oneOf listed, by simpa [listed] using matched⟩
            · simp [listed] at matched
      · rintro ⟨read, left, rfl, spelled, matched⟩
        cases spelled with
        | oneOf listed => simpa [Node.run, listed] using matched
  | cat first second firstReads secondReads =>
      intro rest before after captures
      rw [Node.run, firstReads regular.1]
      constructor
      · rintro ⟨read, left, rfl, spelled, matched⟩
        obtain ⟨others, last, rfl, later, continued⟩ := (secondReads regular.2 _ _ _ _).mp matched
        exact ⟨read ++ others, last, by simp, .cat spelled later, by simpa using continued⟩
      · rintro ⟨read, last, rfl, spelled, matched⟩
        cases spelled with
        | @cat _ _ left right spelled later =>
            exact ⟨left, right ++ last, by simp, spelled, (secondReads regular.2 _ _ _ _).mpr
              ⟨right, last, rfl, later, by simpa using matched⟩⟩
  | alt first second firstReads secondReads =>
      intro rest before after captures
      rw [Node.run, Matcher.isSome_orElse, firstReads regular.1, secondReads regular.2]
      constructor
      · rintro (⟨read, left, rfl, spelled, matched⟩ | ⟨read, left, rfl, spelled, matched⟩)
        · exact ⟨read, left, rfl, .first spelled, matched⟩
        · exact ⟨read, left, rfl, .second spelled, matched⟩
      · rintro ⟨read, left, rfl, spelled, matched⟩
        cases spelled with
        | first spelled => exact Or.inl ⟨read, left, rfl, spelled, matched⟩
        | second spelled => exact Or.inr ⟨read, left, rfl, spelled, matched⟩
  | rep body least most greed bodyReads =>
      obtain ⟨rfl, possible, bodyRegular⟩ := regular
      exact reads_rep (bodyReads bodyRegular) possible
  | group | anchor | sameAs | look | atomic | ifGroup => exact regular.elim

/-- A regular pattern matches exactly the texts that it spells. -/
theorem matchesAll_iff_spells {node : Node} (regular : node.IsRegular) (text : Text) :
    node.matchesAll text = true ↔ node.Spells text := by
  rw [Node.matchesAll]
  refine (reads_run regular _ [] text []).trans ?_
  constructor
  · rintro ⟨read, left, rfl, spelled, atEnd⟩
    have nothing : left = [] := by
      cases left with
      | nil => rfl
      | cons => simp at atEnd
    rwa [nothing, List.append_nil]
  · intro spelled
    exact ⟨text, [], by simp, spelled, by simp⟩

/-! ## Texts of built patterns -/

theorem spells_empty {text : Text} : Node.empty.Spells text ↔ text = [] :=
  ⟨fun | .empty => rfl, fun nothing => nothing ▸ .empty⟩

theorem spells_char {c : Char} {text : Text} : (Node.char c).Spells text ↔ text = [c] :=
  ⟨fun | .char c => rfl, fun single => single ▸ .char c⟩

theorem spells_oneOf {cls : CharClass} {text : Text} :
    (Node.oneOf cls).Spells text ↔ ∃ c, text = [c] ∧ cls.contains c = true :=
  ⟨fun | .oneOf listed => ⟨_, rfl, listed⟩, fun ⟨_, single, listed⟩ => single ▸ .oneOf listed⟩

theorem spells_cat {first second : Node} {text : Text} :
    (Node.cat first second).Spells text ↔
      ∃ left right, text = left ++ right ∧ first.Spells left ∧ second.Spells right :=
  ⟨fun | .cat left right => ⟨_, _, rfl, left, right⟩,
    fun ⟨_, _, whole, left, right⟩ => whole ▸ .cat left right⟩

/-- A sequence spells what its first pattern spells and then what the others spell. -/
theorem spells_seq_cons {first : Node} {others : List Node} {text : Text} :
    (Node.seq (first :: others)).Spells text ↔
      ∃ left right, text = left ++ right ∧ first.Spells left ∧ (Node.seq others).Spells right := by
  cases others with
  | nil => simp [Node.seq, spells_empty]
  | cons second more => exact spells_cat

/-- Two sequences one after the other spell what the one spells and then the other. -/
theorem spells_seq_append {front back : List Node} {text : Text} :
    (Node.seq (front ++ back)).Spells text ↔
      ∃ left right, text = left ++ right ∧ (Node.seq front).Spells left ∧
        (Node.seq back).Spells right := by
  induction front generalizing text with
  | nil => simp [Node.seq, spells_empty]
  | cons first others inductionHypothesis =>
      simp only [List.cons_append, spells_seq_cons, inductionHypothesis]
      constructor
      · rintro ⟨one, _, rfl, spelled, left, right, rfl, front, back⟩
        exact ⟨one ++ left, right, by simp, ⟨one, left, rfl, spelled, front⟩, back⟩
      · rintro ⟨_, right, rfl, ⟨one, left, rfl, spelled, front⟩, back⟩
        exact ⟨one, left ++ right, by simp, spelled, left, right, rfl, front, back⟩

/-- A choice spells what one of its patterns spells. -/
theorem spells_choice {nodes : List Node} {text : Text} :
    (Node.choice nodes).Spells text ↔ ∃ node ∈ nodes, node.Spells text := by
  induction nodes with
  | nil =>
      constructor
      · rintro ⟨⟩
      · rintro ⟨_, impossible, _⟩
        cases impossible
  | cons first others inductionHypothesis =>
      cases others with
      | nil => simp [Node.choice]
      | cons second more =>
          rw [List.exists_mem_cons_iff, ← inductionHypothesis]
          constructor
          · rintro (_ | _ | _ | _ | spelled | spelled)
            · exact Or.inl spelled
            · exact Or.inr spelled
          · rintro (spelled | spelled)
            · exact .first spelled
            · exact .second spelled

theorem isRegular_seq {nodes : List Node} (each : ∀ node ∈ nodes, node.IsRegular) :
    (Node.seq nodes).IsRegular := by
  induction nodes with
  | nil => trivial
  | cons first others inductionHypothesis =>
      rcases List.forall_mem_cons.mp each with ⟨here, later⟩
      cases others with
      | nil => exact here
      | cons => exact ⟨here, inductionHypothesis later⟩

theorem isRegular_choice {nodes : List Node} (each : ∀ node ∈ nodes, node.IsRegular) :
    (Node.choice nodes).IsRegular := by
  induction nodes with
  | nil => trivial
  | cons first others inductionHypothesis =>
      rcases List.forall_mem_cons.mp each with ⟨here, later⟩
      cases others with
      | nil => exact here
      | cons => exact ⟨here, inductionHypothesis later⟩

/-- A repeated class spells the texts of its characters. -/
theorem spells_many_oneOf {cls : CharClass} {text : Text} :
    (Node.many (.oneOf cls)).Spells text ↔ ∀ c ∈ text, cls.contains c = true := by
  constructor
  · rintro (_ | _ | _ | _ | _ | _ | ⟨texts, each, _, _⟩)
    intro c member
    obtain ⟨part, partOf, inside⟩ := List.mem_flatten.mp member
    obtain ⟨d, rfl, listed⟩ := spells_oneOf.mp (each part partOf)
    rwa [List.mem_singleton.mp inside]
  · intro listed
    have single : (text.map fun c => [c]).flatten = text := by
      rw [← List.flatMap_def, List.flatMap_singleton']
    rw [← single]
    refine .rep (text.map fun c => [c]) ?_ (Nat.zero_le _) (fun _ none => by cases none)
    intro part member
    obtain ⟨c, inside, rfl⟩ := List.mem_map.mp member
    exact .oneOf (listed c inside)

/-- An optional pattern spells what the pattern spells, and nothing. -/
theorem spells_opt {node : Node} {text : Text} :
    (Node.opt node).Spells text ↔ text = [] ∨ node.Spells text := by
  constructor
  · rintro (_ | _ | _ | _ | _ | _ | ⟨texts, each, _, bounded⟩)
    match texts, bounded 1 rfl with
    | [], _ => exact Or.inl rfl
    | [only], _ => exact Or.inr (by simpa using each only (List.mem_singleton_self only))
  · rintro (rfl | spelled)
    · exact .rep [] (fun _ member => absurd member List.not_mem_nil) (Nat.zero_le 0)
        (fun greatest _ => Nat.zero_le greatest)
    · rw [← List.flatten_singleton (l := text)]
      exact .rep [text] (List.forall_mem_singleton.mpr spelled) (Nat.zero_le _)
        (by rintro _ ⟨⟩; exact Nat.le_refl 1)

end Node
end Pattern
end Codemap
