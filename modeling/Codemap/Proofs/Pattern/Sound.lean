import Codemap.Proofs.Pattern.Language

namespace Codemap
namespace Pattern

/-!
# What a match has read

A pattern without assertions, references and possessive parts may have groups and anchors,
and may try its repetitions in either order.  Whether such a pattern matches depends on what
stands around a text.  But if it matches, it has read a text that it spells, and every group
holds a text that the body of this group spells.
-/

/-- The texts of all groups have a property that depends on the number of the group. -/
def Captured (property : Nat → Text → Prop) (captures : List Capture) : Prop :=
  ∀ capture ∈ captures, property capture.index (capture.first.upTo capture.last)

/-- A matcher that succeeds has read one of some texts, and the rest has matched after it.  The
property of the groups is kept. -/
def FindsOnly (property : Nat → Text → Prop) (matcher : Matcher) (spelled : Text → Prop) : Prop :=
  ∀ (rest : Continuation) (before after : Text) (captures : List Capture) (last : MatchState),
    Captured property captures →
      matcher rest ⟨.between before after, captures⟩ = some last →
        ∃ read left recorded, after = read ++ left ∧ spelled read ∧ Captured property recorded ∧
          rest ⟨.between (read.reverse ++ before) left, recorded⟩ = some last

namespace Node

/-- A pattern without assertions, references and possessive parts, whose repetitions ask for no
more passes than they allow, and the bodies of whose groups spell only texts with a property. -/
def Yields (property : Nat → Text → Prop) : Node → Prop
  | .empty | .never | .char _ | .oneOf _ | .anchor _ => True
  | .cat first second | .alt first second => first.Yields property ∧ second.Yields property
  | .rep body least most greed =>
      greed ≠ .possessive ∧ (∀ greatest ∈ most, least ≤ greatest) ∧ body.Yields property
  | .group index body => (∀ text, body.Spells text → property index text) ∧ body.Yields property
  | _ => False

end Node

namespace Matcher

variable {property : Nat → Text → Prop} {body : Matcher} {spelled : Text → Prop}

theorem eq_some_of_orElse {first : Option MatchState} {second : Unit → Option MatchState}
    {last : MatchState} (found : orElse first second = some last) :
    first = some last ∨ second () = some last := by
  cases first with
  | none => exact Or.inr found
  | some state => exact Or.inl found

/-- Some passes have read texts one after another. -/
def ReadsTexts (property : Nat → Text → Prop) (spelled : Text → Prop) (rest : Continuation)
    (before after : Text) (last : MatchState) (texts : List Text) : Prop :=
  (∀ text ∈ texts, spelled text) ∧ ∃ left recorded, after = texts.flatten ++ left ∧
    Captured property recorded ∧
    rest ⟨.between (texts.flatten.reverse ++ before) left, recorded⟩ = some last

variable {rest : Continuation} {before after : Text} {captures : List Capture} {last : MatchState}

/-- No pass reads nothing. -/
theorem readsTexts_nil (sound : Captured property captures)
    (found : rest ⟨.between before after, captures⟩ = some last) :
    ReadsTexts property spelled rest before after last [] :=
  ⟨fun _ member => absurd member List.not_mem_nil, after, captures, rfl, sound, found⟩

/-- A pass and further ones behind it. -/
theorem ReadsTexts.cons {read left : Text} {texts : List Text} (first : spelled read)
    (later : ReadsTexts property spelled rest (read.reverse ++ before) left last texts) :
    ReadsTexts property spelled rest before (read ++ left) last (read :: texts) := by
  obtain ⟨each, further, recorded, rfl, sound, found⟩ := later
  refine ⟨List.forall_mem_cons.mpr ⟨first, each⟩, further, recorded, by simp, sound, ?_⟩
  simpa using found

theorem readsTexts_exactly (finds : FindsOnly property body spelled) {count : Nat}
    (sound : Captured property captures)
    (found : exactly body rest count ⟨.between before after, captures⟩ = some last) :
    ∃ texts, texts.length = count ∧ ReadsTexts property spelled rest before after last texts := by
  induction count generalizing before after captures with
  | zero => exact ⟨[], rfl, readsTexts_nil sound found⟩
  | succ count inductionHypothesis =>
      obtain ⟨read, left, recorded, rfl, first, kept, found⟩ := finds _ _ _ _ _ sound found
      obtain ⟨texts, rfl, later⟩ := inductionHypothesis kept found
      exact ⟨read :: texts, rfl, later.cons first⟩

/-- A pass of a loop that read something, or ended it, and the loop behind it. -/
theorem readsTexts_pass (finds : FindsOnly property body spelled) {fuel remaining : Nat}
    {loop : Nat → MatchState → Option MatchState} (sound : Captured property captures)
    (onwards : ∀ before after captures, Captured property captures →
      loop fuel ⟨.between before after, captures⟩ = some last →
        ∃ texts, texts.length ≤ fuel ∧ ReadsTexts property spelled rest before after last texts)
    (found : body (fun later =>
      if later.cursor.remaining = remaining then rest later else loop fuel later)
        ⟨.between before after, captures⟩ = some last) :
    ∃ texts, texts.length ≤ fuel + 1 ∧ ReadsTexts property spelled rest before after last texts := by
  obtain ⟨read, left, recorded, rfl, first, kept, found⟩ := finds _ _ _ _ _ sound found
  split at found
  · exact ⟨[read], by simp, (readsTexts_nil kept found).cons first⟩
  · obtain ⟨texts, few, later⟩ := onwards _ _ _ kept found
    exact ⟨read :: texts, by simpa using few, later.cons first⟩

theorem readsTexts_greedyLoop (finds : FindsOnly property body spelled) {fuel : Nat}
    (sound : Captured property captures)
    (found : greedyLoop body rest fuel ⟨.between before after, captures⟩ = some last) :
    ∃ texts, texts.length ≤ fuel ∧ ReadsTexts property spelled rest before after last texts := by
  induction fuel generalizing before after captures with
  | zero => exact ⟨[], Nat.le_refl 0, readsTexts_nil sound found⟩
  | succ fuel inductionHypothesis =>
      rcases eq_some_of_orElse found with found | found
      · exact readsTexts_pass finds sound (fun _ _ _ => inductionHypothesis) found
      · exact ⟨[], Nat.zero_le _, readsTexts_nil sound found⟩

theorem readsTexts_lazyLoop (finds : FindsOnly property body spelled) {fuel : Nat}
    (sound : Captured property captures)
    (found : lazyLoop body rest fuel ⟨.between before after, captures⟩ = some last) :
    ∃ texts, texts.length ≤ fuel ∧ ReadsTexts property spelled rest before after last texts := by
  induction fuel generalizing before after captures with
  | zero => exact ⟨[], Nat.le_refl 0, readsTexts_nil sound found⟩
  | succ fuel inductionHypothesis =>
      rcases eq_some_of_orElse found with found | found
      · exact ⟨[], Nat.zero_le _, readsTexts_nil sound found⟩
      · exact readsTexts_pass finds sound (fun _ _ _ => inductionHypothesis) found

end Matcher

/-! ## Matching a pattern -/

namespace Node

variable {property : Nat → Text → Prop} {body node : Node}

/-- A repetition finds what its body spells again and again. -/
theorem findsOnly_rep (finds : FindsOnly property body.run body.Spells) {least : Nat}
    {most : Option Nat} {greed : Greed} (several : greed ≠ .possessive)
    (possible : ∀ greatest ∈ most, least ≤ greatest) :
    FindsOnly property (Node.run (.rep body least most greed))
      (Node.Spells (.rep body least most greed)) := by
  intro rest before after captures last sound found
  -- Either loop reads some further texts behind the least number, as many as it may.
  have further {loop : Nat → MatchState → Option MatchState}
      (loops : ∀ {fuel before after captures}, Captured property captures →
        loop fuel ⟨.between before after, captures⟩ = some last → ∃ texts, texts.length ≤ fuel ∧
          Matcher.ReadsTexts property body.Spells rest before after last texts)
      (found : Matcher.exactly body.run (fun here =>
        loop (most.elim (here.cursor.remaining + 1) fun most =>
          min (most - least) (here.cursor.remaining + 1)) here) least
            ⟨.between before after, captures⟩ = some last) :
      ∃ read left recorded, after = read ++ left ∧
        Node.Spells (.rep body least most greed) read ∧ Captured property recorded ∧
        rest ⟨.between (read.reverse ++ before) left, recorded⟩ = some last := by
    obtain ⟨texts, rfl, each, left, recorded, rfl, kept, found⟩ :=
      Matcher.readsTexts_exactly finds sound found
    obtain ⟨others, few, otherEach, further, finally', rfl, keptToo, found⟩ := loops kept found
    refine ⟨(texts ++ others).flatten, further, finally', by simp, ?_, keptToo, by
      simpa using found⟩
    refine .rep (texts ++ others) (List.forall_mem_append.mpr ⟨each, otherEach⟩) (by simp) ?_
    rintro greatest ⟨⟩
    have reachable := possible greatest rfl
    rw [Option.elim_some] at few
    rw [List.length_append]
    omega
  cases greed with
  | greedy => cases most <;> exact further (Matcher.readsTexts_greedyLoop finds) found
  | lazy => cases most <;> exact further (Matcher.readsTexts_lazyLoop finds) found
  | possessive => exact absurd rfl several

/-- A pattern finds only what it spells. -/
theorem findsOnly_run (yields : node.Yields property) :
    FindsOnly property node.run node.Spells := by
  induction node with
  | empty =>
      intro rest before after captures last sound found
      exact ⟨[], after, captures, rfl, .empty, sound, found⟩
  | never =>
      intro rest before after captures last sound found
      cases found
  | anchor condition =>
      intro rest before after captures last sound found
      obtain ⟨-, found⟩ := Option.ite_none_right_eq_some.mp found
      exact ⟨[], after, captures, rfl, .anchor condition, sound, found⟩
  | char expected =>
      intro rest before after captures last sound found
      cases after with
      | nil => cases found
      | cons c left =>
          rw [Node.run, Cursor.next?_cons] at found
          dsimp only at found
          obtain ⟨rfl, ended⟩ := Option.ite_none_right_eq_some.mp found
          exact ⟨[c], left, captures, rfl, .char c, sound, ended⟩
  | oneOf cls =>
      intro rest before after captures last sound found
      cases after with
      | nil => cases found
      | cons c left =>
          rw [Node.run, Cursor.next?_cons] at found
          dsimp only at found
          obtain ⟨listed, found⟩ := Option.ite_none_right_eq_some.mp found
          exact ⟨[c], left, captures, rfl, .oneOf listed, sound, found⟩
  | cat first second firstFinds secondFinds =>
      intro rest before after captures last sound found
      obtain ⟨read, left, recorded, rfl, spelled, kept, found⟩ :=
        firstFinds yields.1 _ _ _ _ _ sound found
      obtain ⟨others, further, final, rfl, later, keptToo, found⟩ :=
        secondFinds yields.2 _ _ _ _ _ kept found
      exact ⟨read ++ others, further, final, by simp, .cat spelled later, keptToo,
        by simpa using found⟩
  | alt first second firstFinds secondFinds =>
      intro rest before after captures last sound found
      rcases Matcher.eq_some_of_orElse found with found | found
      · obtain ⟨read, left, recorded, same, spelled, kept, found⟩ :=
          firstFinds yields.1 _ _ _ _ _ sound found
        exact ⟨read, left, recorded, same, .first spelled, kept, found⟩
      · obtain ⟨read, left, recorded, same, spelled, kept, found⟩ :=
          secondFinds yields.2 _ _ _ _ _ sound found
        exact ⟨read, left, recorded, same, .second spelled, kept, found⟩
  | rep body least most greed finds =>
      obtain ⟨several, possible, bodyYields⟩ := yields
      exact findsOnly_rep (finds bodyYields) several possible
  | group index body finds =>
      intro rest before after captures last sound found
      obtain ⟨read, left, recorded, rfl, spelled, kept, found⟩ :=
        finds yields.2 _ _ _ _ _ sound found
      refine ⟨read, left, _, rfl, .group spelled, ?_, found⟩
      refine List.forall_mem_cons.mpr ⟨?_, kept⟩
      have text : (Cursor.between before (read ++ left)).upTo
          (.between (read.reverse ++ before) left) = read := by
        simp [Cursor.upTo]
      dsimp only [MatchState.record]
      rw [text]
      exact yields.1 read spelled
  | sameAs | look | atomic | ifGroup => exact yields.elim

theorem yields_text (literal : Text) : (Node.text literal).Yields property := by
  induction literal with
  | nil => trivial
  | cons c rest inductionHypothesis =>
      cases rest with
      | nil => trivial
      | cons d more => exact ⟨trivial, inductionHypothesis⟩

theorem yields_words (literals : List String) : (words literals).Yields property := by
  induction literals with
  | nil => trivial
  | cons literal rest inductionHypothesis =>
      cases rest with
      | nil => exact yields_text literal.toList
      | cons other more => exact ⟨yields_text literal.toList, inductionHypothesis⟩

/-- What a group holds has the property of the texts of this group. -/
theorem property_of_group? {state : MatchState} (kept : Captured property state.captures)
    {index : Nat} {held : Text} (taken : state.group? index = some held) : property index held := by
  obtain ⟨capture, here, rfl⟩ := Option.map_eq_some_iff.mp taken
  have same := List.find?_some here
  rw [beq_iff_eq] at same
  exact same ▸ kept capture (List.mem_of_find?_eq_some here)

/-- What a match at the beginning of a text has read. -/
theorem spells_of_matchStart? (yields : node.Yields property) {text : Text} {found : Match}
    (matched : node.matchStart? text = some found) :
    node.Spells found.text ∧ found.text <+: text ∧
      ∀ index held, found.group? index = some held → property index held := by
  obtain ⟨last, ended, rfl⟩ := Option.map_eq_some_iff.mp matched
  obtain ⟨read, left, recorded, rfl, spelled, kept, same⟩ :=
    findsOnly_run yields some [] text [] last (fun _ member => absurd member List.not_mem_nil) ended
  cases same
  have whole : (Match.mk (.start (read ++ left)) ⟨.between (read.reverse ++ []) left, recorded⟩).text
      = read := by
    simp [Match.text, Cursor.upTo, Cursor.start]
  rw [whole]
  exact ⟨spelled, List.prefix_append read left, fun index held => property_of_group? kept⟩

/-! ## What all texts of a pattern have in common -/

/-- All texts that a pattern spells have a property. -/
def Gives (property : Text → Prop) (node : Node) : Prop :=
  ∀ text, node.Spells text → property text

section Gives

variable {holds early late : Text → Prop} {first second : Node} {others : List Node}

theorem Gives.imp (gives : body.Gives early) (weaker : ∀ text, early text → late text) :
    body.Gives late :=
  fun text spelled => weaker text (gives text spelled)

theorem gives_char {c : Char} (single : holds [c]) : (Node.char c).Gives holds :=
  fun _ spelled => spells_char.mp spelled ▸ single

theorem gives_oneOf {cls : CharClass} (single : ∀ c, cls.contains c = true → holds [c]) :
    (Node.oneOf cls).Gives holds := by
  intro text spelled
  obtain ⟨c, rfl, listed⟩ := spells_oneOf.mp spelled
  exact single c listed

theorem gives_cat (join : ∀ left right, early left → late right → holds (left ++ right))
    (left : first.Gives early) (right : second.Gives late) : (Node.cat first second).Gives holds := by
  intro text spelled
  obtain ⟨one, two, rfl, leftSpelled, rightSpelled⟩ := spells_cat.mp spelled
  exact join one two (left one leftSpelled) (right two rightSpelled)

theorem gives_alt (left : first.Gives holds) (right : second.Gives holds) :
    (Node.alt first second).Gives holds := by
  intro text spelled
  cases spelled with
  | first spelled => exact left text spelled
  | second spelled => exact right text spelled

theorem gives_group {index : Nat} (inner : body.Gives holds) : (Node.group index body).Gives holds := by
  intro text spelled
  cases spelled with
  | group spelled => exact inner text spelled

theorem gives_opt (nil : holds []) (inner : body.Gives holds) : (opt body).Gives holds := by
  intro text spelled
  rcases spells_opt.mp spelled with rfl | spelled
  · exact nil
  · exact inner text spelled

theorem gives_seq_cons (join : ∀ left right, early left → late right → holds (left ++ right))
    (left : first.Gives early) (right : (seq others).Gives late) :
    (seq (first :: others)).Gives holds := by
  intro text spelled
  obtain ⟨one, two, rfl, leftSpelled, rightSpelled⟩ := spells_seq_cons.mp spelled
  exact join one two (left one leftSpelled) (right two rightSpelled)

theorem gives_choice (each : ∀ node ∈ others, node.Gives holds) : (choice others).Gives holds := by
  induction others with
  | nil => exact fun text spelled => nomatch spelled
  | cons node rest inductionHypothesis =>
      obtain ⟨here, later⟩ := List.forall_mem_cons.mp each
      cases rest with
      | nil => exact here
      | cons second more => exact gives_alt here (inductionHypothesis later)

/-- A literal text spells itself only. -/
theorem eq_of_spells_text {literal text : Text} (spelled : (Node.text literal).Spells text) :
    text = literal := by
  induction literal generalizing text with
  | nil => exact spells_empty.mp spelled
  | cons c rest inductionHypothesis =>
      obtain ⟨one, others, rfl, first, later⟩ := spells_seq_cons.mp spelled
      rw [spells_char.mp first, inductionHypothesis later]
      rfl

theorem gives_text {literal : Text} (itself : holds literal) : (Node.text literal).Gives holds :=
  fun _ spelled => eq_of_spells_text spelled ▸ itself

theorem gives_words {literals : List String} (each : ∀ literal ∈ literals, holds literal.toList) :
    (words literals).Gives holds := by
  refine gives_choice fun node member => ?_
  obtain ⟨literal, listed, rfl⟩ := List.mem_map.mp member
  exact gives_text (each literal listed)

/-- A property that the empty text has, and two texts together if both have it. -/
structure Compositional (holds : Text → Prop) : Prop where
  nil : holds []
  append : ∀ left right, holds left → holds right → holds (left ++ right)

theorem gives_rep (compositional : Compositional holds) {least : Nat} {most : Option Nat}
    {greed : Greed} (inner : body.Gives holds) : (Node.rep body least most greed).Gives holds := by
  rintro text (_ | _ | _ | _ | _ | _ | ⟨texts, each, -, -⟩)
  induction texts with
  | nil => exact compositional.nil
  | cons text rest inductionHypothesis =>
      obtain ⟨here, later⟩ := List.forall_mem_cons.mp each
      exact compositional.append _ _ (inner text here) (inductionHypothesis later)

end Gives

end Node
end Pattern
end Codemap
