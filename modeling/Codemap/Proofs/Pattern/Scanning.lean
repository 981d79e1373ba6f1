import Codemap.Proofs.Pattern.Sound

namespace Codemap
namespace Pattern

/-!
# The matches in a text stand one behind another

A search for all matches goes on where the last match ended, or one character further if
that match read nothing.  So each match begins behind the beginnings of all matches before
it, for a match never ends before it begins.  The latter needs the patterns of
`Codemap.Proofs.Pattern.Sound`: an assertion may look backwards.
-/

@[simp] theorem Cursor.between_offset (before after : Text) :
    (Cursor.between before after).offset = before.length := rfl

namespace Match

/-- A match that begins at or behind a position between two texts, and ends no earlier than
it begins. -/
def LiesWithin (before after : Text) (found : Match) : Prop :=
  ∃ skipped read left, after = skipped ++ read ++ left ∧
    found.first = .between (skipped.reverse ++ before) (read ++ left) ∧
    found.last.cursor = .between (read.reverse ++ (skipped.reverse ++ before)) left

variable {before after : Text} {found : Match}

/-- A match behind some characters is one behind the position before them. -/
theorem LiesWithin.back (front : Text)
    (within : found.LiesWithin (front.reverse ++ before) after) :
    found.LiesWithin before (front ++ after) := by
  obtain ⟨skipped, read, left, rfl, first, last⟩ := within
  exact ⟨front ++ skipped, read, left, by simp, by simpa using first, by simpa using last⟩

theorem LiesWithin.le_offset (within : found.LiesWithin before after) :
    before.length ≤ found.offset := by
  obtain ⟨skipped, read, left, -, first, -⟩ := within
  rw [Match.offset, first, Cursor.between_offset, List.length_append]
  exact Nat.le_add_left _ _

/-- Matches that all begin at or behind a position, each behind those before it. -/
structure Onwards (position : Nat) (found : List Match) : Prop where
  behind : ∀ other ∈ found, position ≤ other.offset
  pairwise : found.Pairwise fun earlier later => earlier.offset < later.offset

theorem onwards_nil (position : Nat) : Onwards position [] :=
  ⟨fun _ member => absurd member List.not_mem_nil, .nil⟩

theorem Onwards.cons {position next : Nat} {later : List Match} (begins : position ≤ found.offset)
    (beyond : found.offset < next) (onwards : Onwards next later) :
    Onwards position (found :: later) := by
  have after (other) (member : other ∈ later) : found.offset < other.offset :=
    Nat.lt_of_lt_of_le beyond (onwards.behind other member)
  refine ⟨List.forall_mem_cons.mpr ⟨begins, fun other member => ?_⟩,
    List.pairwise_cons.mpr ⟨after, onwards.pairwise⟩⟩
  exact Nat.le_trans begins (Nat.le_of_lt (after other member))

end Match

namespace Node

variable {node : Node}

theorem liesWithin_of_matchAt? (yields : node.Yields fun _ _ => True) {before after : Text}
    {found : Match} (matched : node.matchAt? (.between before after) = some found) :
    found.LiesWithin before after := by
  obtain ⟨last, ended, rfl⟩ := Option.map_eq_some_iff.mp matched
  obtain ⟨read, left, recorded, rfl, -, -, same⟩ := findsOnly_run yields some before after [] last
    (fun _ member => absurd member List.not_mem_nil) ended
  cases same
  exact ⟨[], read, left, rfl, rfl, rfl⟩

theorem liesWithin_of_searchFrom? (yields : node.Yields fun _ _ => True) {fuel : Nat}
    {before after : Text} {found : Match}
    (searched : node.searchFrom? fuel (.between before after) = some found) :
    found.LiesWithin before after := by
  induction fuel generalizing before after with
  | zero => cases searched
  | succ fuel inductionHypothesis =>
      rw [searchFrom?] at searched
      split at searched
      · next here matched =>
          cases searched
          exact liesWithin_of_matchAt? yields matched
      · cases after with
        | nil => cases searched
        | cons c rest => exact Match.LiesWithin.back [c] (inductionHypothesis searched)

/-- All matches lie behind the position from which they are sought, each behind those that
were found before it. -/
theorem onwards_findAllFrom (yields : node.Yields fun _ _ => True) (fuel : Nat)
    (before after : Text) :
    Match.Onwards before.length (node.findAllFrom fuel (.between before after)) := by
  induction fuel generalizing before after with
  | zero => exact Match.onwards_nil _
  | succ fuel inductionHypothesis =>
      rw [findAllFrom]
      split
      · exact Match.onwards_nil _
      · next found searched =>
          have within := liesWithin_of_searchFrom? yields searched
          have onwards {front back : Text} (beyond : found.offset < front.length) :
              Match.Onwards before.length (found :: node.findAllFrom fuel (.between front back)) :=
            (inductionHypothesis front back).cons within.le_offset beyond
          obtain ⟨skipped, read, left, rfl, first, last⟩ := within
          have begins : found.offset = (skipped.reverse ++ before).length :=
            congrArg Cursor.offset first
          dsimp only
          rw [first, last]
          split
          · next shorter =>
              apply onwards
              simp only [Cursor.between_remaining, List.length_append] at shorter
              simp only [begins, List.length_append, List.length_reverse]
              omega
          · cases left with
            | nil =>
                refine (Match.onwards_nil (found.offset + 1)).cons ?_ (Nat.lt_succ_self _)
                simp [begins]
            | cons c rest =>
                apply onwards
                simp only [begins, List.length_cons, List.length_append, List.length_reverse]
                omega

/-- The matches in a text stand one behind another. -/
theorem pairwise_findAll (yields : node.Yields fun _ _ => True) (text : Text) :
    (node.findAll text).Pairwise fun earlier later => earlier.offset < later.offset :=
  (onwards_findAllFrom yields (text.length + 1) [] text).pairwise

/-! ## What the groups of all matches hold -/

theorem property_of_searchFrom? {property : Nat → Text → Prop} (yields : node.Yields property)
    {fuel : Nat} {cursor : Cursor} {found : Match}
    (searched : node.searchFrom? fuel cursor = some found) {index : Nat} {held : Text}
    (taken : found.group? index = some held) : property index held := by
  induction fuel generalizing cursor with
  | zero => cases searched
  | succ fuel inductionHypothesis =>
      rw [searchFrom?] at searched
      split at searched
      · next here matched =>
          cases searched
          obtain ⟨last, ended, rfl⟩ := Option.map_eq_some_iff.mp matched
          rw [cursor.eq_between] at ended
          obtain ⟨read, left, recorded, -, -, kept, same⟩ := findsOnly_run yields some _ _ [] last
            (fun _ member => absurd member List.not_mem_nil) ended
          cases same
          exact property_of_group? kept taken
      · split at searched
        · exact inductionHypothesis searched
        · cases searched

theorem property_of_mem_findAllFrom {property : Nat → Text → Prop} (yields : node.Yields property)
    {fuel : Nat} {cursor : Cursor} {found : Match} (member : found ∈ node.findAllFrom fuel cursor)
    {index : Nat} {held : Text} (taken : found.group? index = some held) : property index held := by
  induction fuel generalizing cursor with
  | zero => cases member
  | succ fuel inductionHypothesis =>
      rw [findAllFrom] at member
      split at member
      · cases member
      · next first searched =>
          have here : found = first → property index held := by
            rintro rfl
            exact property_of_searchFrom? yields searched taken
          dsimp only at member
          split at member
          · exact (List.mem_cons.mp member).elim here inductionHypothesis
          · split at member
            · exact (List.mem_cons.mp member).elim here inductionHypothesis
            · exact here (List.mem_singleton.mp member)

/-- The groups of every match in a text hold texts that their bodies spell. -/
theorem property_of_mem_findAll {property : Nat → Text → Prop} (yields : node.Yields property)
    {text : Text} {found : Match} (member : found ∈ node.findAll text) {index : Nat} {held : Text}
    (taken : found.group? index = some held) : property index held :=
  property_of_mem_findAllFrom yields member taken

end Node
end Pattern
end Codemap
