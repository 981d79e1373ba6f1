import Codemap.Text.Basic
import Mathlib.Data.List.Basic
import Mathlib.Data.List.Nodup

namespace Codemap

/-!
# Sorted lists of texts

Texts are ordered by their code points.  The order is total, transitive and
antisymmetric, so a list of texts has one sorted form: `Text.sort` depends only
on how often a text occurs, and `Text.sortedSet` only on which texts occur.  A list of which
the first copies are kept is ordered by where its elements first appear.
-/

/-! ## First copies -/

section FirstCopies

variable {α β : Type} [BEq α] [LawfulBEq α]

/-- A value whose first copy is kept before that of another stands before every copy of the
other. -/
theorem pairwise_eraseDups (values : List α) :
    values.eraseDups.Pairwise fun first second =>
      ∀ front back, values = front ++ second :: back → first ∈ front := by
  induction size : values.length using Nat.strongRecOn generalizing values with
  | ind n inductionHypothesis =>
      cases values with
      | nil => simp
      | cons value rest =>
          rw [List.eraseDups_cons]
          have another {kept : α} {front back : List α} (differs : kept ≠ value)
              (split : value :: rest = front ++ kept :: back) :
              ∃ between, front = value :: between ∧ rest = between ++ kept :: back :=
            (List.cons_eq_append_iff.mp split).resolve_left fun ⟨_, same⟩ =>
              differs (List.cons.inj same).1
          have differs (kept) (member : kept ∈ (rest.filter fun other => !other == value).eraseDups) :
              kept ≠ value := by
            simpa using (List.mem_filter.mp (List.mem_eraseDups.mp member)).2
          refine List.pairwise_cons.mpr ⟨fun kept member front back split => ?_, ?_⟩
          · obtain ⟨between, rfl, -⟩ := another (differs kept member) split
            exact List.mem_cons_self
          · have shorter : (rest.filter fun other => !other == value).length < n := by
              have bound := List.length_filter_le (fun other => !other == value) rest
              rw [← size, List.length_cons]
              omega
            refine (inductionHypothesis _ shorter _ rfl).imp_of_mem
              fun {first second} _ secondMember earlier front back split => ?_
            obtain ⟨between, rfl, rfl⟩ := another (differs second secondMember) split
            have inside := earlier (between.filter fun other => !other == value)
              (back.filter fun other => !other == value) (by
                rw [List.filter_append, List.filter_cons_of_pos]
                simpa using differs second secondMember)
            exact List.mem_cons_of_mem _ (List.mem_of_mem_filter inside)

/-- Keeping the first copy of each element leaves every element once. -/
theorem nodup_eraseDups (values : List α) : values.eraseDups.Nodup := by
  refine (pairwise_eraseDups values).imp_of_mem fun {first second} _ member earlier same => ?_
  obtain ⟨front, back, split, fresh⟩ := List.eq_append_cons_of_mem (List.mem_eraseDups.mp member)
  exact fresh (same ▸ earlier front back split)

/-- Where each of some sources has values, the sources of a value that is kept first come
before those of the others. -/
theorem pairwise_eraseDups_flatMap {order : β → β → Prop} (refl : ∀ source, order source source)
    (values : β → List α) {sources : List β} (ordered : sources.Pairwise order) :
    (sources.flatMap values).eraseDups.Pairwise fun first second =>
      ∀ later ∈ sources, second ∈ values later →
        ∃ earlier ∈ sources, first ∈ values earlier ∧ order earlier later := by
  refine (pairwise_eraseDups _).imp fun {first second} earlier later member yields => ?_
  obtain ⟨front, back, rfl⟩ := List.append_of_mem member
  obtain ⟨left, right, parts⟩ := List.append_of_mem yields
  have before : first ∈ front.flatMap values ++ left :=
    earlier _ (right ++ back.flatMap values) (by simp [parts])
  rcases List.mem_append.mp before with inside | inside
  · obtain ⟨source, listed, yielded⟩ := List.mem_flatMap.mp inside
    exact ⟨source, List.mem_append_left _ listed, yielded,
      (List.pairwise_append.mp ordered).2.2 source listed later List.mem_cons_self⟩
  · exact ⟨later, member, parts ▸ List.mem_append_left _ inside, refl later⟩

end FirstCopies

/-! ## Texts in order -/

namespace Text

theorem le_trans {first second third : Text} (lower : le first second = true)
    (upper : le second third = true) : le first third = true := by
  induction first generalizing second third with
  | nil => simp [le]
  | cons a left inductionHypothesis =>
      cases second with
      | nil => simp [le] at lower
      | cons b middle =>
          cases third with
          | nil => simp [le] at upper
          | cons c right =>
              simp only [le, Bool.or_eq_true, Bool.and_eq_true, decide_eq_true_eq,
                beq_iff_eq] at lower upper ⊢
              rcases lower with below | ⟨rfl, lower⟩
              · rcases upper with above | ⟨rfl, _⟩
                · exact Or.inl (UInt32.lt_trans below above)
                · exact Or.inl below
              · rcases upper with above | ⟨rfl, upper⟩
                · exact Or.inl above
                · exact Or.inr ⟨rfl, inductionHypothesis lower upper⟩

theorem le_antisymm {first second : Text} (lower : le first second = true)
    (upper : le second first = true) : first = second := by
  induction first generalizing second with
  | nil =>
      cases second with
      | nil => rfl
      | cons b right => simp [le] at upper
  | cons a left inductionHypothesis =>
      cases second with
      | nil => simp [le] at lower
      | cons b right =>
          simp only [le, Bool.or_eq_true, Bool.and_eq_true, decide_eq_true_eq,
            beq_iff_eq] at lower upper
          rcases lower with below | ⟨rfl, lower⟩
          · rcases upper with above | ⟨rfl, _⟩
            · exact absurd (UInt32.lt_trans below above) (UInt32.lt_irrefl _)
            · exact absurd below (UInt32.lt_irrefl _)
          · rcases upper with above | ⟨_, upper⟩
            · exact absurd above (UInt32.lt_irrefl _)
            · rw [inductionHypothesis lower upper]

/-- Each text comes strictly before all that follow it. -/
def Ascending (texts : List Text) : Prop :=
  texts.Pairwise fun a b => le a b = true ∧ a ≠ b

instance (texts : List Text) : Decidable (Ascending texts) :=
  inferInstanceAs (Decidable (texts.Pairwise fun a b => le a b = true ∧ a ≠ b))

/-- An ascending list is determined by its elements. -/
theorem Ascending.eq_of_mem_iff {left right : List Text} (leftAscends : Ascending left)
    (rightAscends : Ascending right) (same : ∀ text, text ∈ left ↔ text ∈ right) :
    left = right := by
  have leftOnce : left.Nodup := leftAscends.imp fun between => between.2
  have rightOnce : right.Nodup := rightAscends.imp fun between => between.2
  have permutation : left.Perm right := (List.perm_ext_iff_of_nodup leftOnce rightOnce).mpr same
  exact permutation.eq_of_pairwise
    (fun a b _ _ before after => le_antisymm before.1 after.1) leftAscends rightAscends

@[simp] theorem mem_sort {text : Text} {texts : List Text} : text ∈ sort texts ↔ text ∈ texts :=
  List.mem_mergeSort

/-- Whatever is sorted by a text of its own comes in the order of these texts. -/
theorem pairwise_mergeSort {α : Type} (textOf : α → Text) (values : List α) :
    (values.mergeSort fun a b => le (textOf a) (textOf b)).Pairwise fun a b =>
      le (textOf a) (textOf b) = true := by
  apply List.pairwise_mergeSort
  · exact fun _ _ _ => le_trans
  · exact fun a b => le_total (textOf a) (textOf b)

theorem pairwise_sort (texts : List Text) : (sort texts).Pairwise fun a b => le a b = true :=
  pairwise_mergeSort id texts

/-- Sorting forgets the order in which texts were given. -/
theorem sort_eq_of_perm {left right : List Text} (permutation : left.Perm right) :
    sort left = sort right := by
  have sorted : (sort left).Perm (sort right) :=
    (List.mergeSort_perm left le).trans (permutation.trans (List.mergeSort_perm right le).symm)
  exact sorted.eq_of_pairwise (fun a b _ _ => le_antisymm) (pairwise_sort left) (pairwise_sort right)

theorem perm_of_sort_eq {left right : List Text} (same : sort left = sort right) :
    left.Perm right := by
  have leftSorted : (sort left).Perm left := List.mergeSort_perm left le
  rw [same] at leftSorted
  exact leftSorted.symm.trans (List.mergeSort_perm right le)

@[simp] theorem mem_sortedSet {text : Text} {texts : List Text} :
    text ∈ sortedSet texts ↔ text ∈ texts := by
  rw [sortedSet, mem_sort, List.mem_eraseDups]

theorem ascending_sortedSet (texts : List Text) : Ascending (sortedSet texts) := by
  have once : (sortedSet texts).Nodup :=
    (List.mergeSort_perm texts.eraseDups le).nodup_iff.mpr (nodup_eraseDups texts)
  exact List.Pairwise.and (pairwise_sort texts.eraseDups) once

/-- A sorted set depends only on which texts it holds. -/
theorem sortedSet_eq_of_mem_iff {left right : List Text} (same : ∀ text, text ∈ left ↔ text ∈ right) :
    sortedSet left = sortedSet right :=
  (ascending_sortedSet left).eq_of_mem_iff (ascending_sortedSet right) fun text => by
    rw [mem_sortedSet, mem_sortedSet, same]

end Text
end Codemap
