import Codemap.Proofs.Yaml.Sharing
import Codemap.Settings.Edit
import Mathlib.Data.List.Induction

namespace Codemap
namespace Edit

/-!
# Ways through a document

A key is a way through a document.  Two keys may write one way differently, because an item
of a list can be counted from either end and its position can be written with further zeros;
so ways are compared as the slots that their parts name.  Where a document ends, the parts
that remain name the entries that an edit would make.

What is found along a way depends on the objects that it meets.
-/

open Yaml

variable {document other : Document} {value child : Value} {part : Text} {parts more : List Text}
  {id : Nat}

/-- What a part of a key names. -/
inductive Slot where
  | entry (name : Text)
  | item (index : Nat)
deriving DecidableEq, Repr

/-- What a part names in a value. -/
def slot (document : Document) (value : Value) (part : Text) : Slot :=
  match container? document value with
  | some (_, .list items) =>
      match position? items.length part with
      | some index => .item index
      | none => .entry part
  | _ => .entry part

/-- What several parts name, beginning at a value. -/
def slots (document : Document) (value : Value) : List Text → List Slot
  | [] => []
  | part :: rest =>
      slot document value part ::
        match child? document value part with
        | some child => slots document child rest
        | none => rest.map .entry

/-- Neither of two ways continues the other. -/
def Apart (left right : List Slot) : Prop :=
  ¬ left <+: right ∧ ¬ right <+: left

/-! ## Containers and their children -/

theorem container?_eq_some {object : Object} (found : container? document value = some (id, object)) :
    value = .ref id ∧ document.object id = object ∧
      ((∃ entries, object = .mapping entries) ∨ ∃ items, object = .list items) := by
  cases value with
  | ref number =>
      rw [container?] at found
      split at found
      · next entries same =>
          cases found
          exact ⟨rfl, same, Or.inl ⟨entries, rfl⟩⟩
      · next items same =>
          cases found
          exact ⟨rfl, same, Or.inr ⟨items, rfl⟩⟩
      · cases found
  | _ => cases found

theorem container?_mapping {entries : List (Value × Value)}
    (same : document.object id = .mapping entries) :
    container? document (.ref id) = some (id, .mapping entries) := by
  rw [container?, same]

theorem container?_list {items : List Value} (same : document.object id = .list items) :
    container? document (.ref id) = some (id, .list items) := by
  rw [container?, same]

theorem child?_mapping {entries : List (Value × Value)}
    (same : document.object id = .mapping entries) (part : Text) :
    child? document (.ref id) part = Value.look? entries (.str part) := by
  rw [child?, container?_mapping same]

theorem child?_list {items : List Value} (same : document.object id = .list items) (part : Text) :
    child? document (.ref id) part = (position? items.length part).bind fun index => items[index]? := by
  rw [child?, container?_list same]

theorem slot_mapping {entries : List (Value × Value)}
    (same : document.object id = .mapping entries) (part : Text) :
    slot document (.ref id) part = .entry part := by
  rw [slot, container?_mapping same]

theorem slot_list {items : List Value} (same : document.object id = .list items) (part : Text) :
    slot document (.ref id) part = match position? items.length part with
      | some index => .item index
      | none => .entry part := by
  rw [slot, container?_list same]

/-- A value without children, and every part names an entry that could be made. -/
theorem child?_of_no_container (childless : container? document value = none) (part : Text) :
    child? document value part = none := by
  rw [child?, childless]

theorem slot_of_no_container (childless : container? document value = none) (part : Text) :
    slot document value part = .entry part := by
  rw [slot, childless]

/-- Children are held by the objects they are children of. -/
theorem mem_parts_of_child? (found : child? document value part = some child) :
    ∃ id, value = .ref id ∧ child ∈ (document.object id).parts := by
  cases contained : container? document value with
  | none =>
      rw [child?_of_no_container contained] at found
      cases found
  | some pair =>
      obtain ⟨id, object⟩ := pair
      obtain ⟨rfl, same, ⟨entries, rfl⟩ | ⟨items, rfl⟩⟩ := container?_eq_some contained
      · rw [child?_mapping same] at found
        refine ⟨id, rfl, ?_⟩
        rw [same]
        exact List.mem_flatMap.mpr ⟨_, Value.mem_of_look? found,
          List.mem_cons_of_mem _ List.mem_cons_self⟩
      · rw [child?_list same] at found
        obtain ⟨index, -, there⟩ := Option.bind_eq_some_iff.mp found
        refine ⟨id, rfl, ?_⟩
        rw [same]
        exact List.mem_of_getElem? there

theorem inside_of_child? (closed : document.Closed) (found : child? document value part = some child) :
    child.Inside document.objects.size := by
  obtain ⟨id, -, member⟩ := mem_parts_of_child? found
  exact closed.parts id child member

/-- Parts that name the same slot lead to the same child. -/
theorem child?_eq_of_slot {another : Text}
    (same : slot document value part = slot document value another) :
    child? document value part = child? document value another := by
  cases contained : container? document value with
  | none => rw [child?_of_no_container contained, child?_of_no_container contained]
  | some pair =>
      obtain ⟨id, object⟩ := pair
      obtain ⟨rfl, kind, ⟨entries, rfl⟩ | ⟨items, rfl⟩⟩ := container?_eq_some contained
      · rw [slot_mapping kind, slot_mapping kind] at same
        rw [Slot.entry.inj same]
      · rw [slot_list kind, slot_list kind] at same
        rw [child?_list kind, child?_list kind]
        split at same
        · next index first =>
            split at same
            · next index second =>
                rw [first, second, Slot.item.inj same]
            · cases same
        · split at same
          · cases same
          · rw [Slot.entry.inj same]

/-! ## Several parts -/

theorem lookup?_append (document : Document) (value : Value) (parts more : List Text) :
    lookup? document value (parts ++ more) =
      (lookup? document value parts).bind fun found => lookup? document found more := by
  induction parts generalizing value with
  | nil => rfl
  | cons part rest inductionHypothesis =>
      rw [List.cons_append, lookup?, lookup?, Option.bind_assoc]
      exact congrArg _ (funext inductionHypothesis)

theorem slots_append (found : lookup? document value parts = some child) (more : List Text) :
    slots document value (parts ++ more) =
      slots document value parts ++ slots document child more := by
  induction parts generalizing value with
  | nil =>
      cases found
      rfl
  | cons part rest inductionHypothesis =>
      obtain ⟨next, first, found⟩ := Option.bind_eq_some_iff.mp found
      simp only [List.cons_append, slots, first, inductionHypothesis found]

theorem length_slots (document : Document) (value : Value) (parts : List Text) :
    (slots document value parts).length = parts.length := by
  induction parts generalizing value with
  | nil => rfl
  | cons part rest inductionHypothesis =>
      rw [slots, List.length_cons, List.length_cons]
      cases child? document value part with
      | none => rw [List.length_map]
      | some child => rw [inductionHypothesis]

theorem slots_isPrefix (document : Document) (value : Value) (upon : parts <+: more) :
    slots document value parts <+: slots document value more := by
  induction parts generalizing value more with
  | nil => exact List.nil_prefix
  | cons part rest inductionHypothesis =>
      obtain ⟨behind, rfl⟩ := upon
      rw [List.cons_append, slots, slots, List.cons_prefix_cons]
      refine ⟨rfl, ?_⟩
      cases child? document value part with
      | none => exact (List.prefix_append rest behind).map _
      | some child => exact inductionHypothesis child (List.prefix_append rest behind)

/-- Behind a value without children the parts name entries that could be made. -/
theorem slots_of_no_container (childless : container? document value = none) (parts : List Text) :
    slots document value parts = parts.map .entry := by
  cases parts with
  | nil => rfl
  | cons part rest =>
      rw [slots, slot_of_no_container childless, child?_of_no_container childless]
      rfl

theorem lookup?_of_no_container (childless : container? document value = none) (nonempty : parts ≠ []) :
    lookup? document value parts = none := by
  cases parts with
  | nil => exact absurd rfl nonempty
  | cons part rest =>
      rw [lookup?, child?_of_no_container childless]
      rfl

theorem inside_of_lookup? (closed : document.Closed) (inside : value.Inside document.objects.size)
    (found : lookup? document value parts = some child) : child.Inside document.objects.size := by
  induction parts generalizing value with
  | nil =>
      cases found
      exact inside
  | cons part rest inductionHypothesis =>
      obtain ⟨next, first, found⟩ := Option.bind_eq_some_iff.mp found
      exact inductionHypothesis (inside_of_child? closed first) found

/-! ## The containers on the way -/

/-- The longest beginning of several parts that leads through mappings and lists only. -/
def stem (document : Document) (value : Value) : List Text → List Text
  | [] => []
  | part :: rest =>
      match (child? document value part).filter fun child => (container? document child).isSome with
      | some child => part :: stem document child rest
      | none => []

theorem stem_isPrefix (document : Document) (value : Value) (parts : List Text) :
    stem document value parts <+: parts := by
  induction parts generalizing value with
  | nil => exact List.nil_prefix
  | cons part rest inductionHypothesis =>
      rw [stem]
      split
      · exact List.cons_prefix_cons.mpr ⟨rfl, inductionHypothesis _⟩
      · exact List.nil_prefix

/-- A way to a container leads through containers only. -/
theorem stem_eq_self (found : lookup? document value parts = some child)
    (contained : (container? document child).isSome = true) : stem document value parts = parts := by
  induction parts generalizing value with
  | nil => rfl
  | cons part rest inductionHypothesis =>
      obtain ⟨next, first, found⟩ := Option.bind_eq_some_iff.mp found
      have onTheWay : (container? document next).isSome = true := by
        cases rest with
        | nil =>
            cases found
            exact contained
        | cons part rest =>
            by_contra childless
            rw [lookup?_of_no_container (Option.not_isSome_iff_eq_none.mp childless)
              (List.cons_ne_nil part rest)] at found
            cases found
      rw [stem, first, Option.filter_some, if_pos onTheWay]
      exact congrArg _ (inductionHypothesis found)

/-! ## Documents with the same objects -/

/-- The second document has all the objects of the first. -/
structure Extends (document other : Document) : Prop where
  root : other.root = document.root
  size : document.objects.size ≤ other.objects.size
  object : ∀ id < document.objects.size, other.object id = document.object id

theorem Extends.container?_eq (extended : Extends document other)
    (inside : value.Inside document.objects.size) : container? other value = container? document value := by
  cases value with
  | ref id => rw [container?, container?, extended.object id (inside id rfl)]
  | _ => rfl

theorem Extends.child?_eq (extended : Extends document other)
    (inside : value.Inside document.objects.size) (part : Text) :
    child? other value part = child? document value part := by
  rw [child?, child?, extended.container?_eq inside]

theorem Extends.slot_eq (extended : Extends document other)
    (inside : value.Inside document.objects.size) (part : Text) :
    slot other value part = slot document value part := by
  rw [slot, slot, extended.container?_eq inside]

theorem Extends.lookup?_eq (extended : Extends document other) (closed : document.Closed)
    (inside : value.Inside document.objects.size) (parts : List Text) :
    lookup? other value parts = lookup? document value parts := by
  induction parts generalizing value with
  | nil => rfl
  | cons part rest inductionHypothesis =>
      rw [lookup?, lookup?, extended.child?_eq inside]
      cases found : child? document value part with
      | none => rfl
      | some child => exact inductionHypothesis (inside_of_child? closed found)

theorem Extends.slots_eq (extended : Extends document other) (closed : document.Closed)
    (inside : value.Inside document.objects.size) (parts : List Text) :
    slots other value parts = slots document value parts := by
  induction parts generalizing value with
  | nil => rfl
  | cons part rest inductionHypothesis =>
      rw [slots, slots, extended.child?_eq inside, extended.slot_eq inside]
      cases found : child? document value part with
      | none => rfl
      | some child => exact congrArg _ (inductionHypothesis (inside_of_child? closed found))

theorem Extends.stem_eq (extended : Extends document other) (closed : document.Closed)
    (inside : value.Inside document.objects.size) (parts : List Text) :
    stem other value parts = stem document value parts := by
  induction parts generalizing value with
  | nil => rfl
  | cons part rest inductionHypothesis =>
      rw [stem, stem, extended.child?_eq inside]
      cases found : child? document value part with
      | none => rfl
      | some child =>
          have within := inside_of_child? closed found
          rw [Option.filter_some, Option.filter_some, extended.container?_eq within]
          by_cases contained : (container? document child).isSome = true
          · rw [if_pos contained]
            exact congrArg _ (inductionHypothesis within)
          · rw [if_neg contained]

/-! ## Documents without aliases -/

/-- A child is held at a position, and the position tells the slots of one value apart. -/
theorem position_of_child? (found : child? document (.ref id) part = some child) :
    ∃ position, (document.object id).parts[position]? = some child ∧
      ∀ another, child? document (.ref id) another = some child →
        (∀ other : Nat, (document.object id).parts[other]? = some child → other = position) →
          slot document (.ref id) part = slot document (.ref id) another := by
  cases contained : container? document (.ref id) with
  | none =>
      rw [child?_of_no_container contained] at found
      cases found
  | some pair =>
      obtain ⟨number, object⟩ := pair
      obtain ⟨⟨⟩, same, ⟨entries, rfl⟩ | ⟨items, rfl⟩⟩ := container?_eq_some contained
      · rw [child?_mapping same] at found
        obtain ⟨index, there, held⟩ := Value.position_of_look? found
        refine ⟨2 * index + 1, by rw [same]; exact held, fun another again only => ?_⟩
        rw [child?_mapping same] at again
        obtain ⟨other, elsewhere, held⟩ := Value.position_of_look? again
        have equal := only (2 * other + 1) (by rw [same]; exact held)
        obtain rfl : other = index := by omega
        rw [there] at elsewhere
        rw [slot_mapping same, slot_mapping same]
        exact congrArg _ (Value.str.inj (Prod.mk.inj (Option.some.inj elsewhere)).1)
      · rw [child?_list same] at found
        obtain ⟨index, position, there⟩ := Option.bind_eq_some_iff.mp found
        refine ⟨index, by rw [same]; exact there, fun another again only => ?_⟩
        rw [child?_list same] at again
        obtain ⟨other, elsewhere, held⟩ := Option.bind_eq_some_iff.mp again
        obtain rfl := only other (by rw [same]; exact held)
        rw [slot_list same, slot_list same, position, elsewhere]

section Unshared

variable (unshared : document.Unshared)

include unshared

/-- Without aliases no way leads back to the root. -/
theorem not_root_of_unshared (found : lookup? document document.root (parts ++ [part]) = some (.ref id)) :
    document.root ≠ .ref id := by
  intro root
  rw [lookup?_append] at found
  obtain ⟨above, -, found⟩ := Option.bind_eq_some_iff.mp found
  obtain ⟨child, found, ⟨⟩⟩ := Option.bind_eq_some_iff.mp found
  obtain ⟨number, -, held⟩ := mem_parts_of_child? found
  exact unshared.root id root number held

/-- Without aliases there is one way to every object. -/
theorem slots_eq_of_unshared {first second : List Text}
    (reached : lookup? document document.root first = some (.ref id))
    (again : lookup? document document.root second = some (.ref id)) :
    slots document document.root first = slots document document.root second := by
  induction first using List.reverseRecOn generalizing second id with
  | nil =>
      rcases List.eq_nil_or_concat second with rfl | ⟨parts, part, rfl⟩
      · rfl
      · rw [List.concat_eq_append] at again
        exact absurd (Option.some.inj reached) (not_root_of_unshared unshared again)
  | append_singleton parts part inductionHypothesis =>
      rcases List.eq_nil_or_concat second with rfl | ⟨others, other, rfl⟩
      · exact absurd (Option.some.inj again) (not_root_of_unshared unshared reached)
      · rw [List.concat_eq_append] at again ⊢
        rw [lookup?_append] at reached again
        obtain ⟨above, upTo, reached⟩ := Option.bind_eq_some_iff.mp reached
        obtain ⟨child, here, ⟨⟩⟩ := Option.bind_eq_some_iff.mp reached
        obtain ⟨beyond, thereTo, again⟩ := Option.bind_eq_some_iff.mp again
        obtain ⟨child, there, ⟨⟩⟩ := Option.bind_eq_some_iff.mp again
        obtain ⟨first, rfl, -⟩ := mem_parts_of_child? here
        obtain ⟨second, rfl, -⟩ := mem_parts_of_child? there
        obtain ⟨position, held, tells⟩ := position_of_child? here
        obtain ⟨another, heldToo, -⟩ := position_of_child? there
        obtain ⟨rfl, -⟩ := unshared.once id first second position another held heldToo
        have same := tells other there fun index found =>
          (unshared.once id first first index position found held).2
        rw [slots_append upTo, slots_append thereTo, inductionHypothesis upTo thereTo]
        simp only [slots, here, there, same]

/-- Without aliases an object is reached only from what stands on the way to it. -/
theorem slots_prefix_of_reaches {changed : Nat}
    (found : lookup? document document.root parts = some value)
    (reached : document.Reaches value changed)
    (leads : lookup? document document.root more = some (.ref changed)) :
    slots document document.root parts <+: slots document document.root more := by
  induction more using List.reverseRecOn generalizing changed with
  | nil =>
      rcases reached.held with rfl | ⟨between, -, held⟩
      · exact (slots_eq_of_unshared unshared found leads).symm ▸ List.prefix_refl _
      · exact absurd held (unshared.root changed (Option.some.inj leads) between)
  | append_singleton others other inductionHypothesis =>
      rcases reached.held with rfl | ⟨between, further, held⟩
      · exact (slots_eq_of_unshared unshared found leads).symm ▸ List.prefix_refl _
      · rw [lookup?_append] at leads
        obtain ⟨above, upTo, leads⟩ := Option.bind_eq_some_iff.mp leads
        obtain ⟨child, here, ⟨⟩⟩ := Option.bind_eq_some_iff.mp leads
        obtain ⟨holder, rfl, heldToo⟩ := mem_parts_of_child? here
        obtain ⟨position, first⟩ := List.mem_iff_getElem?.mp held
        obtain ⟨another, second⟩ := List.mem_iff_getElem?.mp heldToo
        obtain ⟨rfl, -⟩ := unshared.once changed between holder position another first second
        exact (inductionHypothesis further upTo).trans
          (slots_isPrefix document document.root (List.prefix_append others [other]))

end Unshared

/-! ## Documents that are the same -/

theorem child?_of_isAtom (atom : value.isAtom = true) (part : Text) :
    child? document value part = none := by
  cases value with
  | ref => cases atom
  | _ => rfl

section Paired

variable {pairs : Nat → Nat → Prop} {another : Value} (paired : document.Paired other pairs)

include paired

/-- In documents whose objects belong together, values that agree have children that agree. -/
theorem child?_agrees (agrees : Value.Agrees pairs value another) (part : Text) :
    Option.Rel (Value.Agrees pairs) (child? document value part) (child? other another part) := by
  cases agrees with
  | @ref first second belong =>
      have alike := (paired.objects first second belong).alike
      generalize left : document.object first = held at alike
      generalize right : other.object second = holds at alike
      cases alike with
      | mapping each =>
          rw [child?_mapping left, child?_mapping right]
          exact Value.look?_agrees each part
      | @list items others each =>
          rw [child?_list left, child?_list right, ← each.length_eq]
          cases position? items.length part with
          | none => exact .none
          | some index => exact Value.getElem?_agrees each index
      | _ =>
          simp only [child?, container?, left, right]
          exact .none
  | atom atom same =>
      have atomToo : another.isAtom = true := by
        rw [← Value.isAtom_bare, ← same, Value.isAtom_bare, atom]
      rw [child?_of_isAtom atom, child?_of_isAtom atomToo]
      exact .none

theorem lookup?_agrees (agrees : Value.Agrees pairs value another) (parts : List Text) :
    Option.Rel (Value.Agrees pairs) (lookup? document value parts) (lookup? other another parts) := by
  induction parts generalizing value another with
  | nil => exact .some agrees
  | cons part rest inductionHypothesis =>
      rw [lookup?, lookup?]
      have children := child?_agrees paired agrees part
      generalize child? document value part = left at children
      generalize child? other another part = right at children
      cases children with
      | none => exact .none
      | some alike => exact inductionHypothesis alike

end Paired

end Edit
end Codemap
