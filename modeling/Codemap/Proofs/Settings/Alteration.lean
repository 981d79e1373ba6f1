import Codemap.Proofs.Result
import Codemap.Proofs.Settings.Walk

namespace Codemap
namespace Edit

/-!
# What an edit alters

An edit alters one of the containers of a document: the last one on the way that its key
names.  All other objects of the document stay as they are; what else there is afterwards is
new.  In the altered container only the way behind it is concerned: ways that leave it through
another slot lead where they led, and ways beside new entries still lead nowhere.  The way
itself leads to the value that it was given, or to the list with the item that was added.
-/

open Yaml

variable {before after document grown : Document} {value child : Value} {part last key : Text}
  {parts rest more : List Text} {id changed fresh : Nat}

/-- The only object of a document that an edit has altered, and the way behind it that is
concerned. -/
structure AlteredAt (before after : Document) (changed : Nat) (rest : List Text) : Prop where
  root : after.root = before.root
  inside : changed < before.objects.size
  kept : ∀ id < before.objects.size, id ≠ changed → after.object id = before.object id
  beside : ∀ part more,
    Apart (slots before (.ref changed) (part :: more)) (slots before (.ref changed) rest) →
      child? after (.ref changed) part = child? before (.ref changed) part ∨
        lookup? before (.ref changed) (part :: more) = none ∧
          lookup? after (.ref changed) (part :: more) = none

/-! ## Replacing an object -/

theorem lt_of_container (contained : (container? document (.ref id)).isSome = true) :
    id < document.objects.size := by
  by_contra beyond
  rw [container?, Document.object_of_not_lt beyond] at contained
  cases contained

/-- An object is replaced, and no way behind it counts as untouched. -/
theorem alteredAt_setObject (inside : id < document.objects.size) (object : Object) :
    AlteredAt document (document.setObject id object) id [] where
  root := rfl
  inside := inside
  kept := fun other _ different => by
    rw [Document.object_setObject, if_neg fun same => different same.1]
  beside := fun part more apart => absurd List.nil_prefix apart.2

/-- Where ways part, the slots of their first parts differ, or their parts behind do. -/
theorem slot_ne_of_apart (apart : Apart (slots document value (part :: more)) (slots document value [last])) :
    slot document value part ≠ slot document value last := by
  intro same
  refine apart.2 ?_
  rw [slots, slots, same]
  exact List.cons_prefix_cons.mpr ⟨rfl, by cases child? document value last <;> exact List.nil_prefix⟩

theorem position?_lt {count index : Nat} (found : position? count part = some index) : index < count := by
  obtain ⟨number, -, found⟩ := Option.bind_eq_some_iff.mp found
  split at found
  · next within =>
      cases found
      omega
  · split at found
    · next within =>
        cases found
        omega
    · cases found

/-- What giving a part a value does. -/
structure Assigned (before after : Document) (id : Nat) (part : Text) (value : Value) : Prop where
  object : ∃ object, after = before.setObject id object
  contained : (container? before (.ref id)).isSome = true
  slot : ∀ other, slot after (.ref id) other = slot before (.ref id) other
  child : child? after (.ref id) part = some value
  others : ∀ other, Edit.slot before (.ref id) other ≠ Edit.slot before (.ref id) part →
    child? after (.ref id) other = child? before (.ref id) other

/-- What has been put in place of a container is there. -/
theorem object_setObject_self (contained : (container? before (.ref id)).isSome = true)
    (object : Object) : (before.setObject id object).object id = object := by
  rw [Document.object_setObject, if_pos ⟨rfl, lt_of_container contained⟩]

/-- An entry that is put into a mapping is assigned. -/
theorem assigned_put {entries : List (Value × Value)} (same : before.object id = .mapping entries)
    (part : Text) (value : Value) :
    Assigned before (before.setObject id (.mapping (Value.put entries (.str part) value))) id part
      value := by
  have contained : (container? before (.ref id)).isSome = true := by
    rw [container?_mapping same]
    rfl
  have object := object_setObject_self contained (.mapping (Value.put entries (.str part) value))
  refine ⟨⟨_, rfl⟩, contained, fun other => ?_, ?_, fun other different => ?_⟩
  · rw [slot_mapping object, slot_mapping same]
  · rw [child?_mapping object, Value.look?_put_str]
  · rw [slot_mapping same, slot_mapping same] at different
    rw [child?_mapping object, child?_mapping same, Value.look?_put_of_ne]
    rintro rfl
    exact different rfl

/-- An item of a list that is replaced is assigned. -/
theorem assigned_set {items : List Value} {index : Nat} (same : before.object id = .list items)
    (found : position? items.length part = some index) (value : Value) :
    Assigned before (before.setObject id (.list (items.set index value))) id part value := by
  have contained : (container? before (.ref id)).isSome = true := by
    rw [container?_list same]
    rfl
  have object := object_setObject_self contained (.list (items.set index value))
  refine ⟨⟨_, rfl⟩, contained, fun other => ?_, ?_, fun other different => ?_⟩
  · rw [slot_list object, slot_list same, List.length_set]
  · rw [child?_list object, List.length_set, found]
    exact List.getElem?_set_self (position?_lt found)
  · rw [slot_list same, slot_list same, found] at different
    rw [child?_list object, child?_list same, List.length_set]
    cases there : position? items.length other with
    | none => rfl
    | some position =>
        rw [there] at different
        exact List.getElem?_set_ne fun equal => different (by rw [equal])

theorem assigned_of_assign (assigned : assign before (.ref id) part value = .ok after) :
    Assigned before after id part value := by
  rw [assign] at assigned
  split at assigned
  · next number entries contained =>
      obtain ⟨⟨⟩, same, -⟩ := container?_eq_some contained
      cases assigned
      exact assigned_put same part value
  · next number items contained =>
      obtain ⟨⟨⟩, same, -⟩ := container?_eq_some contained
      split at assigned
      · next index found =>
          cases assigned
          exact assigned_set same found value
      · cases assigned
  · cases assigned

/-- The value of the last part is assigned. -/
theorem Assigned.alteredAt (assigned : Assigned before after id last value) :
    AlteredAt before after id [last] := by
  obtain ⟨object, rfl⟩ := assigned.object
  have inside := lt_of_container assigned.contained
  exact {
    root := rfl
    inside
    kept := (alteredAt_setObject inside object).kept
    beside := fun part more apart => Or.inl (assigned.others part (slot_ne_of_apart apart)) }

/-- The last part is taken out of a mapping. -/
theorem alteredAt_dropKey {entries : List (Value × Value)} (same : before.object id = .mapping entries)
    (last : Text) :
    AlteredAt before (before.setObject id (.mapping (Value.dropKey entries (.str last)))) id [last] := by
  have contained : (container? before (.ref id)).isSome = true := by
    rw [container?_mapping same]
    rfl
  have inside := lt_of_container contained
  have object := object_setObject_self contained (.mapping (Value.dropKey entries (.str last)))
  exact {
    root := rfl
    inside
    kept := (alteredAt_setObject inside _).kept
    beside := fun part more apart => by
      left
      have different := slot_ne_of_apart apart
      rw [slot_mapping same, slot_mapping same] at different
      rw [child?_mapping object, child?_mapping same, Value.look?_dropKey_of_ne]
      rintro rfl
      exact different rfl }

/-! ## New entries -/

/-- A new chain of mappings has grown from an object that was empty, and ways beside the chain
lead nowhere. -/
structure Sprouted (before after : Document) (fresh : Nat) (rest : List Text) : Prop where
  root : after.root = before.root
  size : before.objects.size ≤ after.objects.size
  kept : ∀ id < before.objects.size, id ≠ fresh → after.object id = before.object id
  beside : ∀ more ≠ [], ¬ more <+: rest → ¬ rest <+: more → lookup? after (.ref fresh) more = none

/-- A new chain hangs from a part of an object that is there. -/
structure Branched (before after : Document) (id : Nat) (part : Text) (rest : List Text) : Prop where
  root : after.root = before.root
  size : before.objects.size ≤ after.objects.size
  inside : id < before.objects.size
  kept : ∀ other < before.objects.size, other ≠ id → after.object other = before.object other
  others : ∀ other, slot before (.ref id) other ≠ slot before (.ref id) part →
    child? after (.ref id) other = child? before (.ref id) other
  child : ∀ other, slot before (.ref id) other = slot before (.ref id) part →
    child? after (.ref id) other = some (.ref before.objects.size)
  beside : ∀ more ≠ [], ¬ more <+: rest → ¬ rest <+: more →
    lookup? after (.ref before.objects.size) more = none

/-- A document with a further object. -/
theorem extends_newObject (document : Document) (object : Object) :
    Extends document (document.newObject object).2 where
  root := rfl
  size := by simp [Document.newObject]
  object := fun id inside => by
    rw [Document.object_newObject, if_neg (Nat.ne_of_lt inside)]

theorem extends_graft (document other : Document) : Extends document (document.graft other).2 where
  root := rfl
  size := by simp [Document.graft]
  object := fun id inside => Document.object_graft other inside

/-- An alteration of a document with further objects is one of the document. -/
theorem Extends.alteredAt (extended : Extends document grown) (closed : document.Closed)
    (inside : changed < document.objects.size) (altered : AlteredAt grown after changed rest) :
    AlteredAt document after changed rest where
  root := altered.root.trans extended.root
  inside := inside
  kept := fun id old different => by
    rw [altered.kept id (Nat.lt_of_lt_of_le old extended.size) different, extended.object id old]
  beside := fun part more apart => by
    have within : (Value.ref changed).Inside document.objects.size := by
      rintro id ⟨⟩
      exact inside
    rw [← extended.slots_eq closed within, ← extended.slots_eq closed within] at apart
    rw [← extended.child?_eq within, ← extended.lookup?_eq closed within]
    exact altered.beside part more apart

section NewObject

variable {object : Object} {between : Document}
  (assigned : Assigned (before.newObject object).2 between id part (.ref before.objects.size))
  (inside : id < before.objects.size)

include assigned inside

/-- An object that is new is there once a part has it. -/
theorem object_of_assigned : between.object before.objects.size = object := by
  obtain ⟨replaced, rfl⟩ := assigned.object
  rw [Document.object_setObject, if_neg (fun same => Nat.ne_of_gt inside same.1),
    Document.object_newObject, if_pos rfl]

/-- A chain that grows from a new object hangs from the part that has got the object. -/
theorem branched (sprouted : Sprouted between after before.objects.size rest) :
    Branched before after id part rest := by
  obtain ⟨replaced, rfl⟩ := assigned.object
  have extended := extends_newObject before object
  have within : (Value.ref id).Inside before.objects.size := by
    rintro other ⟨⟩
    exact inside
  have sizes : ((before.newObject object).2.setObject id replaced).objects.size =
      before.objects.size + 1 := by
    simp [Document.setObject, Document.newObject]
  -- The object that has got the part is older than the chain.
  have here : after.object id = ((before.newObject object).2.setObject id replaced).object id :=
    sprouted.kept id (by omega) (Nat.ne_of_lt inside)
  have same (other : Text) : child? after (.ref id) other =
      child? ((before.newObject object).2.setObject id replaced) (.ref id) other := by
    rw [child?, child?, container?, container?, here]
  refine ⟨sprouted.root, by have := sprouted.size; omega, inside, fun other old different => ?_,
    fun other different => ?_, fun other equal => ?_, sprouted.beside⟩
  · rw [sprouted.kept other (by omega) (Nat.ne_of_lt old), Document.object_setObject,
      if_neg fun same => different same.1, extended.object other old]
  · rw [same, assigned.others other, extended.child?_eq within]
    rwa [extended.slot_eq within, extended.slot_eq within]
  · rw [same, ← assigned.child]
    refine child?_eq_of_slot ?_
    rw [assigned.slot, assigned.slot, extended.slot_eq within, extended.slot_eq within, equal]

end NewObject

namespace Branched

/-- A way along the chain begins at the part that it hangs from. -/
theorem lookup?_eq (branched : Branched before after id part rest) (more : List Text) :
    lookup? after (.ref id) (part :: more) = lookup? after (.ref before.objects.size) more := by
  rw [lookup?, branched.child part rfl]
  rfl

/-- A chain that hangs from an object that was empty has grown from it. -/
theorem sprouted (branched : Branched before after fresh part rest)
    (empty : before.object fresh = .mapping []) : Sprouted before after fresh (part :: rest) where
  root := branched.root
  size := branched.size
  kept := branched.kept
  beside := by
    intro more nonempty notAbove notBelow
    cases more with
    | nil => exact absurd rfl nonempty
    | cons other more =>
        rw [lookup?]
        by_cases same : other = part
        · subst same
          rw [branched.child other rfl]
          rw [List.cons_prefix_cons] at notAbove notBelow
          refine branched.beside more ?_ (fun above => notAbove ⟨rfl, above⟩)
            (fun below => notBelow ⟨rfl, below⟩)
          rintro rfl
          exact notAbove ⟨rfl, List.nil_prefix⟩
        · rw [branched.others other, child?_mapping empty]
          · rfl
          · rw [slot_mapping empty, slot_mapping empty]
            exact fun equal => same (Slot.entry.inj equal)

/-- Behind a part without a container the parts name entries that could be made. -/
theorem slots_cons_of_free (free : (child? document value part).filter
    (fun child => (container? document child).isSome) = none) (rest : List Text) :
    slots document value (part :: rest) = slot document value part :: rest.map .entry := by
  rw [slots]
  cases found : child? document value part with
  | none => rfl
  | some child =>
      rw [found, Option.filter_some] at free
      split at free
      · cases free
      · next childless =>
          exact congrArg _ (slots_of_no_container (Option.not_isSome_iff_eq_none.mp childless) rest)

/-- A chain that hangs from a container, where there was no container behind the part, alters
nothing else. -/
theorem alteredAt (branched : Branched before after id part rest)
    (free : (child? before (.ref id) part).filter
      (fun child => (container? before child).isSome) = none) :
    AlteredAt before after id (part :: rest) where
  root := branched.root
  inside := branched.inside
  kept := branched.kept
  beside := by
    intro other more apart
    by_cases same : slot before (.ref id) other = slot before (.ref id) part
    · right
      have children := child?_eq_of_slot same
      rw [slots_cons_of_free free, slots_cons_of_free (children ▸ free), same] at apart
      have notAbove : ¬ more <+: rest := fun above =>
        apart.1 (List.cons_prefix_cons.mpr ⟨rfl, above.map _⟩)
      have notBelow : ¬ rest <+: more := fun below =>
        apart.2 (List.cons_prefix_cons.mpr ⟨rfl, below.map _⟩)
      have nonempty : more ≠ [] := by
        rintro rfl
        exact notAbove List.nil_prefix
      constructor
      · rw [lookup?, children]
        cases found : child? before (.ref id) part with
        | none => rfl
        | some child =>
            rw [found, Option.filter_some] at free
            split at free
            · cases free
            · next childless =>
                exact lookup?_of_no_container (Option.not_isSome_iff_eq_none.mp childless) nonempty
      · rw [lookup?, branched.child other same]
        exact branched.beside more nonempty notAbove notBelow
    · exact Or.inl (branched.others other same)

end Branched

/-! ## Giving a key a value -/

/-- The value that is assigned to the last part is found there. -/
theorem Assigned.lookup?_eq (assigned : Assigned before after id last value) :
    lookup? after (.ref id) [last] = some value := by
  rw [lookup?, assigned.child]
  rfl

/-- Assigning along parts behind an empty mapping lets a chain grow from it, which leads to the
value. -/
theorem sprouted_setAlong (empty : before.object fresh = .mapping []) (nonempty : rest ≠ [])
    (ended : setAlong before (.ref fresh) value rest = .ok after) :
    Sprouted before after fresh rest ∧ lookup? after (.ref fresh) rest = some value := by
  have nothing (part : Text) : child? before (.ref fresh) part = none := child?_mapping empty part
  have inside : fresh < before.objects.size :=
    lt_of_container (by rw [container?_mapping empty]; rfl)
  induction rest generalizing before fresh with
  | nil => exact absurd rfl nonempty
  | cons part rest inductionHypothesis =>
      cases rest with
      | nil =>
          have assigned := assigned_of_assign ended
          refine ⟨?_, assigned.lookup?_eq⟩
          obtain ⟨object, rfl⟩ := assigned.object
          refine ⟨rfl, by simp [Document.setObject], (alteredAt_setObject inside object).kept, ?_⟩
          intro more further notAbove notBelow
          cases more with
          | nil => exact absurd rfl further
          | cons other more =>
              have different : slot before (.ref fresh) other ≠ slot before (.ref fresh) part := by
                rw [slot_mapping empty, slot_mapping empty]
                rintro ⟨⟩
                exact notBelow (List.cons_prefix_cons.mpr ⟨rfl, List.nil_prefix⟩)
              rw [lookup?, assigned.others other different, nothing]
              rfl
      | cons next more =>
          rw [setAlong, nothing] at ended
          · obtain ⟨between, assigned, ended⟩ := ok_of_bind ended
            have assigned := assigned_of_assign assigned
            have object := object_of_assigned assigned inside
            obtain ⟨onwards, leads⟩ := inductionHypothesis object (List.cons_ne_nil next more) ended
              (child?_mapping object) (lt_of_container (by rw [container?_mapping object]; rfl))
            have branched := branched assigned inside onwards
            exact ⟨branched.sprouted empty, (branched.lookup?_eq _).trans leads⟩
          · exact List.cons_ne_nil next more

/-- Assigning along parts alters the last container on the way, from which the way leads to the
value. -/
theorem alteredAt_setAlong (contained : (container? before (.ref id)).isSome = true)
    (nonempty : parts ≠ []) (ended : setAlong before (.ref id) value parts = .ok after) :
    ∃ changed, lookup? before (.ref id) (stem before (.ref id) parts.dropLast) = some (.ref changed) ∧
      AlteredAt before after changed
        (parts.drop (stem before (.ref id) parts.dropLast).length) ∧
      lookup? after (.ref changed)
        (parts.drop (stem before (.ref id) parts.dropLast).length) = some value := by
  induction parts generalizing id with
  | nil => exact absurd rfl nonempty
  | cons part rest inductionHypothesis =>
      cases rest with
      | nil =>
          have assigned := assigned_of_assign ended
          exact ⟨id, rfl, assigned.alteredAt, assigned.lookup?_eq⟩
      | cons next more =>
          rw [setAlong] at ended
          · rw [List.dropLast_cons_of_ne_nil (List.cons_ne_nil next more), stem]
            cases found : (child? before (.ref id) part).filter
                fun child => (container? before child).isSome with
            | some child =>
                simp only [found] at ended ⊢
                obtain ⟨here, isContainer⟩ := Option.filter_eq_some_iff.mp found
                obtain ⟨⟨number, object⟩, isObject⟩ := Option.isSome_iff_exists.mp isContainer
                obtain ⟨rfl, -⟩ := container?_eq_some isObject
                obtain ⟨changed, reached, altered⟩ :=
                  inductionHypothesis isContainer (List.cons_ne_nil next more) ended
                exact ⟨changed, by rw [lookup?, here]; exact reached, altered⟩
            | none =>
                simp only [found] at ended ⊢
                obtain ⟨between, assigned, ended⟩ := ok_of_bind ended
                have assigned := assigned_of_assign assigned
                have inside := lt_of_container contained
                have object := object_of_assigned assigned inside
                obtain ⟨onwards, leads⟩ :=
                  sprouted_setAlong object (List.cons_ne_nil next more) ended
                have branched := branched assigned inside onwards
                exact ⟨id, rfl, branched.alteredAt found, (branched.lookup?_eq _).trans leads⟩
          · exact List.cons_ne_nil next more

/-! ## Appending an item -/

/-- Append an item to the list that a way leads to. -/
def appendTo (key : Text) (item : Value) (found : Value × Document) : Except Refusal Document :=
  match container? found.2 found.1 with
  | some (id, .list items) => .ok (found.2.setObject id (.list (items ++ [item])))
  | _ => .error (.noList key)

/-- Several parts lead to a list with these items. -/
def LeadsToList (document : Document) (value : Value) (parts : List Text) (items : List Value) :
    Prop :=
  ∃ id, lookup? document value parts = some (.ref id) ∧ document.object id = .list items

/-- What is added behind an empty mapping, or at once to an empty list, grows from it, and leads
to a list with the item. -/
theorem sprouted_addAlong
    (empty : before.object fresh = if rest.isEmpty then .list [] else .mapping [])
    (ended : (addAlong key before (.ref fresh) rest >>= appendTo key value) = .ok after) :
    Sprouted before after fresh rest ∧ LeadsToList after (.ref fresh) rest [value] := by
  induction rest generalizing before fresh with
  | nil =>
      have list := container?_list empty
      simp only [addAlong, bind, Except.bind, appendTo, list] at ended
      cases ended
      have contained : (container? before (.ref fresh)).isSome = true := by rw [list]; rfl
      have inside := lt_of_container contained
      refine ⟨⟨rfl, by simp [Document.setObject], (alteredAt_setObject inside _).kept, ?_⟩,
        fresh, rfl, object_setObject_self contained _⟩
      exact fun more _ _ notBelow => absurd List.nil_prefix notBelow
  | cons part rest inductionHypothesis =>
      have empty : before.object fresh = .mapping [] := empty
      have mapping := container?_mapping empty
      have inside : fresh < before.objects.size := lt_of_container (by rw [mapping]; rfl)
      have nothing : child? before (.ref fresh) part = none := child?_mapping empty part
      rw [addAlong, mapping] at ended
      simp only [nothing] at ended
      have grown := (extends_newObject before (if rest.isEmpty then .list [] else .mapping [])).object
        fresh inside
      have assigned := assigned_put (grown.trans empty) part (.ref before.objects.size)
      obtain ⟨onwards, last, leads, list⟩ :=
        inductionHypothesis (object_of_assigned assigned inside) ended
      have branched := branched assigned inside onwards
      exact ⟨branched.sprouted empty, last, (branched.lookup?_eq _).trans leads, list⟩

/-- Nothing can be added along parts that begin at no container. -/
theorem contained_of_addAlong
    (ended : (addAlong key before child parts >>= appendTo key value) = .ok after) :
    (container? before child).isSome = true := by
  by_contra childless
  have childless := Option.not_isSome_iff_eq_none.mp childless
  cases parts with
  | nil =>
      simp only [addAlong, bind, Except.bind, appendTo, childless] at ended
      cases ended
  | cons part rest =>
      rw [addAlong, childless] at ended
      cases ended

/-- Several parts lead to a list with these items, or nowhere if there are none. -/
def ListOrNothing (document : Document) (value : Value) (parts : List Text) (items : List Value) :
    Prop :=
  LeadsToList document value parts items ∨ lookup? document value parts = none ∧ items = []

/-- Adding along parts alters the last container on the way, from which the way leads to the
list with the further item. -/
theorem alteredAt_addAlong (contained : (container? before (.ref id)).isSome = true)
    (ended : (addAlong key before (.ref id) parts >>= appendTo key value) = .ok after) :
    ∃ changed items,
      lookup? before (.ref id) (stem before (.ref id) parts) = some (.ref changed) ∧
      AlteredAt before after changed (parts.drop (stem before (.ref id) parts).length) ∧
      ListOrNothing before (.ref id) parts items ∧
      LeadsToList after (.ref changed) (parts.drop (stem before (.ref id) parts).length)
        (items ++ [value]) := by
  have inside := lt_of_container contained
  induction parts generalizing id with
  | nil =>
      simp only [addAlong, bind, Except.bind, appendTo] at ended
      split at ended
      · next number items list =>
          obtain ⟨⟨⟩, same, -⟩ := container?_eq_some list
          cases ended
          exact ⟨id, items, rfl, alteredAt_setObject inside _, Or.inl ⟨id, rfl, same⟩, id, rfl,
            object_setObject_self contained _⟩
      · cases ended
  | cons part rest inductionHypothesis =>
      obtain ⟨⟨number, object⟩, isObject⟩ := Option.isSome_iff_exists.mp contained
      obtain ⟨⟨⟩, same, -⟩ := container?_eq_some isObject
      rw [addAlong, isObject] at ended
      rw [stem]
      dsimp only at ended
      split at ended
      · next child found =>
          have isContainer := contained_of_addAlong ended
          obtain ⟨⟨other, object⟩, isOther⟩ := Option.isSome_iff_exists.mp isContainer
          obtain ⟨rfl, -⟩ := container?_eq_some isOther
          obtain ⟨changed, items, reached, altered, earlier, later⟩ :=
            inductionHypothesis isContainer ended (lt_of_container isContainer)
          rw [found, Option.filter_some, if_pos isContainer]
          have onwards : lookup? before (.ref id) (part :: rest) =
              lookup? before (.ref other) rest := by
            rw [lookup?, found]
            rfl
          refine ⟨changed, items, by rw [lookup?, found]; exact reached, altered, ?_, later⟩
          rwa [ListOrNothing, LeadsToList, onwards]
      · next nothing =>
          have free : (child? before (.ref id) part).filter
              (fun child => (container? before child).isSome) = none := by
            rw [nothing]
            rfl
          rw [free]
          split at ended
          · next entries =>
              have grown := (extends_newObject before
                (if rest.isEmpty then .list [] else .mapping [])).object id inside
              have assigned := assigned_put (grown.trans same) part (.ref before.objects.size)
              obtain ⟨onwards, last, leads, list⟩ :=
                sprouted_addAlong (object_of_assigned assigned inside) ended
              have branched := branched assigned inside onwards
              have missing : lookup? before (.ref id) (part :: rest) = none := by
                rw [lookup?, nothing]
                rfl
              exact ⟨id, [], rfl, branched.alteredAt free, Or.inr ⟨missing, rfl⟩, last,
                (branched.lookup?_eq _).trans leads, list⟩
          · cases ended

end Edit
end Codemap
