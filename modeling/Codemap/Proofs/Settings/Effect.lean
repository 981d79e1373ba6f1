import Codemap.Proofs.Settings.Locality
import Mathlib.Data.List.InsertIdx

namespace Codemap

/-!
# What an edit makes of its key

A key that has been given a value has this value.  A key to which an item was added has the
list of before with the item behind it, and a list of the item alone if there was nothing.  A
key that was removed is gone from its mapping, and an item that was removed has left its list,
where all others stay in order.

This is so for documents in which nothing is shared.  The way to the altered container is then
the same before and after, and nothing that the container held leads back into it.
-/

open Yaml

namespace Yaml

variable {document given edited left right : Document} {value : Value} {offset bound id : Nat}

/-! ## What has been taken over from another document -/

namespace Value

/-- A value agrees with itself under shifted numbers. -/
theorem agrees_shift (inside : value.Inside bound) :
    Value.Agrees (fun first second => first < bound ∧ second = first + offset) value
      (value.shift offset) := by
  cases value with
  | ref id => exact .ref ⟨inside id rfl, rfl⟩
  | _ => exact .atom rfl rfl

end Value

namespace Object

theorem kind_shift (object : Object) (offset : Nat) : (object.shift offset).kind = object.kind := by
  cases object <;> rfl

theorem parts_shift (object : Object) (offset : Nat) :
    (object.shift offset).parts = object.parts.map (Value.shift offset) := by
  cases object with
  | mapping entries =>
      simp only [shift, parts, List.flatMap_map, List.map_flatMap]
      rfl
  | _ => rfl

end Object

namespace Document

/-- The objects that were taken over have their numbers shifted. -/
theorem object_graft_shifted (document given : Document) (inside : id < given.objects.size) :
    (document.graft given).2.object (id + document.objects.size) =
      (given.object id).shift document.objects.size := by
  simp [Document.object, graft, Array.getD_eq_getD_getElem?, Array.getElem?_append_right, inside]

/-- A closed document is the same in a document that has its objects under shifted numbers. -/
theorem same_of_shifted (closed : given.Closed)
    (kept : ∀ id < given.objects.size, edited.object (id + offset) = (given.object id).shift offset) :
    given.Same { edited with root := given.root.shift offset } := by
  refine ⟨fun first second => first < given.objects.size ∧ second = first + offset,
    ⟨⟨?_, ?_⟩, ?_⟩, Value.agrees_shift closed.root⟩
  · rintro first second third ⟨-, one⟩ ⟨-, two⟩
    omega
  · rintro first second third ⟨-, one⟩ ⟨-, two⟩
    omega
  · rintro first second ⟨inside, rfl⟩
    have shifted : Document.object { edited with root := given.root.shift offset }
        (first + offset) = (given.object first).shift offset := kept first inside
    rw [shifted]
    refine ⟨(Object.kind_shift _ _).symm, ?_⟩
    rw [Object.parts_shift, List.forall₂_map_right_iff, List.forall₂_same]
    exact fun part held => Value.agrees_shift (closed.parts first part held)

/-! ## The items of a list -/

/-- The items of a document that is a list, each as a document. -/
def items? (document : Document) : Option (List Document) :=
  match document.root with
  | .ref id =>
      match document.object id with
      | .list items => some (items.map fun item => { document with root := item })
      | _ => none
  | _ => none

theorem items?_list {items : List Value} (list : document.object id = .list items) :
    items? { document with root := .ref id } =
      some (items.map fun item => { document with root := item }) := by
  have same : Document.object { document with root := .ref id } id = .list items := list
  simp only [items?, same]

/-- A mapping is no list. -/
theorem items?_mapping {entries : List (Value × Value)}
    (mapping : document.object id = .mapping entries) :
    items? { document with root := .ref id } = none := by
  have same : Document.object { document with root := .ref id } id = .mapping entries := mapping
  simp only [items?, same]

/-- Documents that are the same have items that are the same, one by one. -/
theorem items?_same {items : List Document} (same : left.Same right)
    (listed : left.items? = some items) :
    ∃ others, right.items? = some others ∧ List.Forall₂ Same items others := by
  obtain ⟨pairs, paired, roots⟩ := same
  rw [items?] at listed ⊢
  split at listed
  · next id root =>
      split at listed
      · next values list =>
          cases listed
          rw [root] at roots
          generalize right.root = other at roots
          cases roots with
          | @ref _ second belong =>
              have alike := (paired.objects id second belong).alike
              rw [list] at alike
              dsimp only
              generalize right.object second = held at alike
              cases alike with
              | list each =>
                  refine ⟨_, rfl, ?_⟩
                  rw [List.forall₂_map_left_iff, List.forall₂_map_right_iff]
                  exact each.imp fun _ _ agrees => ⟨pairs, ⟨paired.unique, paired.objects⟩, agrees⟩
          | atom atom => cases atom
      · cases listed
  · cases listed

end Document
end Yaml

namespace Edit

variable {document given edited again : Document} {value : Value} {key : Text}
  {parts rest : List Text} {items : List Value} {changed id : Nat}

/-! ## Lists under a key -/

theorem items?_shownAt (leads : LeadsToList document document.root parts items) :
    (shownAt document parts).items? = some (items.map fun item => { document with root := item }) := by
  obtain ⟨id, found, list⟩ := leads
  rw [shownAt, found]
  exact Document.items?_list list

/-- A list of a document that has taken further objects over was there before. -/
theorem Extends.leadsToList {grown : Document} (extended : Extends document grown)
    (mapping : Settings.IsMapping document)
    (there : lookup? grown document.root parts = some (.ref id))
    (list : grown.object id = .list items) : LeadsToList document document.root parts items := by
  rw [extended.lookup?_eq mapping.closed mapping.closed.root] at there
  have inside := inside_of_lookup? mapping.closed mapping.closed.root there id rfl
  exact ⟨id, there, (extended.object id inside).symm.trans list⟩

/-! ## What the removal of a key does -/

/-- What the removal of a key makes of a document: nothing if the key leads nowhere; or else it
takes an entry out of a mapping, or an item out of a list. -/
inductive Deletion (document : Document) (parts : List Text) : Option Document → Prop
  | nothing (missing : lookup? document document.root parts = none) : Deletion document parts none
  | entry {id : Nat} {entries : List (Value × Value)} {found : Value}
      (reached : lookup? document document.root parts.dropLast = some (.ref id))
      (mapping : document.object id = .mapping entries)
      (there : lookup? document document.root parts = some found) :
      Deletion document parts
        (document.setObject id (.mapping (Value.dropKey entries (.str (parts.getLastD [])))))
  | item {id index : Nat} {items : List Value}
      (reached : lookup? document document.root parts.dropLast = some (.ref id))
      (list : document.object id = .list items)
      (position : position? items.length (parts.getLastD []) = some index) :
      Deletion document parts (document.setObject id (.list (items.eraseIdx index)))

/-- A way leads on from where it leads without its last part. -/
theorem lookup?_getLastD (nonempty : parts ≠ []) (document : Document) (value : Value) :
    lookup? document value parts = (lookup? document value parts.dropLast).bind fun parent =>
      child? document parent (parts.getLastD []) := by
  have whole : parts.dropLast ++ [parts.getLastD []] = parts := by
    rw [List.getLastD_eq_getLast?, List.getLast?_eq_some_getLast nonempty]
    exact List.dropLast_append_getLast nonempty
  conv_lhs => rw [← whole, lookup?_append]
  cases lookup? document value parts.dropLast with
  | none => rfl
  | some parent =>
      simp only [Option.bind_some, lookup?]
      cases child? document parent (parts.getLastD []) <;> rfl

theorem requiredParts_of_valid (valid : Edit.parts key = .ok parts) (operation : EditOperation) :
    requiredParts operation key = .ok parts := by
  have filled : key.isEmpty = false := by
    cases key with
    | nil => cases valid
    | cons first rest => rfl
  rw [requiredParts, filled]
  exact valid

/-- Every removal of a key is one of these. -/
theorem deletion_of_delete (valid : Edit.parts key = .ok parts) :
    ∃ outcome, Edit.delete document key = .ok outcome ∧ Deletion document parts outcome := by
  have required := requiredParts_of_valid valid .delete
  have onwards := lookup?_getLastD (Change.eq_fields_of_requiredParts required).2 document
    document.root
  simp only [Edit.delete, required, bind, Except.bind]
  split
  · next id entries leads =>
      obtain ⟨parent, reached, contained⟩ := Option.bind_eq_some_iff.mp leads
      obtain ⟨rfl, same, -⟩ := container?_eq_some contained
      rw [reached, Option.bind_some, child?_mapping same] at onwards
      split
      · next there =>
          obtain ⟨found, there⟩ := Option.isSome_iff_exists.mp there
          exact ⟨_, rfl, .entry reached same (onwards.trans there)⟩
      · next missing =>
          exact ⟨_, rfl, .nothing (onwards.trans (Option.not_isSome_iff_eq_none.mp missing))⟩
  · next id items leads =>
      obtain ⟨parent, reached, contained⟩ := Option.bind_eq_some_iff.mp leads
      obtain ⟨rfl, same, -⟩ := container?_eq_some contained
      rw [reached, Option.bind_some, child?_list same] at onwards
      split
      · next index position => exact ⟨_, rfl, .item reached same position⟩
      · next nowhere =>
          rw [nowhere] at onwards
          exact ⟨_, rfl, .nothing onwards⟩
  · next noMapping noList =>
      refine ⟨_, rfl, .nothing (onwards.trans ?_)⟩
      cases reached : lookup? document document.root parts.dropLast with
      | none => rfl
      | some parent =>
          refine child?_of_no_container (Option.eq_none_iff_forall_ne_some.mpr ?_) _
          rintro ⟨id, object⟩ contained
          have leads : (lookup? document document.root parts.dropLast).bind (container? document) =
              some (id, object) := by
            rw [reached, Option.bind_some, contained]
          obtain ⟨-, -, ⟨entries, rfl⟩ | ⟨items, rfl⟩⟩ := container?_eq_some contained
          · exact noMapping id entries leads
          · exact noList id items leads

/-- Something is removed exactly if the key leads somewhere. -/
theorem Deletion.isSome_eq {outcome : Option Document} (nonempty : parts ≠ [])
    (deletion : Deletion document parts outcome) :
    outcome.isSome = (lookup? document document.root parts).isSome := by
  cases deletion with
  | nothing missing =>
      rw [missing]
      rfl
  | entry _ _ there =>
      rw [there]
      rfl
  | item reached list position =>
      rw [lookup?_getLastD nonempty, reached, Option.bind_some, child?_list list, position,
        Option.bind_some, List.getElem?_eq_getElem (position?_lt position)]
      rfl

/-! ## The way to the altered container -/

section Unshared

variable (mapping : Settings.IsMapping document) (unshared : document.Unshared)

include unshared

/-- Nothing that an object holds leads back to it. -/
theorem not_reaches_of_part {part : Value}
    (found : lookup? document document.root parts = some (.ref id))
    (held : part ∈ (document.object id).parts) : ¬ document.Reaches part id := by
  induction parts using List.reverseRecOn generalizing id part with
  | nil =>
      intro reached
      have root := unshared.root id (Option.some.inj found)
      rcases reached.held with rfl | ⟨between, -, further⟩
      · exact root id held
      · exact root between further
  | append_singleton parts last inductionHypothesis =>
      intro reached
      rw [lookup?_append] at found
      obtain ⟨above, upTo, found⟩ := Option.bind_eq_some_iff.mp found
      obtain ⟨child, here, ⟨⟩⟩ := Option.bind_eq_some_iff.mp found
      obtain ⟨holder, rfl, holds⟩ := mem_parts_of_child? here
      -- Whoever holds the object besides is its only holder, which would reach itself then.
      have only (other : Nat) (further : Value.ref id ∈ (document.object other).parts) :
          other = holder := by
        obtain ⟨position, first⟩ := List.mem_iff_getElem?.mp further
        obtain ⟨another, second⟩ := List.mem_iff_getElem?.mp holds
        exact (unshared.once id other holder position another first second).1
      have apart := inductionHypothesis upTo holds
      rcases reached.held with rfl | ⟨between, reached, further⟩
      · obtain rfl := only id held
        exact apart (.here id)
      · obtain rfl := only between further
        exact apart (.through held reached)

include mapping

/-- The way to the altered container still leads to it. -/
theorem lookup?_of_reached (altered : AlteredAt document edited changed rest)
    (reached : lookup? document document.root parts = some (.ref changed)) :
    lookup? edited document.root parts = some (.ref changed) := by
  rw [lookup?_of_not_met mapping.closed altered mapping.closed.root ?_, reached]
  rintro start more rfl further meets
  have same := congrArg List.length (slots_eq_of_unshared unshared meets reached)
  rw [length_slots, length_slots, List.length_append] at same
  exact further (List.eq_nil_of_length_eq_zero (by omega))

/-- Nothing that an altered object held has changed. -/
theorem same_of_altered {item : Value} (altered : AlteredAt document edited changed rest)
    (reached : lookup? document document.root parts = some (.ref changed))
    (held : item ∈ (document.object changed).parts) :
    Document.Same { document with root := item } { edited with root := item } :=
  Document.same_of_not_reaches mapping.closed altered.kept (mapping.closed.parts changed item held)
    (not_reaches_of_part unshared reached held)

/-- What an alteration keeps of the way to it and of what was taken over before. -/
theorem kept_of_graft (closed : given.Closed)
    (altered : AlteredAt (document.graft given).2 edited changed rest)
    (reached : lookup? (document.graft given).2 document.root parts = some (.ref changed)) :
    AlteredAt document edited changed rest ∧
      lookup? document document.root parts = some (.ref changed) ∧
      lookup? edited document.root parts = some (.ref changed) ∧
      given.Same { edited with root := (document.graft given).1 } := by
  have extended := extends_graft document given
  rw [extended.lookup?_eq mapping.closed mapping.closed.root] at reached
  have inside := inside_of_lookup? mapping.closed mapping.closed.root reached changed rfl
  have alteredHere := extended.alteredAt mapping.closed inside altered
  refine ⟨alteredHere, reached, lookup?_of_reached mapping unshared alteredHere reached,
    Document.same_of_shifted closed fun id within => ?_⟩
  rw [altered.kept _ (by simp [Document.graft]; omega) (by omega),
    Document.object_graft_shifted document given within]

/-! ## Giving a key a value -/

/-- A key that has been given a value leads to it. -/
theorem same_of_set (closed : given.Closed) (ran : Edit.set document key given = .ok edited) :
    given.Same (shownAt edited (key.fields '.')) := by
  obtain ⟨id, root, contained⟩ := mapping.contained
  obtain ⟨found, required, ran⟩ := ok_of_bind ran
  obtain ⟨rfl, nonempty⟩ := Change.eq_fields_of_requiredParts required
  have ran : setAlong (document.graft given).2 document.root (document.graft given).1
      (key.fields '.') = .ok edited := ran
  obtain ⟨changed, reached, altered, leads⟩ := alteredAt_setAlong
    (Change.contained_graft contained given) nonempty (root ▸ ran)
  rw [← root] at reached altered leads
  obtain ⟨alteredHere, -, still, same⟩ := kept_of_graft mapping unshared closed altered reached
  have onTheWay := (stem_isPrefix (document.graft given).2 document.root
    (key.fields '.').dropLast).trans (List.dropLast_prefix _)
  rw [List.prefix_iff_eq_append] at onTheWay
  have whole : lookup? edited edited.root (key.fields '.') = some (document.graft given).1 := by
    rw [alteredHere.root, ← onTheWay, lookup?_append, still]
    exact leads
  rw [shownAt, whole]
  exact same

/-! ## Adding an item -/

/-- The list that a key leads to has got an item, or is a new list of the item. -/
def Appended (document again : Document) (parts : List Text) (item : Document) : Prop :=
  ∃ old new,
    ((shownAt document parts).items? = some old ∨
      lookup? document document.root parts = none ∧ old = []) ∧
    (shownAt again parts).items? = some new ∧
    List.Forall₂ Document.Same (old ++ [item]) new

/-- A list that an item was added to has its items as they were, and the item. -/
theorem appended_of_add (closed : given.Closed) (ran : Edit.add document key given = .ok edited) :
    Appended document edited (key.fields '.') given := by
  obtain ⟨id, root, contained⟩ := mapping.contained
  obtain ⟨found, required, ran⟩ := ok_of_bind ran
  obtain ⟨rfl, -⟩ := Change.eq_fields_of_requiredParts required
  have ran : (addAlong key (document.graft given).2 document.root (key.fields '.') >>=
      appendTo key (document.graft given).1) = .ok edited := ran
  obtain ⟨changed, items, reached, altered, earlier, later⟩ := alteredAt_addAlong
    (Change.contained_graft contained given) (root ▸ ran)
  rw [← root] at reached altered earlier later
  obtain ⟨alteredHere, reachedHere, still, same⟩ :=
    kept_of_graft mapping unshared closed altered reached
  have extended := extends_graft document given
  have onTheWay := List.prefix_iff_eq_append.mp
    (stem_isPrefix (document.graft given).2 document.root (key.fields '.'))
  have leads : LeadsToList edited edited.root (key.fields '.')
      (items ++ [(document.graft given).1]) := by
    obtain ⟨last, leads, list⟩ := later
    refine ⟨last, ?_, list⟩
    rw [alteredHere.root, ← onTheWay, lookup?_append, still]
    exact leads
  refine ⟨items.map fun item => { document with root := item }, _, ?_, items?_shownAt leads, ?_⟩
  · rcases earlier with ⟨id, there, list⟩ | ⟨nothing, rfl⟩
    · exact Or.inl (items?_shownAt (extended.leadsToList mapping there list))
    · rw [extended.lookup?_eq mapping.closed mapping.closed.root] at nothing
      exact Or.inr ⟨nothing, rfl⟩
  · rw [List.map_append]
    refine List.rel_append ?_ (.cons same .nil)
    rw [List.forall₂_map_left_iff, List.forall₂_map_right_iff, List.forall₂_same]
    intro item held
    rcases earlier with ⟨id, there, list⟩ | ⟨-, rfl⟩
    · obtain ⟨id, there, list⟩ := extended.leadsToList mapping there list
      have whole := stem_eq_self there (by rw [container?_list list]; rfl)
      rw [extended.stem_eq mapping.closed mapping.closed.root, whole] at reachedHere
      obtain rfl : id = changed := Value.ref.inj (Option.some.inj (there.symm.trans reachedHere))
      exact same_of_altered mapping unshared alteredHere reachedHere (by rw [list]; exact held)
    · exact absurd held List.not_mem_nil

/-! ## Removing a key -/

/-- An item has left the list that held it, and all others stand there in order; or the key is
gone from the mapping. -/
def Removed (document again : Document) (parts : List Text) : Prop :=
  match (shownAt document parts.dropLast).items? with
  | some old =>
      ∃ index new, position? old.length (parts.getLastD []) = some index ∧
        (shownAt again parts.dropLast).items? = some new ∧
        List.Forall₂ Document.Same (old.eraseIdx index) new
  | none => lookup? again again.root parts = none

/-- What is removed is gone, and nothing else. -/
theorem removed_of_deletion (nonempty : parts ≠ [])
    (deletion : Deletion document parts (some edited)) : Removed document edited parts := by
  cases deletion with
  | @entry id entries found reached same there =>
      have contained : (container? document (.ref id)).isSome = true := by
        rw [container?_mapping same]
        rfl
      have altered := alteredAt_dropKey same (parts.getLastD [])
      have still := lookup?_of_reached mapping unshared altered reached
      have noList : (shownAt document parts.dropLast).items? = none := by
        rw [shownAt, reached]
        exact Document.items?_mapping same
      have differ := mapping.keys id
      rw [same] at differ
      rw [Removed, noList]
      dsimp only
      rw [altered.root, lookup?_getLastD nonempty, still, Option.bind_some,
        child?_mapping (object_setObject_self contained _), Value.look?_dropKey_str differ]
  | @item id index items reached list position =>
      have contained : (container? document (.ref id)).isSome = true := by
        rw [container?_list list]
        rfl
      have altered := alteredAt_setObject (lt_of_container contained) (.list (items.eraseIdx index))
      have still := lookup?_of_reached mapping unshared altered reached
      rw [Removed, items?_shownAt ⟨id, reached, list⟩]
      refine ⟨index, _, by rwa [List.length_map],
        items?_shownAt ⟨id, still, object_setObject_self contained _⟩, ?_⟩
      rw [List.eraseIdx_map, List.forall₂_map_left_iff, List.forall₂_map_right_iff,
        List.forall₂_same]
      intro item held
      exact same_of_altered mapping unshared altered reached
        (by rw [list]; exact List.mem_of_mem_eraseIdx held)

end Unshared

/-! ## The document that is read again -/

section Again

variable (same : edited.Same again)

include same

/-- What a document shows of a list, a document that is the same shows as well. -/
theorem items?_again {items : List Document} (listed : (shownAt edited parts).items? = some items) :
    ∃ others, (shownAt again parts).items? = some others ∧
      List.Forall₂ Document.Same items others :=
  Document.items?_same (same_shownAt same parts) listed

theorem appended_again {item : Document} (appended : Appended document edited parts item) :
    Appended document again parts item := by
  obtain ⟨old, new, earlier, listed, each⟩ := appended
  obtain ⟨others, listedAgain, eachAgain⟩ := items?_again same listed
  exact ⟨old, others, earlier, listedAgain, forall₂_trans (fun first next => first.trans next) each eachAgain⟩

theorem removed_again (removed : Removed document edited parts) : Removed document again parts := by
  rw [Removed] at removed ⊢
  split at removed
  · next old list =>
      obtain ⟨index, new, position, listed, each⟩ := removed
      obtain ⟨others, listedAgain, eachAgain⟩ := items?_again same listed
      exact ⟨index, others, position, listedAgain, forall₂_trans (fun first next => first.trans next) each eachAgain⟩
  · obtain ⟨pairs, paired, roots⟩ := same
    have found := lookup?_agrees paired roots parts
    rw [removed] at found
    generalize lookup? again again.root parts = there at found
    cases found
    rfl

end Again
end Edit

namespace Editor

variable {editor : Editor} {tree after : Tree} {document edited value : Document}
  {key : Text} {parts : List Text}

/-- What is read of a file is an empty mapping, or the file is there. -/
theorem stored_of_read (read : editor.read tree = .ok document) :
    document = Document.emptyMapping ∨
      ∃ content changed, tree.entry editor.file = .ok (.file content changed) := by
  rw [Editor.read, Settings.readDocument_eq, Tree.readText, Tree.readBytes] at read
  cases there : tree.entry editor.file with
  | ok entry =>
      rw [there] at read
      cases entry with
      | file content changed => exact Or.inr ⟨content, changed, rfl⟩
      | directory entries => cases read
  | error why =>
      rw [there] at read
      cases why with
      | missing =>
          cases read
          exact Or.inl rfl
      | _ => cases read

/-- No key leads anywhere in an empty mapping. -/
theorem lookup?_emptyMapping (nonempty : parts ≠ []) :
    Edit.lookup? Document.emptyMapping Document.emptyMapping.root parts = none := by
  cases parts with
  | nil => exact absurd rfl nonempty
  | cons part rest => rfl

/-- What has been made is written. -/
theorem written_of_made {made : Except SettingsFault Document}
    (ended : (do
      let document ← made
      return (document, ← editor.write tree document)) = .ok (edited, after)) :
    made = .ok edited ∧ editor.write tree edited = .ok after := by
  obtain ⟨document, made, ended⟩ := ok_of_bind ended
  obtain ⟨written, write, ended⟩ := ok_of_bind ended
  cases ended
  exact ⟨made, write⟩

theorem ok_of_set (ended : editor.set tree key value = .ok (edited, after)) :
    ∃ document, editor.read tree = .ok document ∧ Edit.set document key value = .ok edited ∧
      editor.write tree edited = .ok after := by
  obtain ⟨document, read, ended⟩ := ok_of_bind ended
  obtain ⟨ran, write⟩ := written_of_made ended
  exact ⟨document, read, Edit.Change.settle_eq_ok_iff.mp ran, write⟩

theorem ok_of_add (ended : editor.add tree key value = .ok (edited, after)) :
    ∃ document, editor.read tree = .ok document ∧ Edit.add document key value = .ok edited ∧
      editor.write tree edited = .ok after := by
  obtain ⟨document, read, ended⟩ := ok_of_bind ended
  obtain ⟨ran, write⟩ := written_of_made ended
  exact ⟨document, read, Edit.Change.settle_eq_ok_iff.mp ran, write⟩

/-- The removal of a key from a document that was read succeeds, whether the key is there or
not. -/
theorem delete_total (placed : editor.Placed) (read : editor.read tree = .ok document)
    (valid : Edit.parts key = .ok parts) :
    ∃ outcome after, (Edit.Change.delete key).run document = .ok outcome ∧
      Edit.Deletion document parts outcome ∧
      editor.delete tree key = .ok (outcome.isSome, after) ∧
      editor.writeIfEdited tree outcome = .ok after := by
  have nonempty := (Edit.Change.eq_fields_of_requiredParts
    (Edit.requiredParts_of_valid valid .delete)).2
  obtain ⟨outcome, ran, deletion⟩ : ∃ outcome, Edit.delete document key = .ok outcome ∧
      Edit.Deletion document parts outcome := Edit.deletion_of_delete valid
  have run : (Edit.Change.delete key).run document = .ok outcome := by
    rw [Edit.Change.run, ran]
    rfl
  cases outcome with
  | none =>
      refine ⟨none, tree, run, deletion, ?_, rfl⟩
      simp only [delete, read, ran, settle, bind, Except.bind]
      rfl
  | some edited =>
      have there := deletion.isSome_eq nonempty
      rcases stored_of_read read with rfl | ⟨content, changed, stored⟩
      · rw [lookup?_emptyMapping nonempty] at there
        cases there
      · obtain ⟨after, written⟩ := write_of_stored placed stored edited
        refine ⟨some edited, after, run, deletion, ?_, written⟩
        simp only [delete, read, ran, settle, bind, Except.bind, written]
        rfl

/-- What the edits of a key make of it, in a document in which nothing is shared.  A key that
was set has its value.  A key that was added to has its list with the item behind it.  The
removal of a key answers whether the key led anywhere, and the key is gone then; or if it named
an item of a list, that one item is. -/
theorem get_after_edit (placed : editor.Placed) (read : editor.read tree = .ok document)
    (unshared : document.Unshared) (valid : Edit.parts key = .ok parts) (closed : value.Closed) :
    (∀ edited after, editor.set tree key value = .ok (edited, after) →
      Settings.ReadsBack edited →
        ∃ later, editor.get after key = .ok later ∧ value.Same later) ∧
    (∀ edited after, editor.add tree key value = .ok (edited, after) →
      Settings.ReadsBack edited →
        ∃ again, editor.read after = .ok again ∧
          editor.get after key = .ok (Edit.shownAt again parts) ∧
          Edit.Appended document again parts value) ∧
    ∃ after, editor.delete tree key =
        .ok ((Edit.lookup? document document.root parts).isSome, after) ∧
      ((Edit.lookup? document document.root parts).isSome = true →
        (∀ edited, (Edit.Change.delete key).run document = .ok (some edited) →
          Settings.ReadsBack edited) →
        ∃ again, editor.read after = .ok again ∧ Edit.Removed document again parts) := by
  have mapping := Settings.isMapping_readDocument read
  obtain ⟨fields, nonempty⟩ := Edit.Change.eq_fields_of_requiredParts
    (Edit.requiredParts_of_valid valid .set)
  refine ⟨fun edited after ended readsBack => ?_, fun edited after ended readsBack => ?_, ?_⟩
  · obtain ⟨_, readToo, ran, written⟩ := ok_of_set ended
    cases read.symm.trans readToo
    obtain ⟨again, readAgain, same⟩ := read_of_write placed readsBack written
    exact ⟨_, get_eq readAgain valid, fields ▸
      (Edit.same_of_set mapping unshared closed ran).trans (Edit.same_shownAt same _)⟩
  · obtain ⟨_, readToo, ran, written⟩ := ok_of_add ended
    cases read.symm.trans readToo
    obtain ⟨again, readAgain, same⟩ := read_of_write placed readsBack written
    exact ⟨again, readAgain, get_eq readAgain valid, fields ▸
      Edit.appended_again same (Edit.appended_of_add mapping unshared closed ran)⟩
  · obtain ⟨outcome, after, run, deletion, ended, written⟩ := delete_total placed read valid
    rw [← deletion.isSome_eq nonempty]
    refine ⟨after, ended, fun found readsBack => ?_⟩
    obtain ⟨edited, rfl⟩ := Option.isSome_iff_exists.mp found
    obtain ⟨again, readAgain, same⟩ := read_of_write placed (readsBack edited run) written
    exact ⟨again, readAgain, Edit.removed_again same
      (Edit.removed_of_deletion mapping unshared nonempty deletion)⟩

/-- A list under one key. -/
def listed (items : List Value) : Document where
  objects := #[.mapping [(.str ['l'], .ref 2)], .vacant, .list items, .vacant, .vacant]
  root := .ref 0

/-- A settings file with a list. -/
def listFile : Tree :=
  Settings.lonelyFile (Utf8.encode "l:\n- 1\n- 2\n".toList)

theorem unshared_listed : (listed [.int 1, .int 2]).Unshared := by
  -- Only the list is referred to, and that from one place.
  have only (holder position id : Nat)
      (held : ((listed [.int 1, .int 2]).object holder).parts[position]? = some (.ref id)) :
      holder = 0 ∧ position = 1 ∧ id = 2 := by
    match holder, position with
    | 0, 0 => cases held
    | 0, 1 => cases held; exact ⟨rfl, rfl, rfl⟩
    | 0, _ + 2 => cases held
    | 2, 0 | 2, 1 | 2, _ + 2 => cases held
    | 1, _ | 3, _ | 4, _ => cases held
    | holder + 5, _ =>
        rw [Document.object_of_not_lt (by simp [listed])] at held
        cases held
  constructor
  · rintro id root holder held
    obtain ⟨position, held⟩ := List.mem_iff_getElem?.mp held
    obtain ⟨-, -, rfl⟩ := only holder position id held
    cases root
  · intro id first second position another held heldToo
    obtain ⟨rfl, rfl, -⟩ := only first position id held
    obtain ⟨rfl, rfl, -⟩ := only second another id heldToo
    exact ⟨rfl, rfl⟩

theorem readsBack_replaced : Settings.ReadsBack (listed [.int 1, .int 3]) := by
  have read : Settings.interpret [] (listed [.int 1, .int 3]).render.unifyNewlines =
      .ok (listed [.int 1, .int 3]) := by
    decide +kernel
  exact fun name => ⟨_, Settings.interpret_congr read, .refl _⟩

theorem readsBack_shortened : Settings.ReadsBack (listed [.int 1]) := by
  have read : Settings.interpret [] (listed [.int 1]).render.unifyNewlines =
      .ok { listed [.int 1] with objects := (listed [.int 1]).objects.pop } := by
    decide +kernel
  refine fun name => ⟨_, Settings.interpret_congr read, Document.same_of_objects rfl fun id => ?_⟩
  match id with
  | 0 | 1 | 2 | 3 | 4 => rfl
  | id + 5 =>
      rw [Document.object_of_not_lt (by simp [listed]), Document.object_of_not_lt (by simp [listed])]

/-- The last item of the list is replaced, and is removed. -/
theorem get_after_edit_of_item :
    (∃ edited after later,
      lonelyEditor.set listFile "l.-1".toList { root := .int 3 } = .ok (edited, after) ∧
      lonelyEditor.get after "l.-1".toList = .ok later ∧
      Document.Same { root := .int 3 } later) ∧
    ∃ after again, lonelyEditor.delete listFile "l.-1".toList = .ok (true, after) ∧
      lonelyEditor.read after = .ok again ∧
      Edit.Removed (listed [.int 1, .int 2]) again [['l'], ['-', '1']] := by
  have read : lonelyEditor.read listFile = .ok (listed [.int 1, .int 2]) := by decide +kernel
  obtain ⟨setting, -, removal⟩ := get_after_edit lonelyEditor_placed read unshared_listed
    (show Edit.parts "l.-1".toList = .ok [['l'], ['-', '1']] by decide)
    (show Document.Closed { root := .int 3 } from Document.closed_of_isAtom rfl)
  constructor
  · have made : (lonelyEditor.set listFile "l.-1".toList { root := .int 3 }).map Prod.fst =
        .ok (listed [.int 1, .int 3]) := by decide +kernel
    obtain ⟨⟨edited, after⟩, ended, rfl⟩ := map_eq_ok_iff.mp made
    obtain ⟨later, shown, same⟩ := setting _ after ended readsBack_replaced
    exact ⟨_, after, later, ended, shown, same⟩
  · have ran : Edit.Change.run (listed [.int 1, .int 2]) (.delete "l.-1".toList) =
        .ok (some (listed [.int 1])) := by decide +kernel
    obtain ⟨after, ended, removed⟩ := removal
    obtain ⟨again, readAgain, gone⟩ := removed rfl fun edited made => by
      rw [ran] at made
      cases made
      exact readsBack_shortened
    exact ⟨after, again, ended, readAgain, gone⟩

end Editor
end Codemap
