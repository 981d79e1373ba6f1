import Codemap.Proofs.Settings.Alteration
import Codemap.Proofs.Settings.Change
import Codemap.Proofs.Text.Words

namespace Codemap

/-!
# Edits are local

An edit is seen from the keys that lie on the way of its own key or continue it.  Every other
key has the value that it had, unless the two ways meet in one object: a document may refer to
one mapping or list from several places, and then the container that an edit alters can be
found under other keys as well.  An item that leaves a list moves the items behind it, so an
edit that deletes one is about the whole list.
-/

open Yaml

namespace Edit

variable {document edited before after : Document} {value : Value} {other rest : List Text}
  {changed : Nat} {change : Change}

/-! ## Ways beside what is altered -/

/-- A way that meets an altered object only at its end leads where it led. -/
theorem lookup?_of_not_met (closed : before.Closed) (altered : AlteredAt before after changed rest)
    (inside : value.Inside before.objects.size)
    (unmet : ∀ start more, other = start ++ more → more ≠ [] →
      lookup? before value start ≠ some (.ref changed)) :
    lookup? after value other = lookup? before value other := by
  induction other generalizing value with
  | nil => rfl
  | cons part others inductionHypothesis =>
      have here : value ≠ .ref changed := fun same =>
        unmet [] (part :: others) rfl (List.cons_ne_nil part others) (by rw [same]; rfl)
      have kept : child? after value part = child? before value part := by
        cases value with
        | ref id =>
            have different : id ≠ changed := fun same => here (by rw [same])
            rw [child?, child?, container?, container?, altered.kept id (inside id rfl) different]
        | _ => rfl
      rw [lookup?, lookup?, kept]
      cases found : child? before value part with
      | none => rfl
      | some child =>
          refine inductionHypothesis (inside_of_child? closed found) fun start more split further => ?_
          have onwards := unmet (part :: start) more (by rw [split]; rfl) further
          rwa [lookup?, found] at onwards

/-- A way out of the altered object, apart from what is altered, leads where it led if it does
not meet the object again. -/
theorem lookup?_of_beside {part : Text} (closed : before.Closed)
    (altered : AlteredAt before after changed rest)
    (apart : Apart (slots before (.ref changed) (part :: other)) (slots before (.ref changed) rest))
    (unmet : ∀ child start more, child? before (.ref changed) part = some child →
      other = start ++ more → more ≠ [] → lookup? before child start ≠ some (.ref changed)) :
    lookup? after (.ref changed) (part :: other) = lookup? before (.ref changed) (part :: other) := by
  rcases altered.beside part other apart with kept | ⟨early, late⟩
  · rw [lookup?, lookup?, kept]
    cases found : child? before (.ref changed) part with
    | none => rfl
    | some child =>
        exact lookup?_of_not_met closed altered (inside_of_child? closed found)
          fun start more => unmet child start more found
  · rw [early, late]

/-- A way apart from that of an edit leads where it led, if it meets the altered container only
where the edit does. -/
theorem lookup?_of_apart (stem : List Text) (closed : before.Closed)
    (altered : AlteredAt before after changed rest) (inside : value.Inside before.objects.size)
    (apart : Apart (slots before value other)
      (slots before value stem ++ slots before (.ref changed) rest))
    (along : ∀ start more, other = start ++ more → more ≠ [] →
      lookup? before value start = some (.ref changed) →
        slots before value start = slots before value stem) :
    lookup? after value other = lookup? before value other := by
  by_cases met : ∃ start more, other = start ++ more ∧ more ≠ [] ∧
      lookup? before value start = some (.ref changed)
  · obtain ⟨start, more, rfl, further, meets⟩ := met
    have same := along start more rfl further meets
    -- All beginnings that meet the container are equally long, so there is only one.
    have once (first second : List Text) (split : start ++ more = first ++ second)
        (proper : second ≠ []) (again : lookup? before value first = some (.ref changed)) :
        first.length = start.length := by
      have equal := (along first second split proper again).trans same.symm
      rw [← length_slots before value first, equal, length_slots]
    have upTo : lookup? after value start = lookup? before value start := by
      refine lookup?_of_not_met closed altered inside fun first second split proper again => ?_
      have short := once first (second ++ more) (by rw [split, List.append_assoc])
        (fun nil => proper (List.append_eq_nil_iff.mp nil).1) again
      rw [split, List.length_append] at short
      exact proper (List.eq_nil_of_length_eq_zero (by omega))
    rw [lookup?_append, lookup?_append, upTo, meets, Option.bind_some, Option.bind_some]
    rw [slots_append meets, same] at apart
    obtain ⟨part, others, rfl⟩ := List.exists_cons_of_ne_nil further
    refine lookup?_of_beside closed altered
      ⟨fun above => apart.1 ((List.prefix_append_right_inj _).mpr above),
        fun below => apart.2 ((List.prefix_append_right_inj _).mpr below)⟩ ?_
    intro child first second found split proper again
    have long := once (start ++ part :: first) second (by simp [split]) proper (by
      rw [lookup?_append, meets, Option.bind_some, lookup?, found]
      exact again)
    rw [List.length_append, List.length_cons] at long
    omega
  · refine lookup?_of_not_met closed altered inside fun start more split further meets => ?_
    exact met ⟨start, more, split, further, meets⟩

/-! ## What a change is about -/

namespace Change

/-- The parts of the key of a change. -/
def parts (change : Change) : List Text :=
  change.key.fields '.'

/-- The parts along which a change looks for a container. -/
def way : Change → List Text
  | .set key _ | .delete key => (key.fields '.').dropLast
  | .add key _ | .remove key _ => key.fields '.'

/-- The way to the container that a change alters. -/
def stem (document : Document) (change : Change) : List Text :=
  Edit.stem document document.root change.way

/-- What a change is about: what its key names, or the whole list if an item of a list is
deleted. -/
def site (document : Document) (change : Change) : List Slot :=
  match change, (lookup? document document.root change.way).bind (container? document) with
  | .delete _, some (_, .list _) => slots document document.root change.way
  | _, _ => slots document document.root change.parts

/-- A key that a change is not about: its way neither leads to the place of the change nor goes
beyond. -/
def Spares (document : Document) (change : Change) (other : List Text) : Prop :=
  ¬ slots document document.root other <+: slots document document.root change.parts ∧
    ¬ change.site document <+: slots document document.root other

instance (document : Document) (change : Change) (other : List Text) :
    Decidable (change.Spares document other) :=
  inferInstanceAs (Decidable (_ ∧ _))

/-- No alias leads from a key into the container that a change alters: its way meets the
container only where the change does, and its value does not reach it. -/
structure Unaliased (document : Document) (change : Change) (other : List Text) : Prop where
  along : ∀ start more, other = start ++ more → more ≠ [] →
    lookup? document document.root start = lookup? document document.root (change.stem document) →
      slots document document.root start = slots document document.root (change.stem document)
  below : ∀ value id, lookup? document document.root other = some value →
    lookup? document document.root (change.stem document) = some (.ref id) →
      ¬ document.Reaches value id

/-- What a change has altered, and where. -/
structure Altering (change : Change) (before after : Document) (changed : Nat) (rest : List Text) :
    Prop where
  reached : lookup? before before.root (change.stem before) = some (.ref changed)
  altered : AlteredAt before after changed rest
  site : change.site before =
    slots before before.root (change.stem before) ++ slots before (.ref changed) rest

theorem eq_fields_of_requiredParts {operation : EditOperation} {key : Text} {found : List Text}
    (read : requiredParts operation key = .ok found) : found = key.fields '.' ∧ found ≠ [] := by
  rw [requiredParts] at read
  split at read
  · cases read
  · rw [Edit.parts] at read
    split at read
    · cases read
    · cases read
      refine ⟨rfl, ?_⟩
      rw [Text.fields_eq_splitOn]
      exact List.splitOn_ne_nil _ _

theorem settle_eq_ok_iff {α : Type} {outcome : Except Refusal α} {value : α} :
    Editor.settle outcome = .ok value ↔ outcome = .ok value := by
  cases outcome <;> simp [Editor.settle]

/-! ### What is altered by a change -/

/-- Taking over the objects of another document keeps containers. -/
theorem contained_graft {id : Nat} (contained : (container? document (.ref id)).isSome = true)
    (given : Document) : (container? (document.graft given).2 (.ref id)).isSome = true := by
  rw [container?, (extends_graft document given).object id (lt_of_container contained)]
  exact contained

/-- What is altered once the objects of another document have been taken over. -/
theorem altering_of_graft (given : Document) (mapping : Settings.IsMapping document)
    (way : change.way <+: change.parts)
    (site : change.site document = slots document document.root change.parts)
    (altered : ∃ changed, lookup? (document.graft given).2 document.root
      (Edit.stem (document.graft given).2 document.root change.way) = some (.ref changed) ∧
        AlteredAt (document.graft given).2 edited changed
          (change.parts.drop
            (Edit.stem (document.graft given).2 document.root change.way).length)) :
    ∃ changed rest, change.Altering document edited changed rest := by
  have extended := extends_graft document given
  have closed := mapping.closed
  obtain ⟨changed, reached, altered⟩ := altered
  rw [extended.stem_eq closed closed.root, extended.lookup?_eq closed closed.root] at reached
  rw [extended.stem_eq closed closed.root] at altered
  have inside := inside_of_lookup? closed closed.root reached changed rfl
  refine ⟨changed, _, reached, extended.alteredAt closed inside altered, ?_⟩
  have split := List.prefix_iff_eq_append.mp ((stem_isPrefix document document.root change.way).trans way)
  rw [site, stem, ← slots_append reached, split]

theorem altering_of_set {key : Text} {given : Document} (mapping : Settings.IsMapping document)
    (ran : Edit.set document key given = .ok edited) :
    ∃ changed rest, (Change.set key given).Altering document edited changed rest := by
  obtain ⟨id, root, contained⟩ := mapping.contained
  obtain ⟨found, required, ran⟩ := ok_of_bind ran
  obtain ⟨rfl, nonempty⟩ := eq_fields_of_requiredParts required
  have ran : setAlong (document.graft given).2 document.root (document.graft given).1
      (key.fields '.') = .ok edited := ran
  refine altering_of_graft given mapping (List.dropLast_prefix _) rfl ?_
  rw [root] at ran ⊢
  obtain ⟨changed, reached, altered, -⟩ :=
    alteredAt_setAlong (contained_graft contained given) nonempty ran
  exact ⟨changed, reached, altered⟩

theorem altering_of_add {key : Text} {item : Document} (mapping : Settings.IsMapping document)
    (ran : Edit.add document key item = .ok edited) :
    ∃ changed rest, (Change.add key item).Altering document edited changed rest := by
  obtain ⟨id, root, contained⟩ := mapping.contained
  obtain ⟨found, required, ran⟩ := ok_of_bind ran
  obtain ⟨rfl, nonempty⟩ := eq_fields_of_requiredParts required
  have ran : (addAlong key (document.graft item).2 document.root (key.fields '.') >>=
      appendTo key (document.graft item).1) = .ok edited := ran
  refine altering_of_graft item mapping (List.prefix_refl _) rfl ?_
  rw [root] at ran ⊢
  obtain ⟨changed, -, reached, altered, -⟩ :=
    alteredAt_addAlong (contained_graft contained item) ran
  exact ⟨changed, reached, altered⟩

/-- A change whose whole way leads to a container alters this container. -/
theorem reached_of_way (change : Change) {number : Nat} {object : Object}
    (leads : (lookup? document document.root change.way).bind (container? document) =
      some (number, object)) :
    change.stem document = change.way ∧
      lookup? document document.root change.way = some (.ref number) ∧
      (container? document (.ref number)).isSome = true ∧ document.object number = object := by
  obtain ⟨target, reached, isTarget⟩ := Option.bind_eq_some_iff.mp leads
  obtain ⟨rfl, same, -⟩ := container?_eq_some isTarget
  have contained : (container? document (.ref number)).isSome = true := by
    rw [isTarget]
    rfl
  exact ⟨stem_eq_self reached contained, reached, contained, same⟩

/-- A change that leaves out an item of a list alters the whole list. -/
theorem altering_of_list {number : Nat} {items : List Value}
    (leads : (lookup? document document.root change.way).bind (container? document) =
      some (number, .list items))
    (site : change.site document = slots document document.root change.way) (others : List Value) :
    change.Altering document (document.setObject number (.list others)) number [] := by
  obtain ⟨stem, reached, contained, -⟩ := reached_of_way change leads
  refine ⟨by rw [stem, reached], alteredAt_setObject (lt_of_container contained) _, ?_⟩
  rw [site, stem]
  exact (List.append_nil _).symm

theorem altering_of_delete {key : Text} (ran : Edit.delete document key = .ok (some edited)) :
    ∃ changed rest, (Change.delete key).Altering document edited changed rest := by
  obtain ⟨found, required, ran⟩ := ok_of_bind ran
  obtain ⟨rfl, nonempty⟩ := eq_fields_of_requiredParts required
  have whole : (key.fields '.').dropLast ++ [(key.fields '.').getLastD []] = key.fields '.' := by
    rw [List.getLastD_eq_getLast?, List.getLast?_eq_some_getLast nonempty]
    exact List.dropLast_append_getLast nonempty
  dsimp only at ran
  split at ran
  · next number entries leads =>
      split at ran
      · cases ran
        obtain ⟨stem, reached, -, mapping⟩ := reached_of_way (.delete key) leads
        have site : site document (.delete key) = slots document document.root (key.fields '.') := by
          simp only [Change.site, way, leads]
          rfl
        refine ⟨number, _, by rw [stem, reached], alteredAt_dropKey mapping _, ?_⟩
        rw [site, stem, ← slots_append reached, way, whole]
      · cases ran
  · next number items leads =>
      split at ran
      · cases ran
        exact ⟨number, [], altering_of_list leads (by simp only [Change.site, way, leads]) _⟩
      · cases ran
  · cases ran

theorem altering_of_remove {key : Text} {item : Document}
    (ran : Edit.remove document key item = .ok (some edited)) :
    ∃ changed rest, (Change.remove key item).Altering document edited changed rest := by
  rw [Edit.remove] at ran
  split at ran
  · cases ran
  · next found required =>
      obtain ⟨rfl, -⟩ := eq_fields_of_requiredParts required
      split at ran
      · cases ran
      · next target reached =>
          split at ran
          · next number items isTarget =>
              dsimp only at ran
              obtain ⟨index, -, ran⟩ := ok_of_bind ran
              split at ran
              · cases ran
                have leads : (lookup? document document.root (key.fields '.')).bind
                    (container? document) = some (number, .list items) := by
                  rw [reached, Option.bind_some, isTarget]
                exact ⟨number, [], altering_of_list leads rfl _⟩
              · cases ran
          · cases ran

/-- A change that succeeds alters one container. -/
theorem altering_of_run (mapping : Settings.IsMapping document)
    (ran : change.run document = .ok (some edited)) :
    ∃ changed rest, change.Altering document edited changed rest := by
  cases change with
  | set key given =>
      obtain ⟨made, ran, ⟨⟩⟩ := map_eq_ok_iff.mp (settle_eq_ok_iff.mp ran)
      exact altering_of_set mapping ran
  | delete key => exact altering_of_delete (settle_eq_ok_iff.mp ran)
  | add key item =>
      obtain ⟨made, ran, ⟨⟩⟩ := map_eq_ok_iff.mp (settle_eq_ok_iff.mp ran)
      exact altering_of_add mapping ran
  | remove key item => exact altering_of_remove ran

/-- What a change is about lies on the way of its key. -/
theorem site_isPrefix (document : Document) (change : Change) :
    change.site document <+: slots document document.root change.parts := by
  unfold site
  split
  · exact slots_isPrefix _ _ (List.dropLast_prefix _)
  · exact List.prefix_refl _

/-- A key that a change spares leads where it led, unless an alias interferes. -/
theorem lookup?_of_spares (mapping : Settings.IsMapping document)
    (ran : change.run document = .ok (some edited)) (spared : change.Spares document other)
    (unaliased : change.Unaliased document other) :
    lookup? edited document.root other = lookup? document document.root other := by
  obtain ⟨changed, rest, altering⟩ := altering_of_run mapping ran
  refine lookup?_of_apart (change.stem document) mapping.closed altering.altered
    mapping.closed.root ?_ ?_
  · rw [← altering.site]
    exact ⟨fun above => spared.1 (above.trans (site_isPrefix document change)), spared.2⟩
  · intro start more split further meets
    exact unaliased.along start more split further (meets.trans altering.reached.symm)

/-- Without aliases, none interferes. -/
theorem unaliased_of_unshared (unshared : document.Unshared) (mapping : Settings.IsMapping document)
    (ran : change.run document = .ok (some edited)) (spared : change.Spares document other) :
    change.Unaliased document other := by
  obtain ⟨changed, rest, altering⟩ := altering_of_run mapping ran
  have onTheWay : slots document document.root (change.stem document) <+:
      slots document document.root change.parts := by
    refine List.IsPrefix.trans ?_ (site_isPrefix document change)
    rw [altering.site]
    exact List.prefix_append _ _
  constructor
  · intro start more _ _ meets
    have reached := altering.reached
    exact slots_eq_of_unshared unshared (meets.trans reached) reached
  · intro value id found leads reached
    exact spared.1 ((slots_prefix_of_reaches unshared found reached leads).trans onTheWay)

end Change

/-- The document that shows what is found along several parts; the null value if nothing is. -/
def shownAt (document : Document) (parts : List Text) : Document :=
  { document with root := (lookup? document document.root parts).getD .null }

/-- Documents that are the same show the same along all ways. -/
theorem same_shownAt {again : Document} (same : document.Same again) (parts : List Text) :
    (shownAt document parts).Same (shownAt again parts) := by
  obtain ⟨pairs, paired, roots⟩ := same
  refine ⟨pairs, ⟨paired.unique, paired.objects⟩, ?_⟩
  have found := lookup?_agrees paired roots parts
  simp only [shownAt]
  generalize lookup? document document.root parts = left at found
  generalize lookup? again again.root parts = right at found
  cases found with
  | none => exact .atom rfl rfl
  | some alike => exact alike

/-- What a key that a change spares shows is the same after the change. -/
theorem Change.same_shownAt_of_spares (mapping : Settings.IsMapping document)
    (ran : change.run document = .ok (some edited)) (spared : change.Spares document other)
    (unaliased : change.Unaliased document other) :
    (shownAt document other).Same (shownAt edited other) := by
  obtain ⟨changed, rest, altering⟩ := altering_of_run mapping ran
  have still := lookup?_of_spares mapping ran spared unaliased
  rw [shownAt, shownAt, altering.altered.root, still]
  refine Document.same_of_not_reaches mapping.closed altering.altered.kept ?_ ?_
  · cases found : lookup? document document.root other with
    | none => exact Value.inside_of_isAtom rfl
    | some value => exact inside_of_lookup? mapping.closed mapping.closed.root found
  · cases found : lookup? document document.root other with
    | none =>
        intro reached
        cases reached
    | some value => exact unaliased.below value changed found altering.reached

end Edit

namespace Editor

variable {editor : Editor} {tree after : Tree} {document : Document} {change : Edit.Change}
  {key : Text} {other : List Text}

/-- The value of a key is what is found along its parts. -/
theorem get_eq (read : editor.read tree = .ok document) (valid : Edit.parts key = .ok other) :
    editor.get tree key = .ok (Edit.shownAt document other) := by
  have filled : key.isEmpty = false := by
    cases key with
    | nil => cases valid
    | cons first rest => rfl
  simp only [get, read, bind, Except.bind, Edit.get, filled, Bool.false_eq_true, if_false, valid,
    Except.map, settle]
  rfl

/-- An edit is local.  A key that it spares has the same value before and after, if nothing is
shared in the document, or at least no alias connects the key with the container that the edit
alters. -/
theorem get_after_carryOut (placed : editor.Placed) (read : editor.read tree = .ok document)
    (carried : editor.carryOut tree change = .ok after)
    (readsBack : ∀ edited, change.run document = .ok (some edited) → Settings.ReadsBack edited)
    (valid : Edit.parts key = .ok other) (spared : change.Spares document other)
    (apart : document.Unshared ∨ change.Unaliased document other) :
    ∃ earlier later, editor.get tree key = .ok earlier ∧ editor.get after key = .ok later ∧
      earlier.Same later := by
  rw [carryOut_eq, read] at carried
  obtain ⟨_, ⟨⟩, carried⟩ := ok_of_bind carried
  obtain ⟨outcome, ran, written⟩ := ok_of_bind carried
  rcases outcome with - | edited
  · cases written
    exact ⟨_, _, get_eq read valid, get_eq read valid, .refl _⟩
  · obtain ⟨again, readAgain, same⟩ := read_of_write placed (readsBack edited ran) written
    have mapping := Settings.isMapping_readDocument read
    have unaliased : change.Unaliased document other := apart.elim
      (fun unshared => Edit.Change.unaliased_of_unshared unshared mapping ran spared) id
    exact ⟨_, _, get_eq read valid, get_eq readAgain valid,
      (Edit.Change.same_shownAt_of_spares mapping ran spared unaliased).trans
        (Edit.same_shownAt same other)⟩

/-! ## Documents with aliases -/

/-- A mapping that is found under two keys, and a number beside them. -/
def twofold (number : Int) : Document where
  objects := #[.mapping [(.str ['a'], .ref 2), (.str ['b'], .ref 2), (.str ['c'], .int number)],
    .vacant, .mapping [(.str ['k'], .int 1)], .vacant, .vacant, .vacant, .vacant, .vacant]
  root := .ref 0

/-- A settings file with this document. -/
def twofoldFile : Tree :=
  Settings.lonelyFile (Utf8.encode "a: &x\n  k: 1\nb: *x\nc: 1\n".toList)

theorem readsBack_twofold : Settings.ReadsBack (twofold 2) := by
  have read : Settings.interpret [] (twofold 2).render.unifyNewlines = .ok (twofold 2) := by
    decide +kernel
  exact fun name => ⟨twofold 2, Settings.interpret_congr read, .refl _⟩

/-- The change of the number leaves alone what the two keys show. -/
theorem get_after_set_beside :
    ∃ after earlier later,
      lonelyEditor.carryOut twofoldFile (.set ['c'] { root := .int 2 }) = .ok after ∧
      lonelyEditor.get twofoldFile ['b', '.', 'k'] = .ok earlier ∧
      lonelyEditor.get after ['b', '.', 'k'] = .ok later ∧ earlier.Same later := by
  have read : lonelyEditor.read twofoldFile = .ok (twofold 1) := by decide +kernel
  have ran : Edit.Change.run (twofold 1) (.set ['c'] { root := .int 2 }) =
      .ok (some (twofold 2)) := by decide +kernel
  have stored : twofoldFile.entry lonelyEditor.file = .ok (.file _ 0) := rfl
  obtain ⟨after, written⟩ := write_of_stored lonelyEditor_placed stored (twofold 2)
  have carried : lonelyEditor.carryOut twofoldFile (.set ['c'] { root := .int 2 }) = .ok after := by
    rw [carryOut_eq, read]
    simp only [bind, Except.bind, ran, writeIfEdited, written]
  have unaliased : Edit.Change.Unaliased (twofold 1) (.set ['c'] { root := .int 2 })
      [['b'], ['k']] := by
    constructor
    · intro start more split further meets
      rcases start with - | ⟨first, - | ⟨second, start⟩⟩
      · rfl
      · cases split
        exact absurd meets (by decide)
      · cases more with
        | nil => exact absurd rfl further
        | cons part more => simp at split
    · intro value id found _ reached
      have atom : Value.int 1 = value := Option.some.inj found
      subst atom
      cases reached
  obtain ⟨earlier, later, shown, shownAgain, same⟩ :=
    get_after_carryOut lonelyEditor_placed read carried
      (fun edited made => by
        rw [ran] at made
        cases made
        exact readsBack_twofold)
      (show Edit.parts ['b', '.', 'k'] = .ok [['b'], ['k']] from rfl) (by decide) (Or.inr unaliased)
  exact ⟨after, earlier, later, carried, shown, shownAgain, same⟩

/-- A change behind one of the two keys is seen from the other, which it spares. -/
theorem get_after_set_shared :
    lonelyEditor.read twofoldFile = .ok (twofold 1) ∧
    Edit.Change.Spares (twofold 1) (.set ['a', '.', 'k'] { root := .int 2 }) [['b'], ['k']] ∧
    (lonelyEditor.get twofoldFile ['b', '.', 'k']).map Document.root = .ok (.int 1) ∧
    (do
      let after ← lonelyEditor.carryOut twofoldFile (.set ['a', '.', 'k'] { root := .int 2 })
      lonelyEditor.get after ['b', '.', 'k']).map Document.root = .ok (.int 2) := by
  decide +kernel

end Editor
end Codemap
