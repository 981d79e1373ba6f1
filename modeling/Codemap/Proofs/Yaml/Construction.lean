import Codemap.Proofs.Result
import Codemap.Proofs.Yaml.Sharing
import Codemap.Yaml.Construction

namespace Codemap
namespace Yaml

/-!
# Documents that are made are closed

While the values of a document are built, every reference is to an object that has a number
already: a collection gets its object when it is met, before anything refers to it.  So a
document that is read refers to no object that it does not have.

The entries of a mapping are put together one by one, and an entry with a key that is there
already takes the place of the former one.  So no mapping that is read has a key twice.
-/

theorem Scalar.isAtom_value {tag : Tag} {content : Content} {origin : Nat} {value : Value}
    (read : Scalar.value tag content origin = .ok value) : value.isAtom = true := by
  unfold Scalar.value at read
  dsimp only at read
  split at read
  · cases read
    rfl
  · split at read <;> cases read
    · rfl
    · rfl
  · split at read <;> cases read
    rfl
  · split at read <;> cases read
    rfl
  · split at read <;> cases read
    rfl
  · split at read <;> cases read
    rfl
  · split at read
    · split at read <;> cases read
      rfl
    · cases read
  · cases read

/-! ## The keys of a mapping -/

/-- No two keys of a mapping are the same. -/
def Object.KeysDiffer : Object → Prop
  | .mapping entries => entries.Pairwise fun first second => first.1.sameAtom second.1 = false
  | _ => True

/-- An object without parts has no keys. -/
theorem Object.keysDiffer_of_noParts {object : Object} (noParts : object.parts = []) :
    object.KeysDiffer := by
  cases object with
  | mapping entries =>
      cases entries with
      | nil => exact .nil
      | cons entry rest => cases noParts
  | _ => trivial

namespace Value

variable {entries : List (Value × Value)} {key value : Value} {name : Text}

/-- Keys that differed from all others still do when an entry is put. -/
theorem forall_key_put {other : Value} (apart : ∀ entry ∈ entries, other.sameAtom entry.1 = false)
    (different : other.sameAtom key = false) :
    ∀ entry ∈ put entries key value, other.sameAtom entry.1 = false := by
  induction entries with
  | nil => exact List.forall_mem_singleton.mpr different
  | cons entry rest inductionHypothesis =>
      obtain ⟨first, later⟩ := List.forall_mem_cons.mp apart
      rw [put]
      split
      · exact List.forall_mem_cons.mpr ⟨first, later⟩
      · exact List.forall_mem_cons.mpr ⟨first, inductionHypothesis later⟩

theorem keysDiffer_put (differ : (Object.mapping entries).KeysDiffer) (key value : Value) :
    (Object.mapping (put entries key value)).KeysDiffer := by
  induction entries with
  | nil => exact List.pairwise_singleton _ _
  | cons entry rest inductionHypothesis =>
      obtain ⟨first, later⟩ := List.pairwise_cons.mp differ
      rw [put]
      split
      · exact List.pairwise_cons.mpr ⟨first, later⟩
      · next other =>
          exact List.pairwise_cons.mpr
            ⟨forall_key_put first (Bool.not_eq_true _ ▸ other), inductionHypothesis later⟩

/-- A text that is taken out of keys that differ is gone. -/
theorem look?_dropKey_str (differ : (Object.mapping entries).KeysDiffer) :
    look? (dropKey entries (.str name)) (.str name) = none := by
  induction entries with
  | nil => rfl
  | cons entry rest inductionHypothesis =>
      obtain ⟨first, later⟩ := List.pairwise_cons.mp differ
      rw [dropKey]
      split
      · next same =>
          rw [sameAtom_str_iff] at same
          by_contra found
          obtain ⟨value, found⟩ := Option.ne_none_iff_exists'.mp found
          have twice := first _ (mem_of_look? found)
          rw [same, sameAtom_str_iff.mpr rfl] at twice
          cases twice
      · next other =>
          rw [look?, if_neg other]
          exact inductionHypothesis later

end Value

namespace Construction

variable {state next last : Construction} {id : Nat} {value : Value}

/-- What is built so far refers only to objects that are there. -/
structure Sound (state : Construction) : Prop where
  nodes : state.nodes.size ≤ state.objects.size
  built : ∀ (id : Nat) (value : Value), (state.built[id]?).join = some value →
    value.Inside state.objects.size
  parts : ∀ object ∈ state.objects, ∀ part ∈ object.parts, part.Inside state.objects.size
  keys : ∀ object ∈ state.objects, object.KeysDiffer

/-- A state that is sound, and has all the objects of an earlier one. -/
structure Continues (state next : Construction) : Prop extends Sound next where
  grows : state.objects.size ≤ next.objects.size

theorem Sound.continues (sound : Sound state) : Continues state state :=
  ⟨sound, Nat.le_refl _⟩

theorem Continues.trans (first : Continues state next) (second : Continues next last) :
    Continues state last :=
  ⟨second.toSound, Nat.le_trans first.grows second.grows⟩

theorem sound_start (nodes : Array Node) : Sound (start nodes) where
  nodes := by simp [start]
  built := by
    intro id value found
    simp only [start, Array.getElem?_replicate] at found
    split at found <;> cases found
  parts := by
    intro object member part held
    rw [(Array.mem_replicate.mp member).2] at held
    exact absurd held List.not_mem_nil
  keys := by
    intro object member
    rw [(Array.mem_replicate.mp member).2]
    trivial

/-! ## The values of nodes -/

theorem Sound.keep (sound : Sound state) (inside : value.Inside state.objects.size) :
    Continues state (state.keep id value) where
  nodes := sound.nodes
  built := by
    intro other found kept
    simp only [Construction.keep, Array.getElem?_setIfInBounds] at kept
    split at kept
    · split at kept
      · cases kept
        exact inside
      · cases kept
    · exact sound.built other found kept
  parts := sound.parts
  keys := sound.keys
  grows := Nat.le_refl _

theorem Sound.setObject (sound : Sound state) {object : Object} (keys : object.KeysDiffer)
    (inside : ∀ part ∈ object.parts, part.Inside state.objects.size) :
    Continues state (state.setObject id object) where
  nodes := by simpa [Construction.setObject] using sound.nodes
  built := by simpa [Construction.setObject] using sound.built
  parts := by
    intro other member part held
    simp only [Construction.setObject, Array.size_setIfInBounds]
    rcases Array.mem_or_eq_of_mem_setIfInBounds member with old | rfl
    · exact sound.parts other old part held
    · exact inside part held
  keys := by
    intro other member
    rcases Array.mem_or_eq_of_mem_setIfInBounds member with old | rfl
    · exact sound.keys other old
    · exact keys
  grows := by simp [Construction.setObject]

theorem Sound.await (sound : Sound state) (inside : id < state.nodes.size) {empty : Object}
    (noParts : empty.parts = []) :
    Continues state (state.await id empty).2 ∧
      (state.await id empty).1.Inside (state.await id empty).2.objects.size := by
  have known : (Value.ref id).Inside state.objects.size := by
    rintro other ⟨⟩
    exact Nat.lt_of_lt_of_le inside sound.nodes
  have filled : Continues state (state.setObject id empty) :=
    sound.setObject (Object.keysDiffer_of_noParts noParts) (by simp [noParts])
  have kept : Continues (state.setObject id empty) ((state.setObject id empty).keep id (.ref id)) :=
    filled.toSound.keep (by simpa [Construction.setObject] using known)
  have both := filled.trans kept
  exact ⟨⟨⟨both.nodes, both.built, both.parts, both.keys⟩, both.grows⟩, known.mono both.grows⟩

/-- A node of a collection is a node. -/
theorem lt_of_tag {tag : Tag} (known : state.tag id = tag) (different : tag ≠ .foreign) :
    id < state.nodes.size := by
  by_contra beyond
  refine different ?_
  rw [← known, Construction.tag, node, Array.getD_eq_getD_getElem?, Array.getElem?_eq_none (by omega)]
  rfl

theorem build_sound (sound : Sound state) (built : state.build id = .ok (value, next)) :
    Continues state next ∧ value.Inside next.objects.size := by
  rw [build] at built
  split at built
  · next known =>
      cases built
      exact ⟨sound.continues, sound.built id _ known⟩
  · have collection {empty : Object} {tag : Tag} (noParts : empty.parts = [])
        (known : state.tag id = tag) (different : tag ≠ .foreign)
        (awaited : (.ok (state.await id empty) : Except Fault _) = .ok (value, next)) :
        Continues state next ∧ value.Inside next.objects.size := by
      have waits := sound.await (lt_of_tag known different) noParts
      rw [Except.ok.inj awaited] at waits
      exact waits
    split at built
    · next known => exact collection rfl known (by decide) built
    · next known => exact collection rfl known (by decide) built
    · next known => exact collection rfl known (by decide) built
    · next known => exact collection rfl known (by decide) built
    · next known => exact collection rfl known (by decide) built
    · cases built
    · cases built
    · cases built
    · obtain ⟨text, -, built⟩ := ok_of_bind built
      split at built
      · cases built
      · obtain ⟨found, read, built⟩ := ok_of_bind built
        cases built
        have inside (bound : Nat) : value.Inside bound :=
          Value.inside_of_isAtom (Scalar.isAtom_value read)
        exact ⟨sound.keep (inside _), inside _⟩

/-- Values that a state has. -/
def HasAll (state : Construction) (values : List Value) : Prop :=
  ∀ value ∈ values, value.Inside state.objects.size

theorem HasAll.mono {values : List Value} (all : HasAll state values)
    (grows : state.objects.size ≤ next.objects.size) : HasAll next values :=
  fun value member => (all value member).mono grows

theorem buildAll_sound {ids : List Nat} {values : List Value} (sound : Sound state)
    (built : state.buildAll ids = .ok (values, next)) : Continues state next ∧ HasAll next values := by
  induction ids generalizing state values with
  | nil =>
      cases built
      exact ⟨sound.continues, fun _ member => absurd member List.not_mem_nil⟩
  | cons id rest inductionHypothesis =>
      rw [buildAll] at built
      obtain ⟨⟨value, between⟩, first, built⟩ := ok_of_bind built
      obtain ⟨⟨others, last⟩, later, built⟩ := ok_of_bind built
      cases built
      obtain ⟨begun, here⟩ := build_sound sound first
      obtain ⟨ended, there⟩ := inductionHypothesis begun.toSound later
      exact ⟨begun.trans ended, List.forall_mem_cons.mpr ⟨here.mono ended.grows, there⟩⟩

theorem forall_parts_put {entries : List (Value × Value)} {key value : Value} {bound : Nat}
    (all : ∀ part ∈ (Object.mapping entries).parts, part.Inside bound) (keyInside : key.Inside bound)
    (inside : value.Inside bound) :
    ∀ part ∈ (Object.mapping (Value.put entries key value)).parts, part.Inside bound := by
  induction entries with
  | nil => exact List.forall_mem_cons.mpr ⟨keyInside, List.forall_mem_singleton.mpr inside⟩
  | cons entry rest inductionHypothesis =>
      obtain ⟨other, old⟩ := entry
      obtain ⟨otherInside, all⟩ := List.forall_mem_cons.mp all
      obtain ⟨oldInside, all⟩ := List.forall_mem_cons.mp all
      rw [Value.put]
      split
      · exact List.forall_mem_cons.mpr ⟨otherInside, List.forall_mem_cons.mpr ⟨inside, all⟩⟩
      · exact List.forall_mem_cons.mpr
          ⟨otherInside, List.forall_mem_cons.mpr ⟨oldInside, inductionHypothesis all⟩⟩

theorem buildEntries_sound {pairs : List (Nat × Nat)} {done entries : List (Value × Value)}
    (sound : Sound state) (all : HasAll state (Object.mapping done).parts)
    (differ : (Object.mapping done).KeysDiffer)
    (built : state.buildEntries done pairs = .ok (entries, next)) :
    Continues state next ∧ HasAll next (Object.mapping entries).parts ∧
      (Object.mapping entries).KeysDiffer := by
  induction pairs generalizing state done with
  | nil =>
      cases built
      exact ⟨sound.continues, all, differ⟩
  | cons pair rest inductionHypothesis =>
      obtain ⟨keyId, valueId⟩ := pair
      rw [buildEntries] at built
      obtain ⟨⟨key, between⟩, first, built⟩ := ok_of_bind built
      dsimp only at built
      split at built
      · cases built
      · obtain ⟨⟨value, last⟩, second, built⟩ := ok_of_bind built
        obtain ⟨begun, keyInside⟩ := build_sound sound first
        obtain ⟨followed, inside⟩ := build_sound begun.toSound second
        have both := begun.trans followed
        obtain ⟨ended, entries⟩ := inductionHypothesis followed.toSound
          (forall_parts_put (all.mono both.grows) (keyInside.mono followed.grows) inside)
          (Value.keysDiffer_put differ key value) built
        exact ⟨both.trans ended, entries⟩

theorem Sound.push (sound : Sound state) (object : Object) (keys : object.KeysDiffer)
    (inside : ∀ part ∈ object.parts, part.Inside state.objects.size) :
    Continues state { state with objects := state.objects.push object } where
  nodes := by
    have nodes := sound.nodes
    simp only [Array.size_push]
    omega
  built := fun id value found => (sound.built id value found).mono (by simp)
  parts := by
    intro other member part held
    refine Value.Inside.mono ?_ (by simp : state.objects.size ≤ _)
    rcases Array.mem_push.mp member with old | rfl
    · exact sound.parts other old part held
    · exact inside part held
  keys := by
    intro other member
    rcases Array.mem_push.mp member with old | rfl
    · exact sound.keys other old
    · exact keys
  grows := by simp

theorem buildPairs_sound {ids : List Nat} {values : List Value} (sound : Sound state)
    (built : state.buildPairs ids = .ok (values, next)) : Continues state next ∧ HasAll next values := by
  induction ids generalizing state values with
  | nil =>
      cases built
      exact ⟨sound.continues, fun _ member => absurd member List.not_mem_nil⟩
  | cons id rest inductionHypothesis =>
      rw [buildPairs] at built
      split at built
      · obtain ⟨⟨key, between⟩, first, built⟩ := ok_of_bind built
        obtain ⟨⟨value, last⟩, second, built⟩ := ok_of_bind built
        obtain ⟨⟨others, final⟩, later, built⟩ := ok_of_bind built
        cases built
        obtain ⟨begun, keyInside⟩ := build_sound sound first
        obtain ⟨followed, inside⟩ := build_sound begun.toSound second
        have pushed := followed.toSound.push (.pair key value) trivial
          (List.forall_mem_cons.mpr ⟨keyInside.mono followed.grows, List.forall_mem_singleton.mpr inside⟩)
        obtain ⟨ended, there⟩ := inductionHypothesis pushed.toSound later
        refine ⟨((begun.trans followed).trans pushed).trans ended,
          List.forall_mem_cons.mpr ⟨?_, there⟩⟩
        rintro id ⟨⟩
        have grows := ended.grows
        simp only [Array.size_push] at grows
        omega
      · cases built

/-! ## Merging keeps the nodes -/

theorem size_setPairs (nodes : Array Node) (id : Nat) (tag : Tag) (pairs : List (Nat × Nat)) :
    (setPairs nodes id tag pairs).size = nodes.size := by
  simp [setPairs]

theorem size_makeText (nodes : Array Node) (id : Nat) : (makeText nodes id).size = nodes.size := by
  rw [makeText]
  split <;> simp

section Flatten

variable {flatten : Nat → Array Node → Except Fault (Array Node)} {nodes merged : Array Node}
  (keeps : ∀ id nodes merged, flatten id nodes = .ok merged → merged.size = nodes.size)

include keeps

theorem size_flattenEach {found pairs : List (Nat × Nat)} {ids : List Nat}
    (ended : flattenEach flatten found nodes ids = .ok (pairs, merged)) :
    merged.size = nodes.size := by
  induction ids generalizing found nodes with
  | nil =>
      cases ended
      rfl
  | cons id rest inductionHypothesis =>
      rw [flattenEach] at ended
      split at ended
      · cases ended
      · obtain ⟨next, first, ended⟩ := ok_of_bind ended
        exact (inductionHypothesis ended).trans (keeps id nodes next first)

theorem size_flattenPairs {id count position : Nat} {found pairs : List (Nat × Nat)}
    (ended : flattenPairs flatten id count position found nodes = .ok (pairs, merged)) :
    merged.size = nodes.size := by
  induction count generalizing position found nodes with
  | zero =>
      cases ended
      rfl
  | succ count inductionHypothesis =>
      rw [flattenPairs] at ended
      split at ended
      · cases ended
        rfl
      · split at ended
        · cases ended
          rfl
        · split at ended
          · have merging {sources : List Nat} {tag : Tag} {rest : List (Nat × Nat)}
                (ended : (flattenEach flatten [] (setPairs nodes id tag rest) sources >>=
                  fun outcome =>
                    flattenPairs flatten id count position (found ++ outcome.1) outcome.2) =
                  .ok (pairs, merged)) : merged.size = nodes.size := by
              obtain ⟨⟨brought, next⟩, each, ended⟩ := ok_of_bind ended
              rw [inductionHypothesis ended, size_flattenEach keeps each, size_setPairs]
            dsimp only at ended
            split at ended
            · exact merging ended
            · exact merging ended
            · cases ended
          · rw [inductionHypothesis ended, size_makeText]
          · exact inductionHypothesis ended

end Flatten

theorem size_flatten {fuel id : Nat} {nodes merged : Array Node}
    (ended : flatten fuel id nodes = .ok merged) : merged.size = nodes.size := by
  induction fuel generalizing id nodes merged with
  | zero => cases ended
  | succ fuel inductionHypothesis =>
      rw [flatten] at ended
      split at ended
      · cases ended
        rfl
      · obtain ⟨⟨found, next⟩, each, ended⟩ := ok_of_bind ended
        have same := size_flattenPairs (fun _ _ _ => inductionHypothesis) each
        dsimp only at ended
        split at ended
        · cases ended
          rw [size_setPairs, same]
        · cases ended
          exact same

/-! ## Filling the collections -/

theorem mappingEntries_sound {entries : List (Value × Value)} (sound : Sound state)
    (built : state.mappingEntries id = .ok (entries, next)) :
    Continues state next ∧ HasAll next (Object.mapping entries).parts ∧
      (Object.mapping entries).KeysDiffer := by
  rw [mappingEntries] at built
  split at built
  · obtain ⟨nodes, merged, built⟩ := ok_of_bind built
    have flat : Continues state { state with nodes } := {
      nodes := (size_flatten merged).symm ▸ sound.nodes
      built := sound.built
      parts := sound.parts
      keys := sound.keys
      grows := Nat.le_refl _ }
    obtain ⟨ended, entries⟩ := buildEntries_sound flat.toSound
      (fun _ member => absurd member List.not_mem_nil) .nil built
    exact ⟨flat.trans ended, entries⟩
  · cases built

theorem fill_sound (sound : Sound state) (filled : state.fill id = .ok next) : Continues state next := by
  rw [fill] at filled
  split at filled
  · obtain ⟨⟨entries, between⟩, built, filled⟩ := ok_of_bind filled
    cases filled
    obtain ⟨begun, inside, differ⟩ := mappingEntries_sound sound built
    exact begun.trans (begun.toSound.setObject differ inside)
  · obtain ⟨⟨entries, between⟩, built, filled⟩ := ok_of_bind filled
    cases filled
    obtain ⟨begun, inside, -⟩ := mappingEntries_sound sound built
    refine begun.trans (begun.toSound.setObject trivial fun part held => ?_)
    obtain ⟨entry, member, rfl⟩ := List.mem_map.mp held
    exact inside _ (List.mem_flatMap.mpr ⟨entry, member, List.mem_cons_self⟩)
  · obtain ⟨⟨values, between⟩, built, filled⟩ := ok_of_bind filled
    cases filled
    obtain ⟨begun, inside⟩ := buildAll_sound sound built
    exact begun.trans (begun.toSound.setObject trivial inside)
  · obtain ⟨⟨values, between⟩, built, filled⟩ := ok_of_bind filled
    cases filled
    obtain ⟨begun, inside⟩ := buildPairs_sound sound built
    exact begun.trans (begun.toSound.setObject trivial inside)
  · obtain ⟨⟨values, between⟩, built, filled⟩ := ok_of_bind filled
    cases filled
    obtain ⟨begun, inside⟩ := buildPairs_sound sound built
    exact begun.trans (begun.toSound.setObject trivial inside)
  · cases filled

theorem fillAll_sound {ids : List Nat} (sound : Sound state) (filled : ids.foldlM fill state = .ok next) :
    Continues state next := by
  induction ids generalizing state with
  | nil =>
      cases filled
      exact sound.continues
  | cons id rest inductionHypothesis =>
      rw [List.foldlM_cons] at filled
      obtain ⟨between, first, filled⟩ := ok_of_bind filled
      have begun := fill_sound sound first
      exact begun.trans (inductionHypothesis begun.toSound filled)

theorem fillWaiting_sound {fuel : Nat} (sound : Sound state)
    (filled : fillWaiting fuel state = .ok next) : Continues state next := by
  induction fuel generalizing state with
  | zero =>
      cases filled
      exact sound.continues
  | succ fuel inductionHypothesis =>
      rw [fillWaiting] at filled
      split at filled
      · cases filled
        exact sound.continues
      · obtain ⟨between, first, filled⟩ := ok_of_bind filled
        have rested : Continues state { state with waiting := [] } :=
          ⟨⟨sound.nodes, sound.built, sound.parts, sound.keys⟩, Nat.le_refl _⟩
        have begun := rested.trans (fillAll_sound rested.toSound first)
        exact begun.trans (inductionHypothesis begun.toSound filled)

end Construction

/-- What is read of a text is the value null without objects, or a state that is sound. -/
theorem Document.sound_ofText {text : Text} {document : Document}
    (read : Document.ofText text = .ok document) : document = { root := .null } ∨
      ∃ last : Construction, last.Sound ∧ document.objects = last.objects ∧
        document.root.Inside last.objects.size := by
  rw [Document.ofText] at read
  obtain ⟨⟨found, composer⟩, -, read⟩ := ok_of_bind read
  cases found with
  | none =>
      cases read
      exact Or.inl rfl
  | some id =>
      obtain ⟨⟨root, begun⟩, built, read⟩ := ok_of_bind read
      obtain ⟨last, filled, read⟩ := ok_of_bind read
      cases read
      obtain ⟨started, inside⟩ :=
        Construction.build_sound (Construction.sound_start composer.nodes) built
      have ended := Construction.fillWaiting_sound started.toSound filled
      exact Or.inr ⟨last, ended.toSound, rfl, inside.mono ended.grows⟩

/-- What holds of all objects of a document, and of a missing one, holds under every number. -/
theorem Document.forall_object {document : Document} (property : Object → Prop)
    (vacant : property .vacant) (all : ∀ object ∈ document.objects, property object) (id : Nat) :
    property (document.object id) := by
  by_cases within : id < document.objects.size
  · have there : document.object id = document.objects[id] := by
      simp [Document.object, within]
    exact there ▸ all _ (Array.getElem_mem within)
  · exact Document.object_of_not_lt within ▸ vacant

/-- A document that is an atom is closed. -/
theorem Document.closed_of_isAtom {value : Value} (atom : value.isAtom = true) :
    ({ root := value } : Document).Closed where
  root := Value.inside_of_isAtom atom
  parts := Document.forall_object (fun object => ∀ part ∈ object.parts, part.Inside 0)
    (fun _ held => absurd held List.not_mem_nil)
    fun object member => absurd member (Array.not_mem_empty object)

/-- A document that is read is closed. -/
theorem Document.closed_ofText {text : Text} {document : Document}
    (read : Document.ofText text = .ok document) : document.Closed := by
  rcases Document.sound_ofText read with rfl | ⟨last, sound, objects, root⟩
  · exact Document.closed_of_isAtom rfl
  · constructor
    · rw [objects]
      exact root
    · refine Document.forall_object
        (fun object => ∀ part ∈ object.parts, part.Inside document.objects.size)
        (fun _ held => absurd held List.not_mem_nil) ?_
      rw [objects]
      exact sound.parts

/-- No mapping of a document that is read has a key twice. -/
theorem Document.keysDiffer_ofText {text : Text} {document : Document}
    (read : Document.ofText text = .ok document) (id : Nat) : (document.object id).KeysDiffer := by
  rcases Document.sound_ofText read with rfl | ⟨last, sound, objects, -⟩
  · exact Document.forall_object Object.KeysDiffer trivial
      (fun object member => absurd member (Array.not_mem_empty object)) id
  · refine Document.forall_object Object.KeysDiffer trivial ?_ id
    rw [objects]
    exact sound.keys

end Yaml
end Codemap
