import Codemap.Proofs.Yaml.Cutting
import Codemap.Yaml.Construction

namespace Codemap
namespace Yaml

/-!
# Values that are given by hand

A text that is given as a value is read as a document, and a malformed one stands for itself.  But
a text may have the form of a document and still not be one: a scalar of it has the shape of a
date, a number or a truth value and writes none, an escape names no code point, a version has too
many digits, or the text is nested too deeply.  These faults are not caught.

Where they come from is followed through the construction of the values.  Nothing that happens to
the nodes on the way makes a fault: merging changes the pairs of mappings, and a key that stands
for a default value becomes a text.
-/

/-- The tag of a node. -/
def Node.tag : Node → Tag
  | .scalar tag _ | .sequence tag _ | .mapping tag _ => tag

/-- The node with a number. -/
def nodeAt (nodes : Array Node) (id : Nat) : Node :=
  nodes.getD id (.scalar .foreign (.whole []))

/-- A key stands for a default value. -/
def HasDefault (nodes : Array Node) : Prop :=
  ∃ id, (nodeAt nodes id).tag = .default

/-- A key stands for mappings that are taken over. -/
def HasMerge (nodes : Array Node) : Prop :=
  ∃ id, (nodeAt nodes id).tag = .merge

/-- Why the nodes of a document have no values, and are not malformed. -/
inductive Cause (nodes : Array Node) : Fault → Prop
  /-- A scalar writes no value of the kind that its tag names. -/
  | scalar {id : Nat} {tag : Tag} {content : Content} {why : ScalarFault}
      (node : nodeAt nodes id = .scalar tag content)
      (refused : Scalar.value tag content id = .error (.scalar why)) : Cause nodes (.scalar why)
  /-- The same of a mapping that has such a tag and stands for its default value. -/
  | mapping {id other : Nat} {tag kind : Tag} {pairs : List (Nat × Nat)} {content : Content}
      {why : ScalarFault} (node : nodeAt nodes id = .mapping tag pairs) (marked : HasDefault nodes)
      (default : nodeAt nodes other = .scalar kind content)
      (refused : Scalar.value tag content id = .error (.scalar why)) : Cause nodes (.scalar why)
  /-- A mapping that stands for its default value has the tag of a moment. -/
  | moment {id : Nat} {pairs : List (Nat × Nat)} (node : nodeAt nodes id = .mapping .timestamp pairs)
      (marked : HasDefault nodes) : Cause nodes (.scalar .timestampOfMapping)
  /-- The default value of a mapping is a mapping that stands for its default value, and so on. -/
  | defaults {id : Nat} {tag : Tag} {pairs : List (Nat × Nat)}
      (node : nodeAt nodes id = .mapping tag pairs) (marked : HasDefault nodes) :
      Cause nodes .nestedTooDeeply
  /-- A mapping takes over a mapping that takes over another, and so on. -/
  | merges {id : Nat} {tag : Tag} {pairs : List (Nat × Nat)}
      (node : nodeAt nodes id = .mapping tag pairs) (marked : HasMerge nodes) :
      Cause nodes .nestedTooDeeply

/-! ## What happens to the nodes -/

/-- What becomes of a node: it keeps its tag or is a text from now on, and the pairs of a mapping
change. -/
inductive Node.Becomes : Node → Node → Prop
  | scalar {tag kind : Tag} {content : Content} (same : kind = tag ∨ kind = .str) :
      Becomes (.scalar tag content) (.scalar kind content)
  | sequence {tag kind : Tag} {items : List Nat} (same : kind = tag ∨ kind = .str) :
      Becomes (.sequence tag items) (.sequence kind items)
  | mapping {tag kind : Tag} {pairs others : List (Nat × Nat)} (same : kind = tag ∨ kind = .str) :
      Becomes (.mapping tag pairs) (.mapping kind others)

theorem Node.Becomes.refl (node : Node) : node.Becomes node := by
  cases node with
  | scalar tag content => exact .scalar (Or.inl rfl)
  | sequence tag items => exact .sequence (Or.inl rfl)
  | mapping tag pairs => exact .mapping (Or.inl rfl)

theorem Node.Becomes.trans {first second third : Node} (early : first.Becomes second)
    (late : second.Becomes third) : first.Becomes third := by
  have kinds {tag kind last : Tag} (early : kind = tag ∨ kind = .str)
      (late : last = kind ∨ last = .str) : last = tag ∨ last = .str := by
    rcases late with rfl | rfl
    · exact early
    · exact Or.inr rfl
  cases early with
  | scalar same => cases late with | scalar same' => exact .scalar (kinds same same')
  | sequence same => cases late with | sequence same' => exact .sequence (kinds same same')
  | mapping same => cases late with | mapping same' => exact .mapping (kinds same same')

/-- A tag that is not that of a text was there before. -/
theorem Node.Becomes.tag_eq {node later : Node} (becomes : node.Becomes later)
    (noText : later.tag ≠ .str) : node.tag = later.tag := by
  cases becomes with
  | scalar same => exact (same.resolve_right noText).symm
  | sequence same => exact (same.resolve_right noText).symm
  | mapping same => exact (same.resolve_right noText).symm

/-- The nodes have become others. -/
def Descends (nodes later : Array Node) : Prop :=
  ∀ id, (nodeAt nodes id).Becomes (nodeAt later id)

namespace Descends

variable {nodes later last : Array Node} {id : Nat}

theorem refl (nodes : Array Node) : Descends nodes nodes :=
  fun _ => .refl _

theorem trans (early : Descends nodes later) (late : Descends later last) : Descends nodes last :=
  fun id => (early id).trans (late id)

theorem set {node : Node} (becomes : (nodeAt nodes id).Becomes node) :
    Descends nodes (nodes.setIfInBounds id node) := by
  intro other
  rw [nodeAt, nodeAt, Array.getD_eq_getD_getElem?, Array.getD_eq_getD_getElem?,
    Array.getElem?_setIfInBounds]
  split
  · next same =>
      subst same
      split
      · rwa [nodeAt, Array.getD_eq_getD_getElem?] at becomes
      · next beyond =>
          rw [Array.getElem?_eq_none (Nat.le_of_not_lt beyond)]
          exact .refl _
  · exact .refl _

theorem exists_tag {tag : Tag} (descends : Descends nodes later) (noText : tag ≠ .str)
    (marked : ∃ id, (nodeAt later id).tag = tag) : ∃ id, (nodeAt nodes id).tag = tag := by
  obtain ⟨id, rfl⟩ := marked
  exact ⟨id, (descends id).tag_eq noText⟩

theorem hasDefault (descends : Descends nodes later) (marked : HasDefault later) :
    HasDefault nodes :=
  descends.exists_tag (by decide) marked

theorem hasMerge (descends : Descends nodes later) (marked : HasMerge later) : HasMerge nodes :=
  descends.exists_tag (by decide) marked

end Descends

theorem nodeAt_of_getElem? {nodes : Array Node} {id : Nat} {node : Node}
    (there : nodes[id]? = some node) : nodeAt nodes id = node := by
  rw [nodeAt, Array.getD_eq_getD_getElem?, there, Option.getD_some]

namespace Construction

variable {nodes : Array Node} {state : Construction} {id : Nat}

theorem nodeAt_of_pairs? {tag : Tag} {pairs : List (Nat × Nat)}
    (found : pairs? nodes id = some (tag, pairs)) : nodeAt nodes id = .mapping tag pairs := by
  rw [pairs?] at found
  split at found
  · next there =>
      cases found
      exact nodeAt_of_getElem? there
  · cases found

theorem descends_setPairs {tag : Tag} {pairs : List (Nat × Nat)}
    (found : pairs? nodes id = some (tag, pairs)) (others : List (Nat × Nat)) :
    Descends nodes (setPairs nodes id tag others) := by
  refine .set ?_
  rw [nodeAt_of_pairs? found]
  exact .mapping (Or.inl rfl)

theorem descends_makeText (nodes : Array Node) (id : Nat) : Descends nodes (makeText nodes id) := by
  rw [makeText]
  split
  · next there => exact .set (nodeAt_of_getElem? there ▸ .scalar (Or.inr rfl))
  · next there => exact .set (nodeAt_of_getElem? there ▸ .sequence (Or.inr rfl))
  · next there => exact .set (nodeAt_of_getElem? there ▸ .mapping (Or.inr rfl))
  · exact .refl nodes

/-- The construction of values fails as malformed or for a cause in the nodes. -/
def Fails (nodes : Array Node) (why : Fault) : Prop :=
  why = .malformed ∨ Cause nodes why

theorem Fails.malformed : Fails nodes .malformed :=
  Or.inl rfl

/-! ## Merging -/

/-- Merging fails for a cause in the nodes, or because there is no room for another call. -/
def MergeFails (nodes : Array Node) (why : Fault) : Prop :=
  Fails nodes why ∨ why = .nestedTooDeeply

theorem Fails.of_merge {tag : Tag} {pairs : List (Nat × Nat)} {start : Array Node} {why : Fault}
    (begun : Descends nodes start) (node : nodeAt start id = .mapping tag pairs)
    (marked : HasMerge start) (fails : MergeFails nodes why) : Fails nodes why := by
  rcases fails with fails | rfl
  · exact fails
  · have becomes := begun id
    rw [node] at becomes
    generalize same : nodeAt nodes id = old at becomes
    cases becomes with
    | mapping _ => exact Or.inr (.merges same (begun.hasMerge marked))

section Flatten

variable {flatten : Nat → Array Node → Except Fault (Array Node)} {start : Array Node}
  (descends : ∀ id start, Descends nodes start →
    Settles (MergeFails nodes) (flatten id start) (Descends nodes))

include descends

theorem settles_flattenEach (found : List (Nat × Nat)) (ids : List Nat)
    (begun : Descends nodes start) :
    Settles (MergeFails nodes) (flattenEach flatten found start ids)
      fun merged => Descends nodes merged.2 := by
  induction ids generalizing found start with
  | nil => exact .of_ok begun
  | cons id rest inductionHypothesis =>
      rw [flattenEach]
      refine .ite (.of_error (Or.inl .malformed)) ?_
      exact (descends id start begun).bind fun next nextDescends => inductionHypothesis _ nextDescends

theorem settles_flattenPairs (id count position : Nat) (merged : List (Nat × Nat))
    (begun : Descends nodes start) :
    Settles (Fails nodes) (flattenPairs flatten id count position merged start)
      fun merged => Descends nodes merged.2 := by
  induction count generalizing position merged start with
  | zero => exact .of_ok begun
  | succ count inductionHypothesis =>
      rw [flattenPairs]
      split
      · exact .of_ok begun
      next tag pairs found =>
      split
      · exact .of_ok begun
      split
      · next key value _ _ merge =>
        have marked : HasMerge start := by
          rcases Option.map_eq_some_iff.mp merge with ⟨node, there, tagged⟩
          refine ⟨key, ?_⟩
          rw [nodeAt_of_getElem? there]
          cases node <;> exact tagged
        have shortened := begun.trans (descends_setPairs found (pairs.eraseIdx position))
        have merging (sources : List Nat) :=
          ((settles_flattenEach descends [] sources shortened).mono fun _ fails =>
            Fails.of_merge begun (nodeAt_of_pairs? found) marked fails).bind fun found nextDescends =>
              inductionHypothesis position (merged ++ found.1) nextDescends
        dsimp only
        split
        · exact merging _
        · exact merging _
        · exact .of_error .malformed
      · exact inductionHypothesis _ _ (begun.trans (descends_makeText _ _))
      · exact inductionHypothesis _ _ begun

end Flatten

theorem settles_flatten (fuel id : Nat) {start : Array Node} (begun : Descends nodes start) :
    Settles (fun why => Fails nodes why ∨ fuel = 0 ∧ why = .nestedTooDeeply)
      (flatten fuel id start) (Descends nodes) := by
  induction fuel generalizing id start with
  | zero => exact .of_error (Or.inr ⟨rfl, rfl⟩)
  | succ fuel inductionHypothesis =>
      have inner (id : Nat) (start : Array Node) (begun : Descends nodes start) :
          Settles (MergeFails nodes) (flatten fuel id start) (Descends nodes) :=
        (inductionHypothesis id begun).mono fun _ fails => fails.imp_right And.right
      refine Settles.mono ?_ fun _ => Or.inl
      rw [flatten]
      split
      · exact .of_ok begun
      refine (settles_flattenPairs inner _ _ _ _ begun).bind fun merged mergedDescends => ?_
      dsimp only
      split
      · next found => exact .of_ok (mergedDescends.trans (descends_setPairs found _))
      · exact .of_ok mergedDescends

/-! ## The values of nodes -/

theorem tag_eq (state : Construction) (id : Nat) : state.tag id = (nodeAt state.nodes id).tag := by
  rw [Construction.tag]
  change _ = (state.node id).tag
  cases state.node id <;> rfl

/-- What a scalar holds is its own.  That of a mapping is what a scalar holds, or its default
values are nested too deeply. -/
theorem settles_scalarText (fuel id : Nat) :
    Settles (fun why => why = .malformed ∨ why = .nestedTooDeeply ∧
        (fuel = 0 ∨ ∃ tag pairs, state.node id = .mapping tag pairs ∧ HasDefault state.nodes))
      (state.scalarText fuel id)
      fun content => (∃ tag, state.node id = .scalar tag content) ∨
        (∃ tag pairs, state.node id = .mapping tag pairs) ∧ HasDefault state.nodes ∧
          ∃ other kind, state.node other = .scalar kind content := by
  induction fuel generalizing id with
  | zero => exact .of_error (Or.inr ⟨rfl, Or.inl rfl⟩)
  | succ fuel inductionHypothesis =>
      rw [scalarText]
      split
      · next tag content node => exact .of_ok (Or.inl ⟨tag, node⟩)
      · exact .of_error (Or.inl rfl)
      · next tag pairs node =>
          split
          · next key value found =>
              have marked : HasDefault state.nodes := by
                have default := List.find?_some found
                rw [beq_iff_eq, tag_eq] at default
                exact ⟨key, default⟩
              refine Settles.mono (Settles.imp (inductionHypothesis value) ?_) ?_
              · rintro content (⟨kind, there⟩ | ⟨-, -, there⟩)
                · exact Or.inr ⟨⟨tag, pairs, node⟩, marked, value, kind, there⟩
                · exact Or.inr ⟨⟨tag, pairs, node⟩, marked, there⟩
              · rintro why (malformed | ⟨endless, -⟩)
                · exact Or.inl malformed
                · exact Or.inr ⟨endless, Or.inr ⟨tag, pairs, node, marked⟩⟩
          · exact .of_error (Or.inl rfl)

/-- No text is refused as a text. -/
theorem ne_str_of_refused {tag : Tag} {content : Content} {why : Fault}
    (refused : Scalar.value tag content id = .error why) : tag ≠ .str := by
  rintro rfl
  cases content <;> cases refused

theorem node_of_scalar {tag : Tag} {content : Content} (descends : Descends nodes state.nodes)
    (node : state.node id = .scalar tag content) (noText : tag ≠ .str) :
    nodeAt nodes id = .scalar tag content := by
  have becomes := descends id
  rw [show nodeAt state.nodes id = .scalar tag content from node] at becomes
  generalize nodeAt nodes id = old at becomes
  cases becomes with
  | scalar same => rw [same.resolve_right noText]

theorem node_of_mapping {tag : Tag} {pairs : List (Nat × Nat)} (descends : Descends nodes state.nodes)
    (node : state.node id = .mapping tag pairs) :
    ∃ kind others, nodeAt nodes id = .mapping kind others ∧ (tag ≠ .str → kind = tag) := by
  have becomes := descends id
  rw [show nodeAt state.nodes id = .mapping tag pairs from node] at becomes
  generalize nodeAt nodes id = old at becomes
  cases becomes with
  | mapping same => exact ⟨_, _, rfl, fun noText => (same.resolve_right noText).symm⟩

/-- What a scalar holds stays. -/
theorem exists_node_of_scalar {kind : Tag} {content : Content}
    (descends : Descends nodes state.nodes) (node : state.node id = .scalar kind content) :
    ∃ tag, nodeAt nodes id = .scalar tag content := by
  have becomes := descends id
  rw [show nodeAt state.nodes id = .scalar kind content from node] at becomes
  generalize nodeAt nodes id = old at becomes
  cases becomes with
  | scalar same => exact ⟨_, rfl⟩

/-- A scalar without a value is malformed or says what is wrong with it. -/
theorem scalar_of_refused {tag : Tag} {content : Content} {why : Fault}
    (refused : Scalar.value tag content id = .error why) :
    why = .malformed ∨ ∃ fault, why = .scalar fault := by
  cases tag with
  | str => cases content <;> cases refused
  | null => cases refused
  | bool | int | float | timestamp =>
      simp only [Scalar.value] at refused
      split at refused
      · cases refused
      · exact Or.inr ⟨_, (Except.error.inj refused).symm⟩
  | binary =>
      rw [Scalar.value] at refused
      split at refused
      · split at refused <;> cases refused
        exact Or.inl rfl
      · exact Or.inl (Except.error.inj refused).symm
  | set | orderedPairs | pairs | sequence | mapping | merge | default | foreign =>
      exact Or.inl (Except.error.inj refused).symm

/-- A step of the construction of values fails as malformed or for a cause in the nodes. -/
abbrev Builds {α : Type} (nodes : Array Node) (step : Except Fault (α × Construction)) : Prop :=
  Settles (Fails nodes) step fun built => Descends nodes built.2.nodes

/-- The node of a scalar has the tag under which it is read. -/
theorem fails_of_refused {tag : Tag} {content : Content} {why : Fault}
    (descends : Descends nodes state.nodes) (tagged : state.tag id = tag)
    (written : (∃ tag, state.node id = .scalar tag content) ∨
      (∃ tag pairs, state.node id = .mapping tag pairs) ∧ HasDefault state.nodes ∧
        ∃ other kind, state.node other = .scalar kind content)
    (refused : Scalar.value tag content id = .error why) : Fails nodes why := by
  have noText := ne_str_of_refused refused
  rcases scalar_of_refused refused with malformed | ⟨fault, rfl⟩
  · exact Or.inl malformed
  rw [tag_eq] at tagged
  rcases written with ⟨kind, node⟩ | ⟨⟨kind, pairs, node⟩, marked, other, there, default⟩
  · obtain rfl : kind = tag := by rwa [show nodeAt state.nodes id = _ from node] at tagged
    exact Or.inr (.scalar (node_of_scalar descends node noText) refused)
  · obtain rfl : kind = tag := by rwa [show nodeAt state.nodes id = _ from node] at tagged
    obtain ⟨first, others, old, same⟩ := node_of_mapping descends node
    obtain ⟨_, default⟩ := exists_node_of_scalar descends default
    rw [same noText] at old
    exact Or.inr (.mapping old (descends.hasDefault marked) default refused)

theorem builds_build (descends : Descends nodes state.nodes) : Builds nodes (state.build id) := by
  rw [build]
  split
  · exact .of_ok descends
  split
  · exact .of_ok descends
  · exact .of_ok descends
  · exact .of_ok descends
  · exact .of_ok descends
  · exact .of_ok descends
  · exact .of_error .malformed
  · exact .of_error .malformed
  · exact .of_error .malformed
  · have written := @settles_scalarText state stackRoom id
    refine Settles.bind (written.mono ?_) fun content written => ?_
    · rintro why (malformed | ⟨rfl, impossible | ⟨tag, pairs, node, marked⟩⟩)
      · exact Or.inl malformed
      · cases impossible
      · obtain ⟨kind, others, old, -⟩ := node_of_mapping descends node
        exact Or.inr (.defaults old (descends.hasDefault marked))
    split
    · next tag pairs tagged node =>
        have marked : HasDefault state.nodes := by
          rcases written with ⟨tag, other⟩ | ⟨-, marked, -⟩
          · rw [other] at node
            cases node
          · exact marked
        obtain ⟨kind, others, old, same⟩ := node_of_mapping descends node
        have moment : tag = .timestamp := by
          rwa [tag_eq, show nodeAt state.nodes id = _ from node] at tagged
        rw [same (by rw [moment]; decide), moment] at old
        exact .of_error (Or.inr (.moment old (descends.hasDefault marked)))
    · have value : Settles (Fails nodes) (Scalar.value (state.tag id) content id) fun _ => True :=
        ⟨fun _ _ => trivial, fun _ refused => fails_of_refused descends rfl written refused⟩
      exact value.bind fun _ _ => .of_ok descends

theorem builds_buildAll (ids : List Nat) (descends : Descends nodes state.nodes) :
    Builds nodes (state.buildAll ids) := by
  induction ids generalizing state with
  | nil => exact .of_ok descends
  | cons id rest inductionHypothesis =>
      rw [buildAll]
      refine (builds_build descends).bind fun first firstDescends => ?_
      exact (inductionHypothesis firstDescends).bind fun others othersDescend => .of_ok othersDescend

theorem builds_buildEntries (done : List (Value × Value)) (pairs : List (Nat × Nat))
    (descends : Descends nodes state.nodes) : Builds nodes (state.buildEntries done pairs) := by
  induction pairs generalizing state done with
  | nil => exact .of_ok descends
  | cons pair rest inductionHypothesis =>
      rw [buildEntries]
      refine (builds_build descends).bind fun key keyDescends => ?_
      refine .ite (.of_error .malformed) ?_
      exact (builds_build keyDescends).bind fun value valueDescends =>
        inductionHypothesis _ valueDescends

theorem builds_buildPairs (ids : List Nat) (descends : Descends nodes state.nodes) :
    Builds nodes (state.buildPairs ids) := by
  induction ids generalizing state with
  | nil => exact .of_ok descends
  | cons id rest inductionHypothesis =>
      rw [buildPairs]
      split
      · refine (builds_build descends).bind fun key keyDescends => ?_
        refine (builds_build keyDescends).bind fun value valueDescends => ?_
        refine Settles.bind ?_ fun others othersDescend => .of_ok othersDescend
        exact inductionHypothesis valueDescends
      · exact .of_error .malformed

/-! ## Filling the collections -/

theorem builds_mappingEntries (descends : Descends nodes state.nodes) :
    Builds nodes (state.mappingEntries id) := by
  rw [mappingEntries]
  split
  · refine ((settles_flatten stackRoom id descends).mono ?_).bind fun _ flatDescends =>
      builds_buildEntries _ _ flatDescends
    rintro why (fails | ⟨impossible, -⟩)
    · exact fails
    · cases impossible
  · exact .of_error .malformed

theorem settles_fill (descends : Descends nodes state.nodes) :
    Settles (Fails nodes) (state.fill id) fun next => Descends nodes next.nodes := by
  rw [fill]
  split
  · exact (builds_mappingEntries descends).bind fun _ filled => .of_ok filled
  · exact (builds_mappingEntries descends).bind fun _ filled => .of_ok filled
  · exact (builds_buildAll _ descends).bind fun _ filled => .of_ok filled
  · exact (builds_buildPairs _ descends).bind fun _ filled => .of_ok filled
  · exact (builds_buildPairs _ descends).bind fun _ filled => .of_ok filled
  · exact .of_error .malformed

theorem settles_fillAll (ids : List Nat) (descends : Descends nodes state.nodes) :
    Settles (Fails nodes) (ids.foldlM fill state) fun next => Descends nodes next.nodes := by
  induction ids generalizing state with
  | nil => exact .of_ok descends
  | cons id rest inductionHypothesis =>
      rw [List.foldlM_cons]
      exact (settles_fill descends).bind fun _ filled => inductionHypothesis filled

theorem settles_fillWaiting (fuel : Nat) (descends : Descends nodes state.nodes) :
    Settles (Fails nodes) (fillWaiting fuel state) fun _ => True := by
  induction fuel generalizing state with
  | zero => exact .of_ok trivial
  | succ fuel inductionHypothesis =>
      rw [fillWaiting]
      refine .ite (.of_ok trivial) ?_
      have emptied : Descends nodes { state with waiting := [] }.nodes := descends
      exact (settles_fillAll _ emptied).bind fun _ filled => inductionHypothesis filled

end Construction

namespace Document

/-- Why a text that has the form of a document is none: an escape in it names no code point, its
version has too many digits, its collections are nested too deeply, or the nodes of the document
have no values. -/
inductive Impossible (text : Text) (why : Fault) : Prop
  | escape (fails : EscapeFails text why)
  | version (fails : VersionFails text why)
  | nesting (deep : Composer.NestsDeeply (tokens text) why)
  | value {root : Nat} {composer : Composer}
      (composed : Composer.document (tokens text) = .ok (some root, composer))
      (cause : Cause composer.nodes why)

/-- A text that is no document is malformed, or a value in it is impossible. -/
theorem impossible_of_ofText {text : Text} {why : Fault} (failed : ofText text = .error why) :
    why = .malformed ∨ Impossible text why := by
  rcases error_of_bind failed with ungrammatical | ⟨⟨root, composer⟩, composed, failed⟩
  · rcases Composer.ungrammatical_of_document ungrammatical with malformed | broken | deep
    · exact Or.inl malformed
    · rcases uncut_of_tokens broken with malformed | escape | version
      · exact Or.inl malformed
      · exact Or.inr (.escape escape)
      · exact Or.inr (.version version)
    · exact Or.inr (.nesting deep)
  · cases root with
    | none => cases failed
    | some root =>
        have begun := @Construction.builds_build composer.nodes
          (Construction.start composer.nodes) root (.refl _)
        have ended : Settles (Construction.Fails composer.nodes)
            ((Construction.start composer.nodes).build root >>= fun read =>
              Construction.fillWaiting (composer.nodes.size + 1) read.2 >>= fun last =>
                pure { objects := last.objects, root := read.1 }) fun _ : Document => True :=
          begun.bind fun read descends =>
            (Construction.settles_fillWaiting _ descends).bind fun _ _ => .of_ok trivial
        exact (ended.error why failed).imp_right (.value composed)

end Document
end Yaml
end Codemap
