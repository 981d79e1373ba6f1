import Codemap.Proofs.Json.Spelling
import Codemap.Proofs.Text.Order

namespace Codemap
namespace Json

/-!
# The layouts of a value

A value is plain if its numbers are integers that may be read and no object in it has
a name twice.  Over several lines a plain value is spelled by what is written for it, so
it is read back, and no other plain value is written in the same way.  Sorting the names
of a plain value keeps it plain, and keeps what stands under each name.
-/

mutual

/-- The value can be written and read back. -/
def Plain : Json → Prop
  | .null | .bool _ | .str _ => True
  | .int n => Readable n
  | .float _ => False
  | .arr items => PlainItems items
  | .obj members => (members.map Prod.fst).Nodup ∧ PlainMembers members

/-- Each item is plain. -/
def PlainItems : List Json → Prop
  | [] => True
  | item :: rest => Plain item ∧ PlainItems rest

/-- The value of each member is plain. -/
def PlainMembers : List (Text × Json) → Prop
  | [] => True
  | (_, value) :: rest => Plain value ∧ PlainMembers rest

end

theorem plainItems_iff {items : List Json} : PlainItems items ↔ ∀ item ∈ items, Plain item := by
  induction items with
  | nil => simp [PlainItems]
  | cons item rest inductionHypothesis => simp [PlainItems, inductionHypothesis]

theorem plainMembers_iff {members : List (Text × Json)} :
    PlainMembers members ↔ ∀ member ∈ members, Plain member.2 := by
  induction members with
  | nil => simp [PlainMembers]
  | cons member rest inductionHypothesis => simp [PlainMembers, inductionHypothesis]

/-! ## Separators -/

/-- Separators that are a comma and a colon, each with blanks after it. -/
structure Separators.Lawful (separators : Separators) : Prop where
  item : ∃ blanks, separators.item = ',' :: blanks ∧ Blanks blanks
  colon : ∃ blanks, separators.colon = ':' :: blanks ∧ Blanks blanks

theorem blanks_nil : Blanks [] := by simp [Blanks]

theorem blanks_space : Blanks [' '] := by simp [Blanks, isSpace]

theorem Separators.lawful_compact : Separators.compact.Lawful :=
  ⟨⟨[], rfl, blanks_nil⟩, ⟨[], rfl, blanks_nil⟩⟩

/-! ## Over several lines -/

theorem blanks_newLine (level : Nat) : Blanks (newLine level) := by
  intro c member
  rcases List.mem_cons.mp member with rfl | spaces
  · rfl
  · rw [List.eq_of_mem_replicate spaces]
    rfl

mutual

/-- What is written over several lines for a plain value spells it. -/
theorem spells_renderIndented : (value : Json) → Plain value → (level : Nat) →
    Spells value (renderIndented level value)
  | .null, _, _ => .null
  | .bool true, _, _ => .true
  | .bool false, _, _ => .false
  | .int _, readable, _ => .int readable
  | .float _, plain, _ => plain.elim
  | .str _, _, _ => .str
  | .arr [], _, _ => .emptyArray
  | .arr (item :: rest), plain, level => by
      have first := spells_renderIndented item plain.1 (level + 1)
      have items := spellsItems_indented rest plain.2 (level + 1) (blanks_newLine level) first
      have whole := Spells.array (blanks_newLine (level + 1)) items
      simpa [renderIndented] using whole
  | .obj [], _, _ => .emptyObject
  | .obj ((name, value) :: rest), plain, level => by
      have first := spells_renderIndented value plain.2.1 (level + 1)
      have members := spellsMembers_indented rest plain.2.2 (level + 1) (blanks_newLine level) name
        first
      have whole := Spells.object (blanks_newLine (level + 1)) plain.1 members
      simpa [renderIndented] using whole

theorem spellsItems_indented : (items : List Json) → PlainItems items → (level : Nat) →
    {after : Text} → Blanks after → {item : Json} → {text : Text} → Spells item text →
      SpellsItems (item :: items) (text ++ (indentedItems level items ++ after))
  | [], _, _, _, areBlank, _, _, spelled => .last spelled areBlank
  | next :: rest, plain, level, _, areBlank, _, _, spelled => by
      have second := spells_renderIndented next plain.1 level
      have whole := SpellsItems.more spelled (blanks_newLine level)
        (spellsItems_indented rest plain.2 level areBlank second)
      simpa [indentedItems] using whole

theorem spellsMembers_indented : (members : List (Text × Json)) → PlainMembers members →
    (level : Nat) → {after : Text} → Blanks after → (name : Text) → {value : Json} →
    {text : Text} → Spells value text →
      SpellsMembers ((name, value) :: members)
        (quoted name ++ (": ".toList ++ (text ++ (indentedMembers level members ++ after))))
  | [], _, _, _, areBlank, name, _, _, spelled => by
      have whole := SpellsMembers.last name blanks_space spelled areBlank
      simpa [indentedMembers] using whole
  | (other, next) :: rest, plain, level, _, areBlank, name, _, _, spelled => by
      have second := spells_renderIndented next plain.1 level
      have later := spellsMembers_indented rest plain.2 level areBlank other second
      have whole := SpellsMembers.more name blanks_space spelled (blanks_newLine level) later
      simpa [indentedMembers] using whole

end

/-- A plain value is read back from its lines. -/
theorem parse?_renderIndented {value : Json} (plain : Plain value) (level : Nat) :
    parse? (renderIndented level value) = some value :=
  parse?_of_spells (spells_renderIndented value plain level)

/-! ## No carriage returns -/

theorem noReturn_hexDigit : ∀ digit < 16, hexDigit digit ≠ '\r' := by decide

private theorem noReturn_unicodeEscape (n : Nat) : '\r' ∉ unicodeEscape n := by
  have digit (k : Nat) : '\r' ≠ hexDigit (k % 16) :=
    Ne.symm (noReturn_hexDigit _ (Nat.mod_lt k (by decide)))
  simp [unicodeEscape, hex4, digit]

private theorem noReturn_escapeChar (c : Char) : '\r' ∉ escapeChar c := by
  by_cases carriageReturn : c = '\r'
  · subst carriageReturn
    decide
  · unfold escapeChar
    repeat' split
    all_goals first
      | exact absurd ‹c = '\r'› carriageReturn
      | simp [noReturn_unicodeEscape, Ne.symm carriageReturn]

theorem noReturn_quoted (text : Text) : '\r' ∉ quoted text := by
  simp [quoted, noReturn_escapeChar]

private theorem noReturn_newLine (level : Nat) : '\r' ∉ newLine level := by
  simp [newLine]

private theorem noReturn_ofInt (n : Int) : '\r' ∉ Text.ofInt n := by
  have digits (k : Nat) : '\r' ∉ Text.ofNat k := fun member => by
    have digit := Text.isDigit_of_mem_ofNat member
    cases digit
  cases n with
  | ofNat n => exact digits n
  | negSucc n => simp [Text.ofInt, digits]

mutual

/-- What is written over several lines for a plain value ends its lines with line feeds. -/
theorem noReturn_renderIndented : (value : Json) → Plain value → (level : Nat) →
    '\r' ∉ renderIndented level value
  | .null, _, _ => by simp [renderIndented]
  | .bool true, _, _ => by simp [renderIndented]
  | .bool false, _, _ => by simp [renderIndented]
  | .int n, _, _ => by simp [renderIndented, noReturn_ofInt]
  | .float _, plain, _ => plain.elim
  | .str text, _, _ => by simp [renderIndented, noReturn_quoted]
  | .arr [], _, _ => by simp [renderIndented]
  | .arr (item :: rest), plain, level => by
      have first := noReturn_renderIndented item plain.1 (level + 1)
      have others := noReturn_indentedItems rest plain.2 (level + 1)
      simp [renderIndented, noReturn_newLine, first, others]
  | .obj [], _, _ => by simp [renderIndented]
  | .obj ((name, value) :: rest), plain, level => by
      have first := noReturn_renderIndented value plain.2.1 (level + 1)
      have others := noReturn_indentedMembers rest plain.2.2 (level + 1)
      simp [renderIndented, noReturn_newLine, noReturn_quoted, first, others]

theorem noReturn_indentedItems : (items : List Json) → PlainItems items → (level : Nat) →
    '\r' ∉ indentedItems level items
  | [], _, _ => by simp [indentedItems]
  | item :: rest, plain, level => by
      have first := noReturn_renderIndented item plain.1 level
      have others := noReturn_indentedItems rest plain.2 level
      simp [indentedItems, noReturn_newLine, first, others]

theorem noReturn_indentedMembers : (members : List (Text × Json)) → PlainMembers members →
    (level : Nat) → '\r' ∉ indentedMembers level members
  | [], _, _ => by simp [indentedMembers]
  | (name, value) :: rest, plain, level => by
      have first := noReturn_renderIndented value plain.1 level
      have others := noReturn_indentedMembers rest plain.2 level
      simp [indentedMembers, noReturn_newLine, noReturn_quoted, first, others]

end

/-! ## Sorting names -/

theorem sortKeysMembers_eq (members : List (Text × Json)) :
    sortKeysMembers members = members.map fun member => (member.1, sortKeys member.2) := by
  induction members with
  | nil => rfl
  | cons member rest inductionHypothesis => simp [sortKeysMembers, inductionHypothesis]

theorem sortKeysItems_eq (items : List Json) : sortKeysItems items = items.map sortKeys := by
  induction items with
  | nil => rfl
  | cons item rest inductionHypothesis => simp [sortKeysItems, inductionHypothesis]

/-- The members of an object in the order of their names. -/
def inOrder (members : List (Text × Json)) : List (Text × Json) :=
  members.mergeSort fun a b => Text.le a.1 b.1

theorem sortKeys_obj (members : List (Text × Json)) :
    sortKeys (.obj members) =
      .obj (inOrder (members.map fun member => (member.1, sortKeys member.2))) := by
  rw [sortKeys, sortKeysMembers_eq, inOrder]

theorem inOrder_perm (members : List (Text × Json)) : (inOrder members).Perm members :=
  List.mergeSort_perm _ _

/-- Members with distinct names have one order. -/
theorem inOrder_eq_of_perm {left right : List (Text × Json)} (once : (left.map Prod.fst).Nodup)
    (permutation : left.Perm right) : inOrder left = inOrder right := by
  have sorted : (inOrder left).Perm (inOrder right) :=
    (inOrder_perm left).trans (permutation.trans (inOrder_perm right).symm)
  refine sorted.eq_of_pairwise (fun a b inLeft inRight before after => ?_)
    (Text.pairwise_mergeSort Prod.fst left) (Text.pairwise_mergeSort Prod.fst right)
  have names := Text.le_antisymm before after
  have here : a ∈ left := (inOrder_perm left).mem_iff.mp inLeft
  have there : b ∈ left := permutation.mem_iff.mpr ((inOrder_perm right).mem_iff.mp inRight)
  exact List.inj_on_of_nodup_map once here there names

/-- Members in the order of their names are what sorting them yields. -/
theorem inOrder_eq_of_ordered {left right : List (Text × Json)}
    (once : (left.map Prod.fst).Nodup) (permutation : left.Perm right)
    (ordered : (right.map Prod.fst).Pairwise fun a b => Text.le a b = true) :
    inOrder left = right := by
  rw [inOrder_eq_of_perm once permutation]
  exact List.mergeSort_of_pairwise (List.pairwise_map.mp ordered)

/-- What stands under a name in a list of members with distinct names. -/
theorem look?_eq_some_iff {members : List (Text × Json)} (once : (members.map Prod.fst).Nodup)
    {name : Text} {value : Json} : look? members name = some value ↔ (name, value) ∈ members := by
  induction members with
  | nil => simp [look?]
  | cons member rest inductionHypothesis =>
      obtain ⟨other, here⟩ := member
      obtain ⟨fresh, onceRest⟩ := List.nodup_cons.mp once
      rw [look?, List.mem_cons]
      by_cases same : other = name
      · subst same
        have notLater : (other, value) ∉ rest := fun later =>
          fresh (List.mem_map.mpr ⟨_, later, rfl⟩)
        simp [notLater, eq_comm]
      · have notHere : (name, value) ≠ (other, here) := fun equal =>
          same (Prod.mk.inj equal).1.symm
        simp [same, notHere, inductionHypothesis onceRest]

/-- Sorting the names of an object leaves what stands under each of them in place. -/
theorem look?_inOrder {members : List (Text × Json)} (once : (members.map Prod.fst).Nodup)
    (name : Text) : look? (inOrder members) name = look? members name := by
  have permutation := inOrder_perm members
  have sortedOnce : ((inOrder members).map Prod.fst).Nodup :=
    (permutation.map Prod.fst).nodup_iff.mpr once
  apply Option.ext
  intro value
  rw [look?_eq_some_iff sortedOnce, look?_eq_some_iff once, permutation.mem_iff]

theorem look?_map (change : Json → Json) (members : List (Text × Json)) (name : Text) :
    look? (members.map fun member => (member.1, change member.2)) name =
      (look? members name).map change := by
  induction members with
  | nil => rfl
  | cons member rest inductionHypothesis =>
      by_cases same : member.1 = name
      · simp [look?, same]
      · simp [look?, same, inductionHypothesis]

/-- What stands under a name once the names are sorted. -/
theorem get?_sortKeys {members : List (Text × Json)} (once : (members.map Prod.fst).Nodup)
    (name : Text) : (sortKeys (.obj members)).get? name = (look? members name).map sortKeys := by
  have distinct : ((members.map fun member => (member.1, sortKeys member.2)).map Prod.fst).Nodup := by
    rw [List.map_map]
    exact once
  rw [sortKeys_obj, get?, look?_inOrder distinct, look?_map]

mutual

/-- Sorting names keeps a value plain. -/
theorem plain_sortKeys : (value : Json) → Plain value → Plain (sortKeys value)
  | .null, _ => trivial
  | .bool _, _ => trivial
  | .int _, readable => readable
  | .float _, plain => plain.elim
  | .str _, _ => trivial
  | .arr items, plain => plain_sortKeysItems items plain
  | .obj members, plain => by
      have later := plain_sortKeysMembers members plain.2
      have permutation := inOrder_perm (sortKeysMembers members)
      refine ⟨?_, plainMembers_iff.mpr fun member sorted => ?_⟩
      · have names : (sortKeysMembers members).map Prod.fst = members.map Prod.fst := by
          rw [sortKeysMembers_eq, List.map_map]
          rfl
        have once := plain.1
        rw [← names] at once
        exact (permutation.map Prod.fst).nodup_iff.mpr once
      · exact plainMembers_iff.mp later member (permutation.mem_iff.mp sorted)

theorem plain_sortKeysItems : (items : List Json) → PlainItems items →
    PlainItems (sortKeysItems items)
  | [], _ => trivial
  | item :: rest, plain => ⟨plain_sortKeys item plain.1, plain_sortKeysItems rest plain.2⟩

theorem plain_sortKeysMembers : (members : List (Text × Json)) → PlainMembers members →
    PlainMembers (sortKeysMembers members)
  | [], _ => trivial
  | (_, value) :: rest, plain => ⟨plain_sortKeys value plain.1, plain_sortKeysMembers rest plain.2⟩

end

end Json
end Codemap
