import Codemap.Yaml.Presentation
import Mathlib.Data.List.Forall2
import Mathlib.Logic.Relation
import Mathlib.Logic.Relator

namespace Codemap
namespace Yaml

/-!
# What values share

The values of a document hold one another, and one object may be held in several places.  A
value reaches the objects that it holds, directly or through others; a change of an object
is seen from every value that reaches it, and from no other.

Two documents are the same if their objects belong together one to one and hold the same,
so that what is shared in one of them is shared in the other.  The numbers of the objects do
not count, and neither do the marks of moments.
-/

/-- Lists that are related item by item over a list between them. -/
theorem forall₂_trans {α β γ : Type} {early : α → β → Prop} {late : β → γ → Prop}
    {both : α → γ → Prop} (trans : ∀ {first second third}, early first second →
      late second third → both first third)
    {left : List α} {middle : List β} {right : List γ} (each : List.Forall₂ early left middle)
    (next : List.Forall₂ late middle right) : List.Forall₂ both left right := by
  induction each generalizing right with
  | nil =>
      cases next
      exact .nil
  | cons first _ inductionHypothesis =>
      rcases next with - | ⟨again, next⟩
      exact .cons (trans first again) (inductionHypothesis next)

namespace Value

variable {value other : Value} {name : Text} {entries : List (Value × Value)}

/-- The value is no reference to an object beyond a bound. -/
def Inside (bound : Nat) (value : Value) : Prop :=
  ∀ id, value = .ref id → id < bound

theorem Inside.mono {bound wider : Nat} (inside : value.Inside bound) (wide : bound ≤ wider) :
    value.Inside wider :=
  fun id same => Nat.lt_of_lt_of_le (inside id same) wide

theorem inside_of_isAtom {bound : Nat} (atom : value.isAtom = true) : value.Inside bound := by
  rintro id rfl
  cases atom

/-! ## Keys that are texts -/

theorem sameAtom_str_iff : value.sameAtom (.str name) = true ↔ value = .str name := by
  cases value <;> simp [sameAtom, wholeNumber?]

/-- What is found under a text stands in an entry with this text. -/
theorem mem_of_look? (found : look? entries (.str name) = some value) :
    (.str name, value) ∈ entries := by
  induction entries with
  | nil => cases found
  | cons entry rest inductionHypothesis =>
      rw [look?] at found
      split at found
      · next same =>
          cases found
          rw [← sameAtom_str_iff.mp same]
          exact List.mem_cons_self
      · exact List.mem_cons_of_mem entry (inductionHypothesis found)

/-- What is found under a text stands at some position, and no other text is found there. -/
theorem position_of_look? (found : look? entries (.str name) = some value) :
    ∃ index, entries[index]? = some (.str name, value) ∧
      (Object.mapping entries).parts[2 * index + 1]? = some value := by
  induction entries with
  | nil => cases found
  | cons entry rest inductionHypothesis =>
      rw [look?] at found
      split at found
      · next same =>
          cases found
          refine ⟨0, ?_, rfl⟩
          rw [← sameAtom_str_iff.mp same]
          rfl
      · obtain ⟨index, there, part⟩ := inductionHypothesis found
        exact ⟨index + 1, there, part⟩

theorem look?_put_of_ne {different : Text} (apart : different ≠ name) :
    look? (put entries (.str name) value) (.str different) = look? entries (.str different) := by
  have unlike : (Value.str name).sameAtom (.str different) = false := by
    rw [← Bool.not_eq_true, sameAtom_str_iff]
    exact fun same => apart (Value.str.inj same).symm
  induction entries with
  | nil => simp [put, look?, unlike]
  | cons entry rest inductionHypothesis =>
      obtain ⟨key, old⟩ := entry
      rw [put]
      split
      · next same => simp [look?, sameAtom_str_iff.mp same, unlike]
      · rw [look?, look?, inductionHypothesis]

theorem look?_dropKey_of_ne {different : Text} (apart : different ≠ name) :
    look? (dropKey entries (.str name)) (.str different) = look? entries (.str different) := by
  induction entries with
  | nil => rfl
  | cons entry rest inductionHypothesis =>
      obtain ⟨key, old⟩ := entry
      rw [dropKey]
      split
      · next same =>
          have unlike : key.sameAtom (.str different) = false := by
            rw [sameAtom_str_iff.mp same, ← Bool.not_eq_true, sameAtom_str_iff]
            exact fun same => apart (Value.str.inj same).symm
          simp [look?, unlike]
      · rw [look?, look?, inductionHypothesis]

/-! ## Documents that are the same -/

/-- A value without the mark of its origin. -/
def bare : Value → Value
  | .moment value _ => .moment value 0
  | value => value

/-- Values of two documents agree: they are references to objects that belong together, or
equal atoms. -/
inductive Agrees (pairs : Nat → Nat → Prop) : Value → Value → Prop
  | ref {left right : Nat} (paired : pairs left right) : Agrees pairs (.ref left) (.ref right)
  | atom {left right : Value} (atom : left.isAtom = true) (same : left.bare = right.bare) :
      Agrees pairs left right

theorem isAtom_bare (value : Value) : value.bare.isAtom = value.isAtom := by
  cases value <;> rfl

variable {pairs further : Nat → Nat → Prop}

theorem Agrees.of_eq (pairs : ∀ id, value = .ref id → further id id) : Agrees further value value := by
  cases value with
  | ref id => exact .ref (pairs id rfl)
  | _ => exact .atom rfl rfl

theorem Agrees.trans {first second third : Value} (early : Agrees pairs first second)
    (late : Agrees further second third) : Agrees (Relation.Comp pairs further) first third := by
  cases early with
  | ref paired =>
      cases late with
      | ref later => exact .ref ⟨_, paired, later⟩
      | atom atom => cases atom
  | atom atom same =>
      cases late with
      | ref =>
          cases first <;> cases same
          cases atom
      | atom _ again => exact .atom atom (same.trans again)

theorem Agrees.str_iff (agrees : Agrees pairs value other) : value = .str name ↔ other = .str name := by
  cases agrees with
  | ref => simp
  | atom atom same =>
      constructor
      · rintro rfl
        cases other <;> cases same
        rfl
      · rintro rfl
        cases value <;> cases same
        rfl

/-- Lists whose items agree have items that agree at every position. -/
theorem getElem?_agrees {left right : List Value} (each : List.Forall₂ (Agrees pairs) left right)
    (index : Nat) : Option.Rel (Agrees pairs) left[index]? right[index]? := by
  induction each generalizing index with
  | nil => exact .none
  | cons first _ inductionHypothesis =>
      cases index with
      | zero => exact .some first
      | succ index => exact inductionHypothesis index

/-- Entries whose keys and values agree have values that agree under every text. -/
theorem look?_agrees {left right : List (Value × Value)}
    (each : List.Forall₂ (Agrees pairs) (Object.mapping left).parts (Object.mapping right).parts)
    (name : Text) :
    Option.Rel (Agrees pairs) (look? left (.str name)) (look? right (.str name)) := by
  induction left generalizing right with
  | nil =>
      cases right with
      | nil => exact .none
      | cons entry rest => cases each
  | cons entry rest inductionHypothesis =>
      cases right with
      | nil => cases each
      | cons other others =>
          rcases each with - | ⟨keys, - | ⟨values, each⟩⟩
          have alike : entry.1 = .str name ↔ other.1 = .str name := keys.str_iff
          rw [← sameAtom_str_iff, ← sameAtom_str_iff, ← Bool.eq_iff_iff] at alike
          rw [look?, look?, alike]
          split
          · exact .some values
          · exact inductionHypothesis each

end Value

namespace Object

variable {pairs further : Nat → Nat → Prop}

/-- What an object is. -/
inductive Kind where
  | list
  | mapping
  | set
  | pair
  | vacant
deriving DecidableEq

/-- The kind of an object. -/
def kind : Object → Kind
  | .list _ => .list
  | .mapping _ => .mapping
  | .set _ => .set
  | .pair _ _ => .pair
  | .vacant => .vacant

/-- Objects of two documents agree: they are of one kind and hold values that agree. -/
structure Agrees (pairs : Nat → Nat → Prop) (left right : Object) : Prop where
  kind : left.kind = right.kind
  parts : List.Forall₂ (Value.Agrees pairs) left.parts right.parts

theorem Agrees.of_parts {object : Object}
    (each : ∀ part ∈ object.parts, Value.Agrees pairs part part) : Agrees pairs object object :=
  ⟨rfl, List.forall₂_same.mpr each⟩

theorem Agrees.trans {first second third : Object} (early : Agrees pairs first second)
    (late : Agrees further second third) : Agrees (Relation.Comp pairs further) first third :=
  ⟨early.kind.trans late.kind,
    forall₂_trans (fun first next => first.trans next) early.parts late.parts⟩

/-- Objects that agree, kind by kind. -/
inductive Alike (pairs : Nat → Nat → Prop) : Object → Object → Prop
  | list {items others : List Value} (each : List.Forall₂ (Value.Agrees pairs) items others) :
      Alike pairs (.list items) (.list others)
  | mapping {entries others : List (Value × Value)}
      (each : List.Forall₂ (Value.Agrees pairs) (mapping entries).parts (mapping others).parts) :
      Alike pairs (.mapping entries) (.mapping others)
  | set {members others : List Value} (each : List.Forall₂ (Value.Agrees pairs) members others) :
      Alike pairs (.set members) (.set others)
  | pair {first second third fourth : Value}
      (each : List.Forall₂ (Value.Agrees pairs) [first, second] [third, fourth]) :
      Alike pairs (.pair first second) (.pair third fourth)
  | vacant : Alike pairs .vacant .vacant

theorem Agrees.alike {left right : Object} (agrees : Agrees pairs left right) :
    Alike pairs left right := by
  obtain ⟨kind, parts⟩ := agrees
  cases left with
  | list items =>
      cases right with
      | list others => exact .list parts
      | _ => cases kind
  | mapping entries =>
      cases right with
      | mapping others => exact .mapping parts
      | _ => cases kind
  | set members =>
      cases right with
      | set others => exact .set parts
      | _ => cases kind
  | pair first second =>
      cases right with
      | pair third fourth => exact .pair parts
      | _ => cases kind
  | vacant =>
      cases right with
      | vacant => exact .vacant
      | _ => cases kind

end Object

namespace Document

variable {document edited left right : Document} {value : Value} {id changed : Nat}

/-! ## Objects of a document -/

theorem object_of_not_lt (beyond : ¬ id < document.objects.size) : document.object id = .vacant := by
  simp [object, Array.getD, beyond]

@[simp] theorem object_setObject (document : Document) (changed : Nat) (object : Object) (id : Nat) :
    (document.setObject changed object).object id =
      if id = changed ∧ changed < document.objects.size then object else document.object id := by
  simp only [Document.object, setObject, Array.getD_eq_getD_getElem?, Array.getElem?_setIfInBounds]
  by_cases same : changed = id
  · subst same
    by_cases inside : changed < document.objects.size
    · simp [inside]
    · simp [inside]
  · simp [same, Ne.symm same]

theorem object_newObject (document : Document) (object : Object) (id : Nat) :
    (document.newObject object).2.object id =
      if id = document.objects.size then object else document.object id := by
  simp only [Document.object, newObject, Array.getD_eq_getD_getElem?, Array.getElem?_push]
  split <;> rfl

theorem object_graft (other : Document) (inside : id < document.objects.size) :
    (document.graft other).2.object id = document.object id := by
  simp only [Document.object, graft, Array.getD_eq_getD_getElem?, Array.getElem?_append_left inside]

/-- Every reference is to an object of the document. -/
structure Closed (document : Document) : Prop where
  root : document.root.Inside document.objects.size
  parts : ∀ id, ∀ part ∈ (document.object id).parts, part.Inside document.objects.size

/-- A value reaches an object, directly or through others. -/
inductive Reaches (document : Document) : Value → Nat → Prop
  | here (id : Nat) : Reaches document (.ref id) id
  | through {between id : Nat} {part : Value} (member : part ∈ (document.object between).parts)
      (further : Reaches document part id) : Reaches document (.ref between) id

/-- Whatever is reached is the value itself, or is held by an object that is reached. -/
theorem Reaches.held (reached : document.Reaches value id) :
    value = .ref id ∨ ∃ between, document.Reaches value between ∧
      Value.ref id ∈ (document.object between).parts := by
  induction reached with
  | here id => exact Or.inl rfl
  | through member further inductionHypothesis =>
      right
      rcases inductionHypothesis with rfl | ⟨last, reached, held⟩
      · exact ⟨_, .here _, member⟩
      · exact ⟨last, .through member reached, held⟩

/-- No object is referred to from two places, and none refers to the root. -/
structure Unshared (document : Document) : Prop where
  root : ∀ id, document.root = .ref id → ∀ holder, Value.ref id ∉ (document.object holder).parts
  once : ∀ (id first second position another : Nat),
    (document.object first).parts[position]? = some (Value.ref id) →
      (document.object second).parts[another]? = some (Value.ref id) →
        first = second ∧ position = another

/-! ## Documents that are the same -/

/-- Objects of two documents belong together one to one, and those that do agree. -/
structure Paired (left right : Document) (pairs : Nat → Nat → Prop) : Prop where
  unique : Relator.BiUnique pairs
  objects : ∀ first second, pairs first second →
    Object.Agrees pairs (left.object first) (right.object second)

/-- Two documents are the same. -/
def Same (left right : Document) : Prop :=
  ∃ pairs, Paired left right pairs ∧ Value.Agrees pairs left.root right.root

/-- Documents with the same root and the same objects are the same; how many vacant numbers
follow does not matter. -/
theorem same_of_objects (root : left.root = right.root)
    (objects : ∀ id, left.object id = right.object id) : left.Same right := by
  refine ⟨Eq, ⟨⟨?_, ?_⟩, ?_⟩, ?_⟩
  · rintro first second third rfl rfl
    rfl
  · rintro first second third rfl rfl
    rfl
  · rintro first second rfl
    rw [objects first]
    exact .of_parts fun part _ => .of_eq fun _ _ => rfl
  · rw [root]
    exact .of_eq fun _ _ => rfl

theorem Same.refl (document : Document) : document.Same document :=
  same_of_objects rfl fun _ => rfl

theorem Paired.trans {middle : Document} {pairs further : Nat → Nat → Prop}
    (early : Paired left middle pairs) (late : Paired middle right further) :
    Paired left right (Relation.Comp pairs further) where
  unique := by
    constructor
    · rintro first second third ⟨one, toOne, fromOne⟩ ⟨two, toTwo, fromTwo⟩
      rw [late.unique.1 fromOne fromTwo] at toOne
      exact early.unique.1 toOne toTwo
    · rintro first second third ⟨one, toOne, fromOne⟩ ⟨two, toTwo, fromTwo⟩
      rw [early.unique.2 toOne toTwo] at fromOne
      exact late.unique.2 fromOne fromTwo
  objects := by
    rintro first second ⟨between, toMiddle, fromMiddle⟩
    exact (early.objects _ _ toMiddle).trans (late.objects _ _ fromMiddle)

theorem Same.trans {middle : Document} (early : left.Same middle) (late : middle.Same right) :
    left.Same right := by
  obtain ⟨pairs, paired, roots⟩ := early
  obtain ⟨further, later, rootsLater⟩ := late
  exact ⟨_, paired.trans later, roots.trans rootsLater⟩

/-- A value that does not reach the only object that has changed is the same as before. -/
theorem same_of_not_reaches (closed : document.Closed)
    (kept : ∀ id < document.objects.size, id ≠ changed → edited.object id = document.object id)
    (inside : value.Inside document.objects.size)
    (apart : ¬ document.Reaches value changed) :
    Same { document with root := value } { edited with root := value } := by
  refine ⟨fun first second => first = second ∧ first < document.objects.size ∧
    ¬ document.Reaches (.ref first) changed, ⟨⟨?_, ?_⟩, ?_⟩, ?_⟩
  · rintro first second third ⟨rfl, -⟩ ⟨rfl, -⟩
    rfl
  · rintro first second third ⟨rfl, -⟩ ⟨rfl, -⟩
    rfl
  · rintro first second ⟨rfl, within, unreached⟩
    have other : first ≠ changed := by
      rintro rfl
      exact unreached (.here first)
    have here : Document.object { edited with root := value } first = document.object first :=
      kept first within other
    rw [here]
    refine .of_parts fun part member => .of_eq ?_
    rintro id rfl
    exact ⟨rfl, closed.parts first _ member id rfl, fun reached => unreached (.through member reached)⟩
  · refine .of_eq ?_
    rintro id rfl
    exact ⟨rfl, inside id rfl, apart⟩

end Document

end Yaml
end Codemap
