import Codemap.Proofs.Json.Quoting
import Codemap.Proofs.Number.Decimal

namespace Codemap
namespace Json

/-!
# Values written and read back

A value may be spelled in several ways, which differ in the blanks between its parts
only.  Whatever spells a value is read as that value; so a text spells one value at
most, and a layout that spells every value of a class is injective on it.

Numbers that are no integers are left out, and so are integers with more digits than
an integer may be read from.
-/

/-- A text that ends a value which stands before it. -/
def Closes (rest : Text) : Prop :=
  ∀ c, rest.head? = some c → c ∈ [',', ']', '}', ' ', '\t', '\n', '\r']

/-- A text of blanks. -/
def Blanks (text : Text) : Prop :=
  ∀ c ∈ text, isSpace c = true

/-- An integer with no more digits than may be read. -/
def Readable (n : Int) : Prop :=
  (Text.ofNat n.natAbs).length ≤ Text.digitLimit

instance (n : Int) : Decidable (Readable n) :=
  inferInstanceAs (Decidable (_ ≤ _))

mutual

/-- A text spells a value. -/
inductive Spells : Json → Text → Prop
  | null : Spells .null "null".toList
  | true : Spells (.bool true) "true".toList
  | false : Spells (.bool false) "false".toList
  | int {n : Int} : Readable n → Spells (.int n) (Text.ofInt n)
  | str {text : Text} : Spells (.str text) (quoted text)
  | emptyArray : Spells (.arr []) ['[', ']']
  | array {items : List Json} {before text : Text} :
      Blanks before → SpellsItems items text → Spells (.arr items) ('[' :: before ++ text ++ [']'])
  | emptyObject : Spells (.obj []) ['{', '}']
  | object {members : List (Text × Json)} {before text : Text} :
      Blanks before → (members.map Prod.fst).Nodup → SpellsMembers members text →
        Spells (.obj members) ('{' :: before ++ text ++ ['}'])

/-- A text spells the items of an array that is not empty. -/
inductive SpellsItems : List Json → Text → Prop
  | last {item : Json} {text after : Text} :
      Spells item text → Blanks after → SpellsItems [item] (text ++ after)
  | more {item : Json} {items : List Json} {text before later : Text} :
      Spells item text → Blanks before → SpellsItems items later →
        SpellsItems (item :: items) (text ++ ',' :: before ++ later)

/-- A text spells the members of an object that is not empty. -/
inductive SpellsMembers : List (Text × Json) → Text → Prop
  | last (name : Text) {value : Json} {between text after : Text} :
      Blanks between → Spells value text → Blanks after →
        SpellsMembers [(name, value)] (quoted name ++ ':' :: between ++ text ++ after)
  | more (name : Text) {value : Json} {members : List (Text × Json)}
      {between text before later : Text} :
      Blanks between → Spells value text → Blanks before → SpellsMembers members later →
        SpellsMembers ((name, value) :: members)
          (quoted name ++ ':' :: between ++ text ++ ',' :: before ++ later)

end

/-! ## Reading numbers and blanks -/

theorem readNumber?_ofNat (negative : Bool) {n : Nat} {rest : Text}
    (fits : (Text.ofNat n).length ≤ Text.digitLimit) (closes : Closes rest) :
    readNumber? negative (Text.ofNat n ++ rest) = some (.int (Text.withSign negative n), rest) := by
  have ends : ∀ c, rest.head? = some c → c.isDigit = false := by
    intro c begins
    have following := closes c begins
    simp only [List.mem_cons, List.not_mem_nil, or_false] at following
    rcases following with rfl | rfl | rfl | rfl | rfl | rfl | rfl <;> rfl
  have integer : splitPlaces rest = ([], rest) ∧ splitExponent rest = ([], rest) := by
    cases rest with
    | nil => exact ⟨rfl, rfl⟩
    | cons c later =>
        have following := closes c rfl
        simp only [List.mem_cons, List.not_mem_nil, or_false] at following
        rcases following with rfl | rfl | rfl | rfl | rfl | rfl | rfl <;> exact ⟨rfl, rfl⟩
  rcases Nat.eq_zero_or_pos n with rfl | positive
  · rw [Text.ofNat_zero] at fits ⊢
    simp [readNumber?, takeWhole, integer, Text.digitLimit, Binary64.digitsValue, Text.numberOfDigits]
  · have whole : Binary64.takeDigits (Text.ofNat n ++ rest) = (Text.ofNat n, rest) :=
      Binary64.takeDigits_append (fun _ => Text.isDigit_of_mem_ofNat) ends
    have value := Binary64.digitsValue_ofNat n
    have head := Text.head_ofNat positive
    have nonempty := Text.ofNat_ne_nil n
    cases digits : Text.ofNat n with
    | nil => exact absurd digits nonempty
    | cons first others =>
        rw [digits] at head fits whole value
        have notZero : first ≠ '0' := fun same => head (congrArg some same)
        have taken : takeWhole (first :: others ++ rest) = (first :: others, rest) := by
          rw [takeWhole, whole]
          rintro later same
          exact absurd (List.cons.inj same).1 notZero
        rw [readNumber?, taken]
        simpa [integer, value] using fits

/-- Blanks in front of a text that begins with none are skipped. -/
theorem skipSpace_append {before rest : Text} (blanks : Blanks before)
    (begins : ∀ c, rest.head? = some c → isSpace c = false) :
    skipSpace (before ++ rest) = rest := by
  rw [skipSpace, List.dropWhile_append_of_pos blanks]
  cases rest with
  | nil => rfl
  | cons c later => simp [begins c rfl]

/-- A text that begins with no blank is not shortened. -/
theorem skipSpace_cons {c : Char} (visible : isSpace c = false) (rest : Text) :
    skipSpace (c :: rest) = c :: rest := by
  simp [skipSpace, visible]

/-- A new name is put at the end. -/
theorem put_of_not_mem {members : List (Text × Json)} {name : Text} (value : Json)
    (fresh : name ∉ members.map Prod.fst) : put members name value = members ++ [(name, value)] := by
  induction members with
  | nil => rfl
  | cons entry rest inductionHypothesis =>
      rw [List.map_cons, List.mem_cons, not_or] at fresh
      rw [put, if_neg (Ne.symm fresh.1), inductionHypothesis fresh.2]
      rfl

/-- A name that occurs once is new to the members before it. -/
theorem notMem_of_once {before members : List (Text × Json)} {name : Text} {value : Json}
    (once : ((before ++ (name, value) :: members).map Prod.fst).Nodup) :
    name ∉ before.map Prod.fst := by
  rw [List.map_append] at once
  exact fun member => (List.nodup_append.mp once).2.2 name member name (by simp) rfl

theorem closes_cons {c : Char} (ends : c ∈ [',', ']', '}', ' ', '\t', '\n', '\r']) (rest : Text) :
    Closes (c :: rest) := by
  intro first begins
  cases Option.some.inj begins
  exact ends

theorem closes_append {before rest : Text} (blanks : Blanks before) (closes : Closes rest) :
    Closes (before ++ rest) := by
  cases before with
  | nil => exact closes
  | cons c later =>
      apply closes_cons
      have blank := blanks c List.mem_cons_self
      simp only [isSpace, Bool.or_eq_true, beq_iff_eq] at blank
      rcases blank with ((rfl | rfl) | rfl) | rfl <;> simp

/-! ## Reading values -/

/-- A character with which the spelling of a value may begin. -/
def Begins (c : Char) : Prop :=
  isSpace c = false ∧ c ≠ ']' ∧ c ≠ '}'

theorem begins_of_isDigit {c : Char} (digit : c.isDigit = true) : Begins c := by
  refine ⟨?_, ?_, ?_⟩
  · simp only [isSpace, Bool.or_eq_false_iff, beq_eq_false_iff_ne]
    refine ⟨⟨⟨?_, ?_⟩, ?_⟩, ?_⟩ <;> rintro rfl <;> cases digit
  · rintro rfl
    cases digit
  · rintro rfl
    cases digit

theorem Spells.begins {value : Json} {text : Text} (spelled : Spells value text) :
    ∃ c later, text = c :: later ∧ Begins c := by
  cases spelled with
  | null => exact ⟨'n', _, rfl, by simp [Begins, isSpace]⟩
  | true => exact ⟨'t', _, rfl, by simp [Begins, isSpace]⟩
  | false => exact ⟨'f', _, rfl, by simp [Begins, isSpace]⟩
  | str => exact ⟨'\x22', _, rfl, by simp [Begins, isSpace]⟩
  | emptyArray => exact ⟨'[', _, rfl, by simp [Begins, isSpace]⟩
  | array => exact ⟨'[', _, rfl, by simp [Begins, isSpace]⟩
  | emptyObject => exact ⟨'{', _, rfl, by simp [Begins, isSpace]⟩
  | object => exact ⟨'{', _, rfl, by simp [Begins, isSpace]⟩
  | @int n =>
      cases n with
      | negSucc n => exact ⟨'-', _, rfl, by simp [Begins, isSpace]⟩
      | ofNat n =>
          cases digits : Text.ofNat n with
          | nil => exact absurd digits (Text.ofNat_ne_nil n)
          | cons first others =>
              refine ⟨first, others, digits, begins_of_isDigit ?_⟩
              exact Text.isDigit_of_mem_ofNat (n := n) (by simp [digits])

/-- The blanks in front of a value are skipped, and no more. -/
theorem Spells.skipSpace_append {value : Json} {text before : Text} (spelled : Spells value text)
    (blanks : Blanks before) (rest : Text) :
    skipSpace (before ++ (text ++ rest)) = text ++ rest := by
  obtain ⟨c, later, rfl, visible, _⟩ := spelled.begins
  exact Json.skipSpace_append blanks (by simp [visible])

theorem SpellsItems.begins {items : List Json} {text : Text} (spelled : SpellsItems items text) :
    ∃ c later, text = c :: later ∧ Begins c := by
  cases spelled with
  | last item =>
      obtain ⟨c, later, rfl, begins⟩ := item.begins
      exact ⟨c, _, rfl, begins⟩
  | more item =>
      obtain ⟨c, later, rfl, begins⟩ := item.begins
      exact ⟨c, _, rfl, begins⟩

theorem SpellsMembers.begins {members : List (Text × Json)} {text : Text}
    (spelled : SpellsMembers members text) : ∃ later, text = '\x22' :: later := by
  cases spelled with
  | last => exact ⟨_, rfl⟩
  | more => exact ⟨_, rfl⟩

/-- No name of a value begins with a digit. -/
theorem readName?_digit {c : Char} (digit : c.isDigit = true) (rest : Text) :
    readName? (c :: rest) = none := by
  have others : c ≠ 'n' ∧ c ≠ 't' ∧ c ≠ 'f' ∧ c ≠ 'N' ∧ c ≠ 'I' ∧ c ≠ '-' := by
    refine ⟨?_, ?_, ?_, ?_, ?_, ?_⟩ <;> rintro rfl <;> cases digit
  simp [readName?, Ne.symm others.1, Ne.symm others.2.1, Ne.symm others.2.2.1,
    Ne.symm others.2.2.2.1, Ne.symm others.2.2.2.2.1, Ne.symm others.2.2.2.2.2]

/-- Nor a minus sign in front of one. -/
theorem readName?_minus {c : Char} (digit : c.isDigit = true) (rest : Text) :
    readName? ('-' :: c :: rest) = none := by
  have other : c ≠ 'I' := by
    rintro rfl
    cases digit
  simp [readName?, Ne.symm other]

theorem readValue?_int {n : Int} (readable : Readable n) {rest : Text} (closes : Closes rest)
    (fuel : Nat) : readValue? (fuel + 1) (Text.ofInt n ++ rest) = some (.int n, rest) := by
  cases n with
  | negSucc n =>
      have read := readNumber?_ofNat true readable closes
      rw [Int.natAbs_negSucc] at read
      rw [Text.ofInt]
      cases digits : Text.ofNat (n + 1) with
      | nil => exact absurd digits (Text.ofNat_ne_nil (n + 1))
      | cons first others =>
          have digit : first.isDigit = true :=
            Text.isDigit_of_mem_ofNat (n := n + 1) (by simp [digits])
          rw [digits, List.cons_append] at read
          rw [List.cons_append, List.cons_append, readValue?]
          rw [readName?_minus digit]
          exact read
  | ofNat n =>
      have read : readNumber? false (Text.ofNat n ++ rest) = some (.int n, rest) :=
        readNumber?_ofNat false readable closes
      rw [Text.ofInt]
      cases digits : Text.ofNat n with
      | nil => exact absurd digits (Text.ofNat_ne_nil n)
      | cons first others =>
          have digit : first.isDigit = true :=
            Text.isDigit_of_mem_ofNat (n := n) (by simp [digits])
          have notMark : first ≠ '\x22' ∧ first ≠ '[' ∧ first ≠ '{' ∧ first ≠ '-' := by
            refine ⟨?_, ?_, ?_, ?_⟩ <;> rintro rfl <;> cases digit
          rw [digits, List.cons_append] at read
          rw [List.cons_append, readValue?]
          · rw [readName?_digit digit]
            exact read
          all_goals simp [notMark]

/-- What stands behind a member decides how the reading of the members goes on. -/
theorem readMembers?_cons {before : List (Text × Json)} {name between text rest later : Text}
    {value : Json} {fuel : Nat} (fresh : name ∉ before.map Prod.fst) (blanks : Blanks between)
    (spelled : Spells value text) (found : readValue? fuel (text ++ rest) = some (value, rest)) :
    (skipSpace rest = '}' :: later →
      readMembers? (fuel + 1) before (quoted name ++ (':' :: (between ++ (text ++ rest)))) =
        some (before ++ [(name, value)], later)) ∧
    (skipSpace rest = ',' :: later →
      readMembers? (fuel + 1) before (quoted name ++ (':' :: (between ++ (text ++ rest)))) =
        readMembers? fuel (before ++ [(name, value)]) (skipSpace later)) := by
  have named := readString?_escaped name (':' :: (between ++ (text ++ rest)))
  have colon : skipSpace (':' :: (between ++ (text ++ rest))) = ':' :: (between ++ (text ++ rest)) :=
    skipSpace_cons (by decide) _
  constructor <;> intro behind <;>
    simp [quoted, readMembers?, named, colon, spelled.skipSpace_append blanks, found, behind,
      put_of_not_mem value fresh]

mutual

/-- What spells a value is read as that value. -/
theorem readValue?_of_spells {value : Json} {text : Text} :
    Spells value text → ∀ (rest : Text) (fuel : Nat), Closes rest → text.length ≤ fuel →
      readValue? fuel (text ++ rest) = some (value, rest) := by
  intro spelled rest fuel closes enough
  obtain ⟨c, later, begun, _⟩ := spelled.begins
  cases fuel with
  | zero => simp [begun] at enough
  | succ fuel =>
      cases spelled with
      | null => rfl
      | true => rfl
      | false => rfl
      | int readable => exact readValue?_int readable closes fuel
      | @str content =>
          have found := readString?_escaped content rest
          simp [quoted, readValue?, found]
      | emptyArray => rfl
      | @array items before inner blanks itemsSpelled =>
          have shorter : inner.length < fuel := by
            simp only [List.length_append, List.length_cons, List.length_nil] at enough
            omega
          have found := readItems?_of_spells itemsSpelled rest fuel shorter
          obtain ⟨first, others, begins, notBlank, notClosing, _⟩ := itemsSpelled.begins
          have skipped : skipSpace (before ++ (inner ++ ']' :: rest)) = inner ++ ']' :: rest :=
            skipSpace_append blanks (by simp [begins, notBlank])
          rw [begins, List.cons_append] at found skipped
          simp [begins, readValue?, skipped, found, notClosing]
      | emptyObject => rfl
      | @object members before inner blanks once membersSpelled =>
          have shorter : inner.length < fuel := by
            simp only [List.length_append, List.length_cons, List.length_nil] at enough
            omega
          have found := readMembers?_of_spells membersSpelled [] rest fuel once shorter
          obtain ⟨others, begins⟩ := membersSpelled.begins
          have skipped : skipSpace (before ++ (inner ++ '}' :: rest)) = inner ++ '}' :: rest :=
            skipSpace_append blanks (by simp [begins, isSpace])
          rw [begins, List.cons_append] at found skipped
          simp [begins, readValue?, skipped, found]

/-- What spells the items of an array is read as these items. -/
theorem readItems?_of_spells {items : List Json} {text : Text} :
    SpellsItems items text → ∀ (rest : Text) (fuel : Nat), text.length < fuel →
      readItems? fuel (text ++ ']' :: rest) = some (items, rest) := by
  intro spelled rest fuel enough
  cases fuel with
  | zero => exact absurd enough (Nat.not_lt_zero _)
  | succ fuel =>
      cases spelled with
      | @last item text after itemSpelled blanks =>
          have closes : Closes (after ++ ']' :: rest) :=
            closes_append blanks (closes_cons (by decide) rest)
          have found := readValue?_of_spells itemSpelled _ fuel closes (by
            rw [List.length_append] at enough
            omega)
          have skipped : skipSpace (after ++ ']' :: rest) = ']' :: rest :=
            skipSpace_append blanks (by simp [isSpace])
          rw [List.append_assoc, readItems?, found]
          simp only [skipped]
      | @more item items text before later itemSpelled blanks itemsSpelled =>
          have closes : Closes (',' :: (before ++ (later ++ ']' :: rest))) :=
            closes_cons (by decide) _
          have found := readValue?_of_spells itemSpelled _ fuel closes (by
            simp only [List.length_append, List.length_cons] at enough
            omega)
          have others := readItems?_of_spells itemsSpelled rest fuel (by
            simp only [List.length_append, List.length_cons] at enough
            omega)
          obtain ⟨first, remaining, begins, notBlank, _⟩ := itemsSpelled.begins
          have skipped : skipSpace (before ++ (later ++ ']' :: rest)) = later ++ ']' :: rest :=
            skipSpace_append blanks (by simp [begins, notBlank])
          have separator : skipSpace (',' :: (before ++ (later ++ ']' :: rest))) =
              ',' :: (before ++ (later ++ ']' :: rest)) := skipSpace_cons (by decide) _
          rw [List.append_assoc, List.append_assoc, List.cons_append, readItems?, found]
          simp only [separator, skipped, others, Option.map_some]

/-- What spells the members of an object is read as these members. -/
theorem readMembers?_of_spells {members : List (Text × Json)} {text : Text} :
    SpellsMembers members text → ∀ (before : List (Text × Json)) (rest : Text) (fuel : Nat),
      ((before ++ members).map Prod.fst).Nodup → text.length < fuel →
        readMembers? fuel before (text ++ '}' :: rest) = some (before ++ members, rest) := by
  intro spelled before rest fuel once enough
  cases fuel with
  | zero => exact absurd enough (Nat.not_lt_zero _)
  | succ fuel =>
      cases spelled with
      | @last name value between text after blanksBetween valueSpelled blanksAfter =>
          have closes : Closes (after ++ '}' :: rest) :=
            closes_append blanksAfter (closes_cons (by decide) rest)
          have found := readValue?_of_spells valueSpelled _ fuel closes (by
            simp only [List.length_append, List.length_cons] at enough
            omega)
          have closing : skipSpace (after ++ '}' :: rest) = '}' :: rest :=
            skipSpace_append blanksAfter (by simp [isSpace])
          simp only [List.append_assoc, List.cons_append]
          exact (readMembers?_cons (notMem_of_once once) blanksBetween valueSpelled found).1 closing
      | @more name value members between text blank later blanksBetween valueSpelled blanks
          membersSpelled =>
          have closes : Closes (',' :: (blank ++ (later ++ '}' :: rest))) :=
            closes_cons (by decide) _
          have found := readValue?_of_spells valueSpelled _ fuel closes (by
            simp only [List.length_append, List.length_cons] at enough
            omega)
          have others := readMembers?_of_spells membersSpelled (before ++ [(name, value)]) rest fuel
            (by simpa using once) (by
              simp only [List.length_append, List.length_cons] at enough
              omega)
          obtain ⟨following, opens⟩ := membersSpelled.begins
          have opening : skipSpace (blank ++ (later ++ '}' :: rest)) = later ++ '}' :: rest :=
            skipSpace_append blanks (by simp [opens, isSpace])
          simp only [List.append_assoc, List.cons_append]
          rw [(readMembers?_cons (notMem_of_once once) blanksBetween valueSpelled found).2
            (skipSpace_cons (by decide) _), opening, others, List.append_assoc, List.singleton_append]

end

/-- What spells a value is the text of that value. -/
theorem parse?_of_spells {value : Json} {text : Text} (spelled : Spells value text) :
    parse? text = some value := by
  have closes : Closes [] := by simp [Closes]
  obtain ⟨first, later, begins, notBlank, _⟩ := spelled.begins
  have skipped : skipSpace text = text := by simp [begins, skipSpace, notBlank]
  have found := readValue?_of_spells spelled [] (2 * text.length + 2) closes (by omega)
  rw [List.append_nil] at found
  rw [parse?, skipped, found]
  rfl

end Json
end Codemap
