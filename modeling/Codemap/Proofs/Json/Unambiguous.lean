import Codemap.Proofs.Json.Layout

namespace Codemap
namespace Json

/-!
# Where a value on one line ends

On one line, a value without fractions can be told from every other one, whatever
follows it: its first character says of which kind it is, a string ends at the quote that
is not escaped, an integer at the first character that is no digit, and a list at the
bracket in the place of a separator.  So two texts that begin with values are the same
only if the values are, and what follows them.  How many digits an integer has plays no
part in this.
-/

mutual

/-- Every number in the value is an integer. -/
def Exact : Json → Prop
  | .null | .bool _ | .int _ | .str _ => True
  | .float _ => False
  | .arr items => ExactItems items
  | .obj members => ExactMembers members

/-- Each item is exact. -/
def ExactItems : List Json → Prop
  | [] => True
  | item :: rest => Exact item ∧ ExactItems rest

/-- The value of each member is exact. -/
def ExactMembers : List (Text × Json) → Prop
  | [] => True
  | (_, value) :: rest => Exact value ∧ ExactMembers rest

end

theorem exactItems_iff {items : List Json} : ExactItems items ↔ ∀ item ∈ items, Exact item := by
  induction items with
  | nil => simp [ExactItems]
  | cons item rest inductionHypothesis => simp [ExactItems, inductionHypothesis]

theorem exactMembers_iff {members : List (Text × Json)} :
    ExactMembers members ↔ ∀ member ∈ members, Exact member.2 := by
  induction members with
  | nil => simp [ExactMembers]
  | cons member rest inductionHypothesis => simp [ExactMembers, inductionHypothesis]

/-! ## First characters -/

/-- The first character of a value, one digit standing for all of them and for the sign. -/
def mark : Json → Char
  | .null => 'n'
  | .bool true => 't'
  | .bool false => 'f'
  | .int _ => '0'
  | .float _ => '.'
  | .str _ => '\x22'
  | .arr _ => '['
  | .obj _ => '\x7b'

/-- What a first character stands for. -/
def markOf (c : Char) : Char :=
  if c.isDigit || c == '-' then '0' else c

theorem render_begins (separators : Separators) {value : Json} (exact : Exact value) :
    ∃ c later, render separators value = c :: later ∧ markOf c = mark value := by
  cases value with
  | null => exact ⟨'n', _, rfl, rfl⟩
  | bool truth => cases truth <;> exact ⟨_, _, rfl, rfl⟩
  | float x => exact exact.elim
  | str text => exact ⟨'\x22', _, rfl, rfl⟩
  | arr items => exact ⟨'[', _, rfl, rfl⟩
  | obj members => exact ⟨'\x7b', _, rfl, rfl⟩
  | int n =>
      cases n with
      | negSucc n => exact ⟨'-', _, rfl, rfl⟩
      | ofNat n =>
          cases digits : Text.ofNat n with
          | nil => exact absurd digits (Text.ofNat_ne_nil n)
          | cons first others =>
              have digit : first.isDigit = true :=
                Text.isDigit_of_mem_ofNat (n := n) (by simp [digits])
              exact ⟨first, others, digits, by simp [markOf, digit, mark]⟩

/-- No value begins with a closing bracket. -/
theorem mark_ne (value : Json) : mark value ≠ ']' := by
  rcases value with _ | (_ | _) | _ | _ | _ | _ | _ <;> simp [mark]

/-! ## Strings and integers -/

theorem quoted_append_inj {left right rest other : Text}
    (same : quoted left ++ rest = quoted right ++ other) : left = right ∧ rest = other := by
  have inside : left.flatMap escapeChar ++ '\x22' :: rest =
      right.flatMap escapeChar ++ '\x22' :: other := by simpa [quoted] using same
  have read := readString?_escaped left rest
  rw [inside, readString?_escaped] at read
  obtain ⟨texts, rests⟩ := Prod.mk.inj (Option.some.inj read)
  exact ⟨texts.symm, rests.symm⟩

theorem not_digit_of_closes {rest : Text} (closes : Closes rest) :
    ∀ c, rest.head? = some c → c.isDigit = false := by
  intro c begins
  have following := closes c begins
  simp only [List.mem_cons, List.not_mem_nil, or_false] at following
  rcases following with rfl | rfl | rfl | rfl | rfl | rfl | rfl <;> rfl

theorem ofNat_append_inj {left right : Nat} {rest other : Text} (closes : Closes rest)
    (otherCloses : Closes other)
    (same : Text.ofNat left ++ rest = Text.ofNat right ++ other) : left = right ∧ rest = other := by
  have taken : Binary64.takeDigits (Text.ofNat left ++ rest) = (Text.ofNat left, rest) :=
    Binary64.takeDigits_append (fun _ => Text.isDigit_of_mem_ofNat) (not_digit_of_closes closes)
  rw [same, Binary64.takeDigits_append (fun _ => Text.isDigit_of_mem_ofNat)
    (not_digit_of_closes otherCloses)] at taken
  obtain ⟨digits, rests⟩ := Prod.mk.inj taken
  have values := congrArg Binary64.digitsValue digits
  rw [Binary64.digitsValue_ofNat, Binary64.digitsValue_ofNat] at values
  exact ⟨values.symm, rests.symm⟩

theorem head_ofNat_ne_minus (n : Nat) (rest other : Text) : Text.ofNat n ++ rest ≠ '-' :: other := by
  intro same
  cases digits : Text.ofNat n with
  | nil => exact Text.ofNat_ne_nil n digits
  | cons first others =>
      have digit : first.isDigit = true :=
        Text.isDigit_of_mem_ofNat (n := n) (by simp [digits])
      rw [digits] at same
      rw [(List.cons.inj same).1] at digit
      cases digit

theorem ofInt_append_inj {left right : Int} {rest other : Text} (closes : Closes rest)
    (otherCloses : Closes other)
    (same : Text.ofInt left ++ rest = Text.ofInt right ++ other) : left = right ∧ rest = other := by
  cases left with
  | ofNat left =>
      cases right with
      | ofNat right =>
          obtain ⟨numbers, rests⟩ := ofNat_append_inj closes otherCloses same
          exact ⟨congrArg Int.ofNat numbers, rests⟩
      | negSucc right => exact absurd same (head_ofNat_ne_minus left rest _)
  | negSucc left =>
      cases right with
      | ofNat right => exact absurd same.symm (head_ofNat_ne_minus right other _)
      | negSucc right =>
          obtain ⟨numbers, rests⟩ :=
            ofNat_append_inj closes otherCloses (List.cons.inj same).2
          exact ⟨congrArg Int.negSucc (Nat.succ.inj numbers), rests⟩

/-! ## Values -/

variable {separators : Separators}

/-- What follows an item closes it. -/
theorem closes_items (lawful : separators.Lawful) (items : List Json) (rest : Text) :
    Closes (renderItems separators false items ++ ']' :: rest) := by
  obtain ⟨blanks, separator, _⟩ := lawful.item
  cases items with
  | nil => exact closes_cons (by decide) _
  | cons item items =>
      simp only [renderItems, separator, Bool.false_eq_true, if_false, List.cons_append]
      exact closes_cons (by decide) _

theorem closes_members (lawful : separators.Lawful) (members : List (Text × Json)) (rest : Text) :
    Closes (renderMembers separators false members ++ '}' :: rest) := by
  obtain ⟨blanks, separator, _⟩ := lawful.item
  cases members with
  | nil => exact closes_cons (by decide) _
  | cons member members =>
      simp only [renderMembers, separator, Bool.false_eq_true, if_false, List.cons_append]
      exact closes_cons (by decide) _

/-- Values that are written alike at the beginning are of one kind. -/
theorem mark_eq_of_append {left right : Json} (leftExact : Exact left) (rightExact : Exact right)
    {rest other : Text} (same : render separators left ++ rest = render separators right ++ other) :
    mark left = mark right := by
  obtain ⟨c, later, written, kind⟩ := render_begins separators leftExact
  obtain ⟨d, others, otherWritten, otherKind⟩ := render_begins separators rightExact
  rw [written, otherWritten] at same
  rw [← kind, ← otherKind, (List.cons.inj same).1]

/-- Where an item or a separator stands, the array has not ended. -/
theorem renderItems_ne_close (lawful : separators.Lawful) {item : Json} (exact : Exact item)
    (items : List Json) (isFirst : Bool) (rest other : Text) :
    renderItems separators isFirst (item :: items) ++ rest ≠ ']' :: other := by
  obtain ⟨blanks, separator, _⟩ := lawful.item
  obtain ⟨c, later, written, kind⟩ := render_begins separators exact
  intro same
  cases isFirst with
  | false => simp [renderItems, separator] at same
  | true =>
      have begins : c = ']' := by
        simp only [renderItems, written, if_true, List.nil_append, List.cons_append] at same
        exact (List.cons.inj same).1
      rw [begins] at kind
      exact mark_ne item kind.symm

theorem renderMembers_ne_close (lawful : separators.Lawful) (member : Text × Json)
    (members : List (Text × Json)) (isFirst : Bool) (rest other : Text) :
    renderMembers separators isFirst (member :: members) ++ rest ≠ '}' :: other := by
  obtain ⟨blanks, separator, _⟩ := lawful.item
  cases isFirst <;> simp [renderMembers, separator, quoted]

mutual

/-- Two texts that begin with values and are the same begin with the same value. -/
theorem render_append_inj (lawful : separators.Lawful) (left : Json) (leftExact : Exact left)
    (right : Json) (rightExact : Exact right) {rest other : Text} (closes : Closes rest)
    (otherCloses : Closes other)
    (same : render separators left ++ rest = render separators right ++ other) :
    left = right ∧ rest = other := by
  have kinds := mark_eq_of_append leftExact rightExact same
  rcases left with _ | (_ | _) | n | x | text | items | members <;>
    rcases right with _ | (_ | _) | m | y | otherText | otherItems | otherMembers
  all_goals cases kinds
  · exact ⟨rfl, List.append_cancel_left same⟩
  · exact ⟨rfl, List.append_cancel_left same⟩
  · exact ⟨rfl, List.append_cancel_left same⟩
  · obtain ⟨rfl, rests⟩ := ofInt_append_inj closes otherCloses same
    exact ⟨rfl, rests⟩
  · exact leftExact.elim
  · obtain ⟨rfl, rests⟩ := quoted_append_inj same
    exact ⟨rfl, rests⟩
  · obtain ⟨rfl, rests⟩ := renderItems_append_inj lawful items leftExact otherItems rightExact true
      (by simpa [render] using same)
    exact ⟨rfl, rests⟩
  · obtain ⟨rfl, rests⟩ := renderMembers_append_inj lawful members leftExact otherMembers rightExact
      true (by simpa [render] using same)
    exact ⟨rfl, rests⟩

theorem renderItems_append_inj (lawful : separators.Lawful) (left : List Json)
    (leftExact : ExactItems left) (right : List Json) (rightExact : ExactItems right)
    (isFirst : Bool) {rest other : Text}
    (same : renderItems separators isFirst left ++ ']' :: rest =
      renderItems separators isFirst right ++ ']' :: other) : left = right ∧ rest = other := by
  match left, right with
  | [], [] => exact ⟨rfl, (List.cons.inj same).2⟩
  | [], next :: others =>
    exact absurd same.symm (renderItems_ne_close lawful rightExact.1 others isFirst _ rest)
  | item :: items, [] =>
    exact absurd same (renderItems_ne_close lawful leftExact.1 items isFirst _ other)
  | item :: items, next :: others =>
    have inside : render separators item ++ (renderItems separators false items ++ ']' :: rest) =
        render separators next ++ (renderItems separators false others ++ ']' :: other) := by
      simpa [renderItems] using same
    obtain ⟨rfl, later⟩ := render_append_inj lawful item leftExact.1 next rightExact.1
      (closes_items lawful items rest) (closes_items lawful others other) inside
    obtain ⟨rfl, rests⟩ :=
      renderItems_append_inj lawful items leftExact.2 others rightExact.2 false later
    exact ⟨rfl, rests⟩

theorem renderMembers_append_inj (lawful : separators.Lawful) (left : List (Text × Json))
    (leftExact : ExactMembers left) (right : List (Text × Json)) (rightExact : ExactMembers right)
    (isFirst : Bool) {rest other : Text}
    (same : renderMembers separators isFirst left ++ '}' :: rest =
      renderMembers separators isFirst right ++ '}' :: other) : left = right ∧ rest = other := by
  match left, right with
  | [], [] => exact ⟨rfl, (List.cons.inj same).2⟩
  | [], next :: others =>
    exact absurd same.symm (renderMembers_ne_close lawful next others isFirst _ rest)
  | member :: members, [] =>
    exact absurd same (renderMembers_ne_close lawful member members isFirst _ other)
  | (name, value) :: members, (next, found) :: others =>
    have inside : quoted name ++ (separators.colon ++ (render separators value ++
          (renderMembers separators false members ++ '}' :: rest))) =
        quoted next ++ (separators.colon ++ (render separators found ++
          (renderMembers separators false others ++ '}' :: other))) := by
      simpa [renderMembers] using same
    obtain ⟨rfl, values⟩ := quoted_append_inj inside
    obtain ⟨rfl, later⟩ := render_append_inj lawful value leftExact.1 found rightExact.1
      (closes_members lawful members rest) (closes_members lawful others other)
      (List.append_cancel_left values)
    obtain ⟨rfl, rests⟩ :=
      renderMembers_append_inj lawful members leftExact.2 others rightExact.2 false later
    exact ⟨rfl, rests⟩

end

/-- Two values that are written alike are the same. -/
theorem render_injective (lawful : separators.Lawful) {left right : Json} (leftExact : Exact left)
    (rightExact : Exact right) (same : render separators left = render separators right) :
    left = right := by
  have closes : Closes [] := fun c begins => by cases begins
  exact (render_append_inj lawful left leftExact right rightExact closes closes
    (by rw [same])).1

mutual

/-- Sorting names keeps a value exact. -/
theorem exact_sortKeys : (value : Json) → Exact value → Exact (sortKeys value)
  | .null, _ => trivial
  | .bool _, _ => trivial
  | .int _, _ => trivial
  | .float _, exact => exact.elim
  | .str _, _ => trivial
  | .arr items, exact => exact_sortKeysItems items exact
  | .obj members, exact => by
      have later := exact_sortKeysMembers members exact
      refine exactMembers_iff.mpr fun member sorted => ?_
      exact exactMembers_iff.mp later member ((inOrder_perm _).mem_iff.mp sorted)

theorem exact_sortKeysItems : (items : List Json) → ExactItems items →
    ExactItems (sortKeysItems items)
  | [], _ => trivial
  | item :: rest, exact => ⟨exact_sortKeys item exact.1, exact_sortKeysItems rest exact.2⟩

theorem exact_sortKeysMembers : (members : List (Text × Json)) → ExactMembers members →
    ExactMembers (sortKeysMembers members)
  | [], _ => trivial
  | (_, value) :: rest, exact => ⟨exact_sortKeys value exact.1, exact_sortKeysMembers rest exact.2⟩

end

end Json
end Codemap
