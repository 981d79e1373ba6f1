namespace Codemap

/-!
# Results and faults

A computation ends with a result or with a fault, and the computations that follow one
another end with the first fault.  Results that are obtained twice are compared up to what
counts as the same, and the second time a name may be too long where nothing was before.
-/

instance decidableEqExcept {ε α : Type} [DecidableEq ε] [DecidableEq α] :
    DecidableEq (Except ε α)
  | .error why, .error other => decidable_of_iff (why = other) ⟨congrArg _, Except.error.inj⟩
  | .ok value, .ok other => decidable_of_iff (value = other) ⟨congrArg _, Except.ok.inj⟩
  | .error _, .ok _ => isFalse (by simp)
  | .ok _, .error _ => isFalse (by simp)

section Steps

variable {ε α β : Type}

/-- Two steps fail if the first does, or the second after it. -/
theorem error_of_bind {first : Except ε α} {next : α → Except ε β} {why : ε}
    (failed : (first >>= next) = .error why) :
    first = .error why ∨ ∃ value, first = .ok value ∧ next value = .error why := by
  cases first with
  | error other =>
      have same : (Except.error other : Except ε β) = .error why := failed
      exact Or.inl (by rw [Except.error.inj same])
  | ok value => exact Or.inr ⟨value, rfl, failed⟩

/-- Two steps fail exactly if the first does, or the second after it. -/
theorem bind_eq_error_iff {first : Except ε α} {next : α → Except ε β} {why : ε} :
    (first >>= next) = .error why ↔
      first = .error why ∨ ∃ value, first = .ok value ∧ next value = .error why := by
  refine ⟨error_of_bind, ?_⟩
  rintro (failed | ⟨value, ended, failed⟩)
  · rw [failed]
    rfl
  · rw [ended]
    exact failed

theorem map_eq_error_iff {first : Except ε α} {what : α → β} {why : ε} :
    first.map what = .error why ↔ first = .error why := by
  cases first <;> simp [Except.map]

theorem map_eq_ok_iff {first : Except ε α} {what : α → β} {result : β} :
    first.map what = .ok result ↔ ∃ value, first = .ok value ∧ what value = result := by
  cases first <;> simp [Except.map]

/-- Lists that look alike behind their first items look alike with them. -/
theorem map_cons_congr {view other : α → β} {first second : α} {rest others : Except ε (List α)}
    (head : view first = other second)
    (tail : rest.map (List.map view) = others.map (List.map other)) :
    (rest.map (first :: ·)).map (List.map view) = (others.map (second :: ·)).map (List.map other) := by
  cases rest with
  | error why =>
      cases others with
      | error otherWhy => exact tail
      | ok values => cases tail
  | ok values =>
      cases others with
      | error otherWhy => cases tail
      | ok otherValues => simp only [Except.map, List.map_cons, head, Except.ok.inj tail]

theorem ok_of_bind {first : Except ε α} {next : α → Except ε β} {result : β}
    (ended : (first >>= next) = .ok result) : ∃ value, first = .ok value ∧ next value = .ok result := by
  cases first with
  | error why => cases ended
  | ok value => exact ⟨value, rfl, ended⟩

/-- A step that fails for a list fails for one of its values. -/
theorem error_of_mapM {step : α → Except ε β} {values : List α} {why : ε}
    (failed : values.mapM step = .error why) : ∃ value ∈ values, step value = .error why := by
  induction values with
  | nil => cases failed
  | cons value rest inductionHypothesis =>
      rw [List.mapM_cons] at failed
      rcases error_of_bind failed with here | ⟨_, _, later⟩
      · exact ⟨value, List.mem_cons_self, here⟩
      rcases error_of_bind later with there | ⟨_, _, impossible⟩
      · obtain ⟨other, member, same⟩ := inductionHypothesis there
        exact ⟨other, List.mem_cons_of_mem _ member, same⟩
      · cases impossible

/-- A step that succeeds for a list yields what it yields for its values. -/
theorem ok_of_mapM {step : α → Except ε β} {values : List α} {results : List β}
    (ended : values.mapM step = .ok results) :
    ∀ result ∈ results, ∃ value ∈ values, step value = .ok result := by
  induction values generalizing results with
  | nil =>
      cases ended
      exact fun result member => absurd member List.not_mem_nil
  | cons value rest inductionHypothesis =>
      rw [List.mapM_cons] at ended
      obtain ⟨here, first, ended⟩ := ok_of_bind ended
      obtain ⟨others, later, ended⟩ := ok_of_bind ended
      cases ended
      intro result member
      rcases List.mem_cons.mp member with rfl | member
      · exact ⟨value, List.mem_cons_self, first⟩
      · obtain ⟨other, listed, same⟩ := inductionHypothesis later result member
        exact ⟨other, List.mem_cons_of_mem value listed, same⟩

/-- A step succeeds for a list exactly if it does for all its values. -/
theorem exists_mapM_iff {step : α → Except ε β} {values : List α} :
    (∃ results, values.mapM step = .ok results) ↔
      ∀ value ∈ values, ∃ result, step value = .ok result := by
  induction values with
  | nil => exact ⟨fun _ _ member => absurd member List.not_mem_nil, fun _ => ⟨[], rfl⟩⟩
  | cons value rest inductionHypothesis =>
      rw [List.mapM_cons, List.forall_mem_cons, ← inductionHypothesis]
      constructor
      · rintro ⟨results, ended⟩
        obtain ⟨here, first, ended⟩ := ok_of_bind ended
        obtain ⟨others, later, -⟩ := ok_of_bind ended
        exact ⟨⟨here, first⟩, others, later⟩
      · rintro ⟨⟨here, first⟩, others, later⟩
        exact ⟨here :: others, by rw [first, later]; rfl⟩

/-- A step fails for a list exactly if it succeeds for some values and fails for the next. -/
theorem mapM_eq_error_iff {step : α → Except ε β} {values : List α} {why : ε} :
    values.mapM step = .error why ↔ ∃ before value after, values = before ++ value :: after ∧
      (∀ other ∈ before, ∃ result, step other = .ok result) ∧ step value = .error why := by
  induction values with
  | nil =>
      constructor
      · intro impossible
        cases impossible
      · rintro ⟨before, value, after, impossible, -⟩
        cases before <;> cases impossible
  | cons first rest inductionHypothesis =>
      rw [List.mapM_cons, bind_eq_error_iff]
      constructor
      · rintro (here | ⟨result, succeeded, later⟩)
        · exact ⟨[], first, rest, rfl, fun _ member => absurd member List.not_mem_nil, here⟩
        rcases error_of_bind later with there | ⟨_, _, impossible⟩
        · obtain ⟨before, value, after, rfl, early, failed⟩ := inductionHypothesis.mp there
          exact ⟨first :: before, value, after, rfl,
            List.forall_mem_cons.mpr ⟨⟨result, succeeded⟩, early⟩, failed⟩
        · cases impossible
      · rintro ⟨before, value, after, listed, early, failed⟩
        cases before with
        | nil =>
            cases listed
            exact Or.inl failed
        | cons other before =>
            cases listed
            obtain ⟨result, succeeded⟩ := early first List.mem_cons_self
            have there := inductionHypothesis.mpr ⟨before, value, after, rfl,
              fun another member => early another (List.mem_cons_of_mem first member), failed⟩
            exact Or.inr ⟨result, succeeded, bind_eq_error_iff.mpr (Or.inl there)⟩

/-! A computation ends like a list of checks if each of its steps ends like the next check. -/

variable {γ : Type} {check : γ → Except ε Unit} {which : γ} {others : List γ}

theorem map_unit (step : Except ε Unit) : step.map (fun _ => ()) = step := by
  cases step <;> rfl

theorem map_bind_eq_map_mapM {first : Except ε α} {next : α → Except ε β}
    (head : first.map (fun _ => ()) = check which)
    (tail : ∀ value, first = .ok value →
      (next value).map (fun _ => ()) = (others.mapM check).map fun _ => ()) :
    (first >>= next).map (fun _ => ()) = ((which :: others).mapM check).map fun _ => () := by
  rw [List.mapM_cons, ← head]
  cases first with
  | error why => rfl
  | ok value =>
      refine (tail value rfl).trans ?_
      cases others.mapM check <;> rfl

theorem map_ite_eq_map_mapM {condition : Prop} [Decidable condition] {why : ε}
    {failing next : Except ε β} (fails : failing = .error why)
    (head : check which = if condition then .error why else .ok ())
    (tail : next.map (fun _ => ()) = (others.mapM check).map fun _ => ()) :
    (if condition then failing else next).map (fun _ => ()) =
      ((which :: others).mapM check).map fun _ => () := by
  rw [List.mapM_cons, head, fails]
  split
  · rfl
  · refine tail.trans ?_
    cases others.mapM check <;> rfl

end Steps

/-! ## What a step yields, and with what it fails -/

/-- A step yields what has a property, or it fails with a fault that has one. -/
structure Settles {ε α : Type} (fails : ε → Prop) (step : Except ε α) (yields : α → Prop) : Prop where
  ok : ∀ value, step = .ok value → yields value
  error : ∀ why, step = .error why → fails why

namespace Settles

variable {ε α β : Type} {fails : ε → Prop} {yields : α → Prop}

theorem of_ok {value : α} (holds : yields value) : Settles fails (.ok value) yields where
  ok _ same := Except.ok.inj same ▸ holds
  error _ impossible := nomatch impossible

theorem of_error {why : ε} (fault : fails why) :
    Settles fails (.error why : Except ε α) yields where
  ok _ impossible := nomatch impossible
  error _ same := Except.error.inj same ▸ fault

theorem bind {step : Except ε α} {next : α → Except ε β} {ends : β → Prop}
    (first : Settles fails step yields)
    (second : ∀ value, yields value → Settles fails (next value) ends) :
    Settles fails (step >>= next) ends := by
  cases step with
  | error why => exact of_error (first.error why rfl)
  | ok value => exact second value (first.ok value rfl)

theorem ite {condition : Prop} [Decidable condition] {step other : Except ε α}
    (first : Settles fails step yields) (second : Settles fails other yields) :
    Settles fails (if condition then step else other) yields := by
  split
  · exact first
  · exact second

theorem imp {step : Except ε α} {weaker : α → Prop} (first : Settles fails step yields)
    (implies : ∀ value, yields value → weaker value) : Settles fails step weaker where
  ok value same := implies value (first.ok value same)
  error := first.error

/-- The faults may be said to be of a wider kind. -/
theorem mono {step : Except ε α} {wider : ε → Prop} (first : Settles fails step yields)
    (implies : ∀ why, fails why → wider why) : Settles wider step yields where
  ok := first.ok
  error why same := implies why (first.error why same)

theorem map {step : Except ε α} {what : α → β} {ends : β → Prop}
    (first : Settles fails step yields) (implies : ∀ value, yields value → ends (what value)) :
    Settles fails (step.map what) ends := by
  cases step with
  | error why => exact of_error (first.error why rfl)
  | ok value => exact of_ok (implies value (first.ok value rfl))

end Settles

/-! ## Results that are obtained again -/

/-- A result that is obtained later repeats an earlier one, up to what counts as the same; or
it is a fault because of a name that is too long. -/
inductive Repeats (mayMake : Prop) {ε α β : Type} (isLong : ε → Prop) (same : α → β → Prop) :
    Except ε α → Except ε β → Prop
  | ok {found : α} {other : β} (repeated : same found other) :
      Repeats mayMake isLong same (.ok found) (.ok other)
  | error (why : ε) : Repeats mayMake isLong same (.error why) (.error why)
  | tooLong (allowed : mayMake) {early : Except ε α} {why : ε} (long : isLong why) :
      Repeats mayMake isLong same early (.error why)

namespace Repeats

variable {mayMake : Prop} {ε α β γ δ : Type} {isLong : ε → Prop} {same : α → β → Prop}
  {other : γ → δ → Prop}

theorem of_eq {early late : Except ε α} (equal : late = early) :
    Repeats mayMake isLong Eq early late := by
  rw [equal]
  cases early with
  | ok found => exact .ok rfl
  | error why => exact .error why

/-- Without a name that is too long the results are equal. -/
theorem eq {early late : Except ε α} (repeats : Repeats mayMake isLong Eq early late)
    (short : mayMake → ∀ why, late = .error why → ¬ isLong why) : late = early := by
  cases repeats with
  | ok repeated => rw [repeated]
  | error why => rfl
  | tooLong allowed long => exact absurd long (short allowed _ rfl)

/-- If there is no name that is too long later, there was none before. -/
theorem short {early late : Except ε α} (repeats : Repeats mayMake isLong Eq early late)
    (short : ∀ why, late = .error why → ¬ isLong why) : ∀ why, early = .error why → ¬ isLong why := by
  cases repeats with
  | ok repeated => exact fun why failed => nomatch failed
  | error why => exact short
  | tooLong allowed long => exact absurd long (short _ rfl)

/-- Steps that repeat, one after the other, repeat together. -/
theorem bind {early : Except ε α} {late : Except ε β} (first : Repeats mayMake isLong same early late)
    {next : α → Except ε γ} {following : β → Except ε δ}
    (second : ∀ found again, early = .ok found → late = .ok again → same found again →
      Repeats mayMake isLong other (next found) (following again)) :
    Repeats mayMake isLong other (early >>= next) (late >>= following) := by
  cases first with
  | ok repeated => exact second _ _ rfl rfl repeated
  | error why => exact .error why
  | tooLong allowed long => exact .tooLong allowed long

theorem imp {early : Except ε α} {late : Except ε β} {weaker : α → β → Prop}
    (repeats : Repeats mayMake isLong same early late)
    (weaken : ∀ found again, same found again → weaker found again) :
    Repeats mayMake isLong weaker early late := by
  cases repeats with
  | ok repeated => exact .ok (weaken _ _ repeated)
  | error why => exact .error why
  | tooLong allowed long => exact .tooLong allowed long

theorem map {early : Except ε α} {late : Except ε β} (first : Repeats mayMake isLong same early late)
    {what : α → γ} {that : β → δ} (second : ∀ found again, early = .ok found → late = .ok again →
      same found again → other (what found) (that again)) :
    Repeats mayMake isLong other (early.map what) (late.map that) := by
  cases first with
  | ok repeated => exact .ok (second _ _ rfl rfl repeated)
  | error why => exact .error why
  | tooLong allowed long => exact .tooLong allowed long

/-- If a step repeats for every value, it repeats for all of them together. -/
theorem mapM {step again : α → Except ε β} {values : List α}
    (each : ∀ value ∈ values, Repeats mayMake isLong Eq (step value) (again value)) :
    Repeats mayMake isLong Eq (values.mapM step) (values.mapM again) := by
  induction values with
  | nil => exact .ok rfl
  | cons value rest inductionHypothesis =>
      rw [List.mapM_cons, List.mapM_cons]
      refine (each value List.mem_cons_self).bind ?_
      rintro found _ _ _ rfl
      refine (inductionHypothesis fun later member =>
        each later (List.mem_cons_of_mem value member)).bind ?_
      rintro others _ _ _ rfl
      exact .ok rfl

end Repeats
end Codemap
