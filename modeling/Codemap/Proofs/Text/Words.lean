import Codemap.Text.Basic
import Mathlib.Data.List.Chain
import Mathlib.Data.List.DropRight
import Mathlib.Data.List.Induction

namespace Codemap
namespace Text

/-!
# Words and the blanks around them

The words of a text do not depend on the blanks between and around them, and neither
does what a text ends in once it is trimmed.
-/

variable {text other blanks : Text}

/-! ## Blanks at the beginning -/

theorem trimStart_append (blank : blanks.all isBlank = true) :
    trimStart (blanks ++ text) = trimStart text :=
  List.dropWhile_append_of_pos (List.all_eq_true.mp blank)

theorem trim_append (blank : blanks.all isBlank = true) : trim (blanks ++ text) = trim text := by
  rw [trim, trimStart_append blank, trim]

theorem isBlankText_append (blank : blanks.all isBlank = true) :
    isBlankText (blanks ++ text) = isBlankText text := by
  rw [isBlankText, List.all_append, blank, Bool.true_and, isBlankText]

theorem trimStart_append_cons {c : Char} (visible : isBlank c = false) (text more : Text) :
    trimStart (text ++ c :: more) = trimStart text ++ c :: more := by
  have stays : (c :: more).dropWhile isBlank = c :: more :=
    List.dropWhile_cons_of_neg (by simp [visible])
  rw [trimStart, List.dropWhile_append, stays]
  split
  · next empty => rw [trimStart, List.isEmpty_iff.mp empty, List.nil_append]
  · rfl

/-! ## Words -/

theorem wordsFrom_cons_blank {c : Char} (blank : isBlank c = true) (current rest : Text) :
    wordsFrom current (c :: rest) = wordsFrom current [] ++ words rest := by
  simp only [wordsFrom, blank, if_true, words]
  split <;> rfl

theorem wordsFrom_cons_visible {c : Char} (visible : isBlank c = false) (current rest : Text) :
    wordsFrom current (c :: rest) = wordsFrom (c :: current) rest := by
  simp only [wordsFrom, visible, Bool.false_eq_true, if_false]

/-- A blank ends a word. -/
theorem wordsFrom_append {c : Char} (blank : isBlank c = true) (current left right : Text) :
    wordsFrom current (left ++ c :: right) = wordsFrom current left ++ words right := by
  induction left generalizing current with
  | nil => exact wordsFrom_cons_blank blank current right
  | cons first rest inductionHypothesis =>
      rw [List.cons_append]
      cases kind : isBlank first with
      | true =>
          rw [wordsFrom_cons_blank kind, wordsFrom_cons_blank kind, words, inductionHypothesis [],
            List.append_assoc]
          rfl
      | false =>
          rw [wordsFrom_cons_visible kind, wordsFrom_cons_visible kind, inductionHypothesis]

theorem words_append {c : Char} (blank : isBlank c = true) (left right : Text) :
    words (left ++ c :: right) = words left ++ words right :=
  wordsFrom_append blank [] left right

/-- Blanks before a text belong to no word. -/
theorem words_append_of_blank (blank : blanks.all isBlank = true) :
    words (blanks ++ text) = words text := by
  induction blanks with
  | nil => rfl
  | cons c rest inductionHypothesis =>
      rw [List.all_cons, Bool.and_eq_true] at blank
      rw [List.cons_append, ← List.nil_append (c :: (rest ++ text)), words_append blank.1,
        inductionHypothesis blank.2]
      rfl

/-- The words of several texts with a space between neighbours are those of each. -/
theorem words_intercalate (texts : List Text) :
    words (List.intercalate [' '] texts) = texts.flatMap words := by
  induction texts with
  | nil => rfl
  | cons first rest inductionHypothesis =>
      cases rest with
      | nil => simp
      | cons second rest =>
          rw [List.intercalate_cons_cons, List.append_assoc, List.singleton_append,
            words_append rfl, inductionHypothesis]
          rfl

theorem wordsFrom_of_visible (visible : ∀ c ∈ text, isBlank c = false) (current : Text) :
    wordsFrom current text = wordsFrom (text.reverse ++ current) [] := by
  induction text generalizing current with
  | nil => rfl
  | cons c rest inductionHypothesis =>
      obtain ⟨here, later⟩ := List.forall_mem_cons.mp visible
      rw [wordsFrom_cons_visible here, inductionHypothesis later, List.reverse_cons,
        List.append_assoc, List.singleton_append]

/-- A text without blanks is a word. -/
theorem words_of_visible (visible : ∀ c ∈ text, isBlank c = false) (nonempty : text ≠ []) :
    words text = [text] := by
  rw [words, wordsFrom_of_visible visible, List.append_nil, wordsFrom, List.reverse_reverse,
    if_neg]
  simpa using nonempty

/-! ## Texts that begin alike -/

/-- A word that has begun goes on. -/
theorem wordsFrom_of_ne_nil {current : Text} (begun : current ≠ []) (text : Text) :
    ∃ further later, wordsFrom current text = (current.reverse ++ further) :: later := by
  induction text generalizing current with
  | nil => exact ⟨[], [], by simp [wordsFrom, begun]⟩
  | cons c rest inductionHypothesis =>
      cases kind : isBlank c with
      | true => exact ⟨[], words rest, by simp [wordsFrom, kind, begun, words]⟩
      | false =>
          obtain ⟨further, later, same⟩ := @inductionHypothesis (c :: current) (by simp)
          exact ⟨c :: further, later, by simp [wordsFrom_cons_visible kind, same]⟩

/-- The last word of a text that does not end in a blank may go on behind the text. -/
theorem wordsFrom_append_visible {c : Char} (visible : isBlank c = false) (current text more : Text) :
    ∃ early word further later, wordsFrom current (text ++ [c]) = early ++ [word] ∧
      wordsFrom current (text ++ c :: more) = early ++ (word ++ further) :: later := by
  induction text generalizing current with
  | nil =>
      obtain ⟨further, later, same⟩ := wordsFrom_of_ne_nil (List.cons_ne_nil c current) more
      refine ⟨[], (c :: current).reverse, further, later, ?_, ?_⟩
      · simp [wordsFrom_cons_visible visible, wordsFrom]
      · rw [List.nil_append, wordsFrom_cons_visible visible, same, List.nil_append]
  | cons d rest inductionHypothesis =>
      rw [List.cons_append, List.cons_append]
      cases kind : isBlank d with
      | true =>
          obtain ⟨early, word, further, later, one, two⟩ := inductionHypothesis []
          refine ⟨wordsFrom current [] ++ early, word, further, later, ?_, ?_⟩
          · rw [wordsFrom_cons_blank kind, words, one, List.append_assoc]
          · rw [wordsFrom_cons_blank kind, words, two, List.append_assoc]
      | false =>
          rw [wordsFrom_cons_visible kind, wordsFrom_cons_visible kind]
          exact inductionHypothesis (d :: current)

theorem intercalate_prefix (separator word further : Text) (early later : List Text) :
    List.intercalate separator (early ++ [word]) <+:
      List.intercalate separator (early ++ (word ++ further) :: later) := by
  induction early with
  | nil =>
      rw [List.nil_append, List.nil_append, List.intercalate_singleton]
      cases later with
      | nil =>
          rw [List.intercalate_singleton]
          exact List.prefix_append word further
      | cons next later =>
          rw [List.intercalate_cons_cons, List.append_assoc, List.append_assoc]
          exact List.prefix_append word _
  | cons first rest inductionHypothesis =>
      rw [List.cons_append, List.cons_append, List.intercalate_cons_of_ne_nil (by simp),
        List.intercalate_cons_of_ne_nil (by simp)]
      exact List.prefix_append_right_inj _ |>.mpr inductionHypothesis

/-- What stands behind a text that does not end in a blank stands behind its words. -/
theorem normalizeBlanks_prefix {c : Char} (visible : isBlank c = false) (text more : Text) :
    normalizeBlanks (text ++ [c]) <+: normalizeBlanks (text ++ c :: more) := by
  obtain ⟨early, word, further, later, one, two⟩ := wordsFrom_append_visible visible [] text more
  rw [normalizeBlanks, normalizeBlanks, words, words, one, two]
  exact intercalate_prefix [' '] word further early later

theorem normalizeBlanks_append_of_blank (blank : blanks.all isBlank = true) :
    normalizeBlanks (blanks ++ text) = normalizeBlanks text := by
  rw [normalizeBlanks, words_append_of_blank blank, normalizeBlanks]

/-- The words of a text begin with its first character that is not blank. -/
theorem head?_normalizeBlanks (text : Text) :
    (normalizeBlanks text).head? = List.find? (fun c => !isBlank c) text := by
  induction text with
  | nil => rfl
  | cons c rest inductionHypothesis =>
      cases kind : isBlank c with
      | true =>
          have alone : [c].all isBlank = true := by rw [List.all_cons, kind]; rfl
          rw [← List.singleton_append, normalizeBlanks_append_of_blank alone, inductionHypothesis,
            List.singleton_append, List.find?_cons_of_neg (by simp [kind])]
      | false =>
          obtain ⟨further, later, same⟩ := wordsFrom_of_ne_nil (List.cons_ne_nil c []) rest
          rw [List.find?_cons_of_pos (by simp [kind]), normalizeBlanks, words,
            wordsFrom_cons_visible kind, same]
          cases later with
          | nil => simp
          | cons next later => simp [List.intercalate_cons_cons]

/-- A text without a character that begins a longer text begins what stands before the character. -/
theorem prefix_append_of_notMem {word : Text} {c : Char} (absent : c ∉ word) (text more : Text) :
    word <+: text ++ c :: more ↔ word <+: text := by
  refine ⟨fun begins => ?_, fun begins => begins.trans (List.prefix_append _ _)⟩
  rcases List.prefix_or_prefix_of_prefix begins (List.prefix_append _ _) with within | ⟨rest, rfl⟩
  · exact within
  cases rest with
  | nil => simp
  | cons d rest =>
      obtain ⟨rfl, -⟩ := List.cons_prefix_cons.mp ((List.prefix_append_right_inj text).mp begins)
      exact absurd (by simp) absent

/-! ## The characters of words -/

/-- The characters of words are those of the text that are not blank. -/
theorem forall_of_mem_wordsFrom {property : Char → Prop} {current word : Text}
    (begun : ∀ c ∈ current, property c) (visible : ∀ c ∈ text, isBlank c = false → property c)
    (listed : word ∈ wordsFrom current text) : ∀ c ∈ word, property c := by
  induction text generalizing current with
  | nil =>
      rw [wordsFrom] at listed
      split at listed
      · cases listed
      · rw [List.mem_singleton.mp listed]
        exact fun c member => begun c (List.mem_reverse.mp member)
  | cons c rest inductionHypothesis =>
      obtain ⟨first, others⟩ := List.forall_mem_cons.mp visible
      have unbegun : ∀ c ∈ ([] : Text), property c := fun _ member => absurd member List.not_mem_nil
      rw [wordsFrom] at listed
      split at listed
      · split at listed
        · exact inductionHypothesis unbegun others listed
        · rcases List.mem_cons.mp listed with rfl | listed
          · exact fun c member => begun c (List.mem_reverse.mp member)
          · exact inductionHypothesis unbegun others listed
      · next shown =>
          exact inductionHypothesis
            (List.forall_mem_cons.mpr ⟨first (Bool.eq_false_iff.mpr shown), begun⟩) others listed

theorem visible_of_mem_wordsFrom {current word : Text} (visible : ∀ c ∈ current, isBlank c = false)
    (listed : word ∈ wordsFrom current text) : ∀ c ∈ word, isBlank c = false :=
  forall_of_mem_wordsFrom visible (fun _ _ shown => shown) listed

/-- No word is empty. -/
theorem ne_nil_of_mem_wordsFrom {current word : Text} (listed : word ∈ wordsFrom current text) :
    word ≠ [] := by
  induction text generalizing current with
  | nil =>
      rw [wordsFrom] at listed
      split at listed
      · cases listed
      · next begun =>
          rw [List.mem_singleton.mp listed]
          simpa using begun
  | cons c rest inductionHypothesis =>
      rw [wordsFrom] at listed
      split at listed
      · split at listed
        · exact inductionHypothesis listed
        · next begun =>
            rcases List.mem_cons.mp listed with rfl | listed
            · simpa using begun
            · exact inductionHypothesis listed
      · exact inductionHypothesis listed

/-- What stands in several texts together stands in one of them or between them. -/
theorem exists_of_mem_intercalate {separator : Text} {texts : List Text} {c : Char}
    (member : c ∈ List.intercalate separator texts) :
    c ∈ separator ∨ ∃ text ∈ texts, c ∈ text := by
  induction texts with
  | nil => cases member
  | cons first rest inductionHypothesis =>
      cases rest with
      | nil =>
          rw [List.intercalate_singleton] at member
          exact Or.inr ⟨first, List.mem_singleton_self first, member⟩
      | cons second others =>
          rw [List.intercalate_cons_cons, List.append_assoc, List.mem_append, List.mem_append] at member
          rcases member with here | between | later
          · exact Or.inr ⟨first, List.mem_cons_self, here⟩
          · exact Or.inl between
          · refine (inductionHypothesis later).imp_right ?_
            rintro ⟨text, listed, inside⟩
            exact ⟨text, List.mem_cons_of_mem first listed, inside⟩

/-! ## Single spaces -/

/-- A text without blanks at its ends, in which every blank is a space and stands alone. -/
structure SingleSpaced (text : Text) : Prop where
  first : ∀ c ∈ text.head?, isBlank c = false
  last : ∀ c ∈ text.getLast?, isBlank c = false
  spaces : ∀ c ∈ text, isBlank c = true → c = ' '
  alone : text.IsChain fun c next => isBlank c = true → isBlank next = false

/-- A word alone is single spaced. -/
theorem SingleSpaced.of_visible (visible : ∀ c ∈ text, isBlank c = false) : text.SingleSpaced where
  first c member := visible c (List.mem_of_mem_head? member)
  last c member := visible c (List.mem_of_getLast? member)
  spaces c member blank := by
    rw [visible c member] at blank
    cases blank
  alone := by
    have apart : text.Pairwise fun c next => isBlank c = true → isBlank next = false :=
      List.pairwise_of_forall_mem_list fun _ _ next member _ => visible next member
    exact apart.isChain

/-- A word, a space and a single spaced text are one. -/
theorem SingleSpaced.cons_word {word : Text} (visible : ∀ c ∈ word, isBlank c = false)
    (nonempty : word ≠ []) (rest : text ≠ []) (spaced : text.SingleSpaced) :
    SingleSpaced (word ++ ' ' :: text) where
  first c member := by
    obtain ⟨d, others, rfl⟩ := List.exists_cons_of_ne_nil nonempty
    obtain rfl := Option.some.inj member
    exact visible d List.mem_cons_self
  last c member := by
    refine spaced.last c ?_
    obtain ⟨others, d, split⟩ := (List.eq_nil_or_concat text).resolve_left rest
    rw [split, List.concat_eq_append] at member ⊢
    rw [← List.cons_append, ← List.append_assoc, List.getLast?_concat] at member
    rwa [List.getLast?_concat]
  spaces c member blank := by
    rcases List.mem_append.mp member with inside | inside
    · rw [visible c inside] at blank
      cases blank
    · exact (List.mem_cons.mp inside).elim id fun later => spaced.spaces c later blank
  alone := by
    have word' := (SingleSpaced.of_visible visible).alone
    refine List.isChain_append.mpr ⟨word', ?_, ?_⟩
    · refine List.isChain_cons.mpr ⟨fun next begins _ => spaced.first next begins, spaced.alone⟩
    · intro c ends next _ blank
      rw [visible c (List.mem_of_getLast? ends)] at blank
      cases blank

theorem singleSpaced_intercalate {words : List Text}
    (proper : ∀ word ∈ words, word ≠ [] ∧ ∀ c ∈ word, isBlank c = false) :
    SingleSpaced (List.intercalate [' '] words) := by
  induction words with
  | nil => exact .of_visible fun _ member => absurd member List.not_mem_nil
  | cons word rest inductionHypothesis =>
      obtain ⟨⟨nonempty, visible⟩, others⟩ := List.forall_mem_cons.mp proper
      cases rest with
      | nil =>
          rw [List.intercalate_singleton]
          exact .of_visible visible
      | cons next rest =>
          have further : List.intercalate [' '] (next :: rest) ≠ [] := by
            obtain ⟨c, more, split⟩ := List.exists_cons_of_ne_nil (others next List.mem_cons_self).1
            rw [split, List.intercalate_cons_cons_left]
            exact List.cons_ne_nil _ _
          rw [List.intercalate_cons_cons, List.append_assoc]
          exact (inductionHypothesis others).cons_word visible nonempty further

/-- The words of a text with one space between neighbours are single spaced. -/
theorem singleSpaced_normalizeBlanks (text : Text) : text.normalizeBlanks.SingleSpaced :=
  singleSpaced_intercalate fun _ listed => ⟨ne_nil_of_mem_wordsFrom listed,
    visible_of_mem_wordsFrom (fun _ member => absurd member List.not_mem_nil) listed⟩

/-! ## The end of a trimmed text -/

/-- A text ends in a run of characters that are not blank, which may be empty. -/
theorem exists_lastRun (text : Text) :
    ∃ before run, text = before ++ run ∧ (∀ c ∈ run, isBlank c = false) ∧
      (before = [] ∨ ∃ earlier c, isBlank c = true ∧ before = earlier ++ [c]) := by
  induction text using List.reverseRecOn with
  | nil => exact ⟨[], [], rfl, by simp, Or.inl rfl⟩
  | append_singleton text c inductionHypothesis =>
      cases kind : isBlank c with
      | true => exact ⟨text ++ [c], [], by simp, by simp, Or.inr ⟨text, c, kind, rfl⟩⟩
      | false =>
          obtain ⟨before, run, rfl, visible, blank⟩ := inductionHypothesis
          refine ⟨before, run ++ [c], by simp, ?_, blank⟩
          rw [List.forall_mem_append]
          exact ⟨visible, by simpa using kind⟩

/-- What holds no blank is at the end of a text if it is at the end of the last run. -/
theorem isSuffixOf_lastRun {ending run : Text} (visible : ∀ c ∈ ending, isBlank c = false)
    {c : Char} (blank : isBlank c = true) (earlier : Text) :
    ending.isSuffixOf (earlier ++ [c] ++ run) = ending.isSuffixOf run := by
  have absent : c ∉ ending := by
    intro member
    rw [visible c member] at blank
    cases blank
  rw [Bool.eq_iff_iff, List.isSuffixOf_iff_suffix, List.isSuffixOf_iff_suffix]
  refine ⟨fun suffix => ?_, fun suffix => suffix.trans (List.suffix_append _ _)⟩
  rw [List.append_assoc, List.singleton_append] at suffix
  rcases List.suffix_or_suffix_of_suffix suffix (List.suffix_append earlier (c :: run)) with
    within | beyond
  · rcases List.suffix_cons_iff.mp within with rfl | within
    · exact absurd List.mem_cons_self absent
    · exact within
  · exact absurd (beyond.mem List.mem_cons_self) absent

theorem trimEnd_prefix (text : Text) : trimEnd text <+: text :=
  List.rdropWhile_prefix isBlank text

/-- A trimmed text begins with the first character that is not blank. -/
theorem head?_trim (text : Text) : (trim text).head? = List.find? (fun c => !isBlank c) text := by
  rw [List.find?_eq_head?_dropWhile_not]
  simp only [Bool.not_not]
  change (trimEnd (trimStart text)).head? = (trimStart text).head?
  cases start : trimStart text with
  | nil => rfl
  | cons c rest =>
      have first := List.head?_dropWhile_not isBlank text
      rw [show text.dropWhile isBlank = c :: rest from start] at first
      have visible : isBlank c = false := first
      obtain ⟨more, whole⟩ := trimEnd_prefix (c :: rest)
      cases ends : trimEnd (c :: rest) with
      | cons d others =>
          rw [ends] at whole
          cases whole
          rfl
      | nil =>
          rw [trimEnd, dropTrailing, List.reverse_eq_nil_iff, List.dropWhile_eq_nil_iff] at ends
          rw [ends c (by simp)] at visible
          cases visible

/-- What a trimmed text ends in, its last word ends in. -/
theorem isSuffixOf_trimEnd {ending : Text} (nonempty : ending ≠ [])
    (visible : ∀ c ∈ ending, isBlank c = false) (text : Text) :
    ending.isSuffixOf (trimEnd text) = (words text).getLast?.any ending.isSuffixOf := by
  induction text using List.reverseRecOn with
  | nil =>
      cases ending with
      | nil => exact absurd rfl nonempty
      | cons c rest => simp [trimEnd, dropTrailing, words, wordsFrom, List.isSuffixOf]
  | append_singleton text c inductionHypothesis =>
      cases kind : isBlank c with
      | true =>
          have trimmed : trimEnd (text ++ [c]) = trimEnd text := by
            rw [trimEnd, dropTrailing, List.reverse_append, List.reverse_singleton,
              List.singleton_append, List.dropWhile_cons_of_pos kind]
            rfl
          have none : words [] = [] := rfl
          rw [trimmed, inductionHypothesis, words_append kind text [], none, List.append_nil]
      | false =>
          have trimmed : trimEnd (text ++ [c]) = text ++ [c] := by
            rw [trimEnd, dropTrailing, List.reverse_append, List.reverse_singleton,
              List.singleton_append, List.dropWhile_cons_of_neg (by simp [kind])]
            simp
          obtain ⟨before, run, rfl, ends, blank⟩ := exists_lastRun text
          have run' : words (run ++ [c]) = [run ++ [c]] := by
            refine words_of_visible ?_ (by simp)
            rw [List.forall_mem_append]
            exact ⟨ends, by simpa using kind⟩
          rw [trimmed, List.append_assoc]
          rcases blank with rfl | ⟨earlier, d, blank, rfl⟩
          · rw [List.nil_append, run']
            rfl
          · rw [isSuffixOf_lastRun visible blank, List.append_assoc, List.singleton_append,
              words_append blank, run', List.getLast?_concat]
            rfl

/-- Texts of the same words end alike once they are trimmed. -/
theorem endsWithAny_trimEnd {endings : List Text} (same : words text = words other)
    (visible : (endings.all fun ending => !ending.isEmpty && ending.all fun c => !isBlank c) = true) :
    (trimEnd text).endsWithAny endings = (trimEnd other).endsWithAny endings := by
  rw [endsWithAny, endsWithAny, Bool.eq_iff_iff, List.any_eq_true, List.any_eq_true]
  refine exists_congr fun ending => and_congr_right fun member => ?_
  have plain := List.all_eq_true.mp visible ending member
  rw [Bool.and_eq_true, Bool.not_eq_true', List.isEmpty_eq_false_iff, List.all_eq_true] at plain
  obtain ⟨nonempty, plain⟩ := plain
  have visible : ∀ c ∈ ending, isBlank c = false := by
    intro c member
    simpa using plain c member
  rw [isSuffixOf_trimEnd nonempty visible, isSuffixOf_trimEnd nonempty visible, same]

end Text
end Codemap
