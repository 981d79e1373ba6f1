import Codemap.Proofs.Source.Beginning
import Codemap.Proofs.Source.Documentation
import Codemap.Proofs.Text.Newlines

namespace Codemap

/-!
# The texts of an outline

What an outline says of a declaration is taken from the lines of the source and put together
again.  A signature is one line, because its blanks have become spaces, and it begins as its
declaration does, so no lead lets it begin with a quote.  Documentation is put together from what
lines contribute, and what a line contributes stands in that line.
-/

namespace Text

/-- No line ends in the text. -/
def IsLine (text : Text) : Prop :=
  ∀ c ∈ text, isLineBreak c = false

theorem IsLine.of_subset {text other : Text} (line : IsLine other) (within : text ⊆ other) :
    IsLine text :=
  fun _ member => line _ (within member)

theorem isLine_of_mem_linesFrom {current text line : Text} (begun : IsLine current)
    (listed : line ∈ linesFrom current text) : IsLine line := by
  have nothing : IsLine [] := fun _ member => absurd member List.not_mem_nil
  have ended {current : Text} (begun : IsLine current) : IsLine current.reverse :=
    begun.of_subset fun _ member => List.mem_reverse.mp member
  fun_induction linesFrom current text with
  | case1 current empty => cases listed
  | case2 current empty => exact List.mem_singleton.mp listed ▸ ended begun
  | case3 current rest inductionHypothesis =>
      rcases List.mem_cons.mp listed with rfl | listed
      · exact ended begun
      · exact inductionHypothesis nothing listed
  | case4 current c rest other breaks inductionHypothesis =>
      rcases List.mem_cons.mp listed with rfl | listed
      · exact ended begun
      · exact inductionHypothesis nothing listed
  | case5 current c rest other goesOn inductionHypothesis =>
      exact inductionHypothesis
        (List.forall_mem_cons.mpr ⟨Bool.eq_false_iff.mpr goesOn, begun⟩) listed

/-- No line of a text holds a line break. -/
theorem isLine_of_mem_lines {text line : Text} (listed : line ∈ text.lines) : IsLine line :=
  isLine_of_mem_linesFrom (fun _ member => absurd member List.not_mem_nil) listed

/-- Words with a space between neighbours are one line. -/
theorem isLine_normalizeBlanks (text : Text) : IsLine text.normalizeBlanks := by
  intro c member
  refine Bool.eq_false_iff.mpr fun breaks => ?_
  obtain rfl := (singleSpaced_normalizeBlanks text).spaces c member (isBlank_of_isLineBreak breaks)
  exact absurd breaks (by decide)

theorem trim_subset (text : Text) : text.trim ⊆ text := by
  have shorter := trimEnd_prefix text.trimStart
  exact fun _ member => (List.dropWhile_suffix isBlank).subset (shorter.subset member)

theorem dropEnding_subset (ending text : Text) : dropEnding ending text ⊆ text := by
  rw [dropEnding]
  split
  · exact List.take_subset _ _
  · exact List.Subset.refl _

end Text

/-! ## Signatures -/

namespace Signature

variable {lines words : List Text} {start limit : Nat} {window : Window} {signature : Signature}
  {line : Text} {c : Char}

theorem text_eq_normalizeBlanks_of_find? (complete : find? lines start window limit words = some signature) :
    ∃ text, signature.text = Text.normalizeBlanks text := by
  rw [find?] at complete
  split at complete
  · cases complete
  · obtain rfl := Option.some.inj complete
    obtain ⟨others, same⟩ := @text_gather words _ _ _ _ _ _ _ _
    exact ⟨_, same⟩

/-- A comment does not begin at a character that opens none. -/
theorem lt_of_commentStart {blanks more : Text} {offset column : Nat}
    (split : line.drop offset = blanks ++ c :: more) (blank : blanks.all isBlank = true)
    (noSlash : c ≠ '/') (noHash : c ≠ '#')
    (begins : (Delimiters.feed {} line offset { atTerminator := true }).commentStart = some column) :
    offset + blanks.length < column := by
  obtain ⟨before, -, same⟩ := @Delimiters.feedFrom_blanks { atTerminator := true } {}
    (Delimiters.proper_braces 0) blanks blank (beforeColumn line offset) offset (c :: more)
  rw [Delimiters.feed_beforeColumn, split, same, Delimiters.feedFrom_cons] at begins
  cases moved : Delimiters.move { atTerminator := true } {} before c more with
  | onward next inert =>
      rw [moved] at begins
      exact (Delimiters.commentStart_feedFrom begins).2.1
  | comment =>
      rcases Delimiters.move_eq_comment moved with slash | hash
      · exact absurd slash noSlash
      · exact absurd hash noHash
  | halt after =>
      rw [moved] at begins
      cases begins

/-- A signature begins with the first character of its declaration, or it is empty because the
declaration begins with its body. -/
theorem head?_of_gather {first index budget offset : Nat} {later : List Text} {blanks more : Text}
    (split : line.drop offset = blanks ++ c :: more) (blank : blanks.all isBlank = true)
    (visible : isBlank c = false) (noSlash : c ≠ '/') (noHash : c ≠ '#') :
    ∀ d ∈ (gather words first {} [] index budget offset false (line :: later)).text.head?, d = c := by
  intro d begins
  have found (more : Text) : List.find? (fun c => !isBlank c) (blanks ++ c :: more) = some c := by
    rw [List.find?_append, List.find?_eq_none.mpr, Option.none_or,
      List.find?_cons_of_pos (by simp [visible])]
    intro other member
    simpa using List.all_eq_true.mp blank other member
  cases halted : (Delimiters.feed {} line offset { atTerminator := true }).halt with
  | some pair =>
      rw [text_of_halt halted, Text.head?_normalizeBlanks, Text.slice, List.drop_take, split] at begins
      have first := (List.take_prefix _ _).find?_eq_some begins
      rw [found more] at first
      exact (Option.some.inj first).symm
  | none =>
      obtain ⟨others, same⟩ := text_of_end halted
      obtain ⟨further, joined⟩ := joined_cons others
      rw [same, joined, Text.head?_normalizeBlanks] at begins
      generalize stops : Option.getD _ line.length = stop at begins
      have reached : offset + blanks.length < stop := by
        cases comment : (Delimiters.feed {} line offset { atTerminator := true }).commentStart with
        | some column =>
            rw [comment, Option.getD_some] at stops
            exact stops ▸ lt_of_commentStart split blank noSlash noHash comment
        | none =>
            rw [comment, Option.getD_none] at stops
            have length := congrArg List.length split
            simp only [List.length_drop, List.length_append, List.length_cons] at length
            omega
      obtain ⟨count, rfl⟩ := Nat.exists_eq_add_of_lt reached
      rw [Text.slice, List.drop_take, split, show offset + blanks.length + count + 1 - offset =
        blanks.length + (count + 1) by omega, List.take_length_add_append, List.take_succ_cons,
        List.append_assoc, List.cons_append, found] at begins
      exact (Option.some.inj begins).symm

/-- A text as signatures are: one line, which begins neither with a blank nor with a quote. -/
structure Tidy (text : Text) : Prop where
  line : Text.IsLine text
  opening : ∀ c ∈ text.head?, Lead.isOpening c = true ∧ isBlank c = false

/-- A signature is tidy if its declaration begins with an opening character. -/
theorem tidy_of_find? (there : lines[start]? = some line)
    (complete : find? lines start window limit words = some signature)
    (opens : Lead.Opens Lead.isOpening (Text.trim ((window.clip line).drop window.start))) :
    Tidy signature.text := by
  obtain ⟨text, same⟩ := text_eq_normalizeBlanks_of_find? complete
  refine ⟨same ▸ Text.isLine_normalizeBlanks text, fun d begins => ?_⟩
  rw [Lead.Opens, Text.head?_trim] at opens
  cases found : List.find? (fun c => !isBlank c) ((window.clip line).drop window.start) with
  | none =>
      rw [found] at opens
      cases opens
  | some c =>
      rw [found] at opens
      have opening : Lead.isOpening c = true := opens
      obtain ⟨visible, blanks, more, split, blank⟩ := List.find?_eq_some_iff_append.mp found
      have notBlank : isBlank c = false := by simpa using visible
      have noComment : c ≠ '/' ∧ c ≠ '#' := by
        simp only [Lead.isOpening, Lead.isPlain, Bool.and_eq_true, bne_iff_ne] at opening
        exact ⟨opening.1.1.2, opening.1.2⟩
      rw [find?, drop_eq_cons there] at complete
      obtain rfl := Option.some.inj complete
      rw [head?_of_gather split (List.all_eq_true.mpr fun other member => by
        simpa using blank other member) notBlank noComment.1 noComment.2 d begins]
      exact ⟨opening, notBlank⟩

end Signature

/-! ## Documentation -/

namespace Documentation

variable {lines : List Text}

/-- A text as documentation is: one line or several. -/
def Tidy (text : Text) : Prop :=
  ∃ texts, texts ≠ [] ∧ (∀ line ∈ texts, Text.IsLine line) ∧ text = List.intercalate ['\n'] texts

/-- What a line contributes stands in it. -/
theorem subset_of_textOf? {line text : Text} (contributes : textOf? line = some text) : text ⊆ line := by
  rw [textOf?] at contributes
  split at contributes
  · cases contributes
    exact List.Subset.trans (Text.trim_subset _) (List.drop_subset _ _)
  split at contributes
  · cases contributes
    exact List.Subset.trans (Text.trim_subset _)
      (List.Subset.trans (Text.dropEnding_subset _ _) (List.drop_subset _ _))
  split at contributes
  · cases contributes
    exact List.nil_subset _
  split at contributes
  · cases contributes
    exact List.Subset.trans (Text.trim_subset _)
      (List.Subset.trans (Text.dropEnding_subset _ _) (List.drop_subset _ _))
  split at contributes
  · cases contributes
    exact List.Subset.trans (Text.trim_subset _) (List.dropWhile_suffix _).subset
  · cases contributes

theorem tidy_of_above (each : ∀ line ∈ lines, Text.IsLine line) (index : Nat) :
    ∀ text ∈ above lines index, Tidy text := by
  intro text documented
  rw [above_eq_sources] at documented
  split at documented
  · cases documented
  · next texts nonempty =>
      obtain rfl := Option.some.inj documented
      refine ⟨_, nonempty, fun contributed listed => ?_, rfl⟩
      obtain ⟨source, member, rfl⟩ := List.mem_map.mp listed
      obtain ⟨-, ⟨line, text, there, contributes⟩, -⟩ := mem_sources member
      rw [contribution, there, Option.bind_some, contributes, Option.getD_some]
      exact (each line (List.mem_of_getElem? there)).of_subset
        (List.Subset.trans (subset_of_textOf? contributes) (Text.trim_subset line))

end Documentation

/-! ## Outlines -/

/-- The texts of a declaration are as they are in outlines. -/
structure Declaration.Tidy (declaration : Declaration) : Prop where
  signature : Signature.Tidy declaration.signature
  documentation : ∀ text ∈ declaration.documentation, Documentation.Tidy text

structure ClassDeclaration.Tidy (declaration : ClassDeclaration) : Prop where
  signature : Signature.Tidy declaration.signature
  documentation : ∀ text ∈ declaration.documentation, Documentation.Tidy text
  methods : ∀ method ∈ declaration.methods, method.Tidy

namespace Outline

structure Tidy (outline : Outline) : Prop where
  classes : ∀ found ∈ outline.classes, found.Tidy
  functions : ∀ found ∈ outline.functions, found.Tidy

variable {lines : List Text} {index : Nat}

theorem tidy_of_declares {className : Text} {segment : Segment} {member : Declaration}
    {signature : Signature} (each : ∀ line ∈ lines, Text.IsLine line)
    (named : Lead.Opens Lead.isOpening className) (within : segment.In lines)
    (declares : Declares lines className segment member signature) : member.Tidy := by
  obtain ⟨line, there, piece⟩ := within
  refine ⟨?_, ?_⟩
  · rw [declares.signature]
    refine Signature.tidy_of_find? there declares.complete ?_
    rw [Segment.clip_eq, ← Text.slice, ← piece.text]
    exact Lead.opens_of_memberName? named declares.named
  · rw [declares.documentation]
    exact Documentation.tidy_of_above each _

theorem tidy_of_classAt? {found : Located ClassDeclaration} (each : ∀ line ∈ lines, Text.IsLine line)
    (at? : classAt? lines index = some found) : found.item.Tidy := by
  obtain ⟨named, declared⟩ := exists_declares_of_classAt? at?
  have methods : ∀ method ∈ found.item.methods, method.Tidy := by
    intro method listed
    obtain ⟨segment, signature, within, declares⟩ := declared method listed
    exact tidy_of_declares each (Lead.opens_name _ named) within declares
  simp only [classAt?, Option.bind_eq_bind, Option.bind_eq_some_iff, Option.ite_none_left_eq_some,
    Option.some.injEq] at at?
  obtain ⟨line, there, -, lead, matched, name, -, signature, complete, rfl⟩ := at?
  refine ⟨Signature.tidy_of_find? there complete ?_, Documentation.tidy_of_above each index, methods⟩
  exact Lead.opens_of_matchStart? Lead.yields_classLead Lead.opens_classLead matched

theorem tidy_of_functionAt? {whole : List Text} {found : Located Declaration}
    (each : ∀ line ∈ whole, Text.IsLine line) (at? : functionAt? whole lines index = some found) :
    found.item.Tidy := by
  simp only [functionAt?, Option.bind_eq_bind, Option.bind_eq_some_iff, Option.ite_none_left_eq_some,
    Option.ite_none_right_eq_some, Option.some.injEq] at at?
  obtain ⟨line, there, -, candidate, opened, signature, complete, -, rfl⟩ := at?
  exact ⟨Signature.tidy_of_find? there complete (Lead.opens_of_candidate? opened),
    Documentation.tidy_of_above each index⟩

/-- The texts of an outline are tidy. -/
theorem tidy_ofText (text : Text) : (ofText text).Tidy := by
  have each : ∀ line ∈ text.lines, Text.IsLine line := fun _ => Text.isLine_of_mem_lines
  refine ⟨fun found listed => ?_, fun found listed => ?_⟩
  · obtain ⟨located, member, rfl⟩ := List.mem_map.mp listed
    obtain ⟨start, at?⟩ := exists_of_mem_classesFrom member
    exact tidy_of_classAt? each at?
  · obtain ⟨located, member, rfl⟩ := List.mem_map.mp listed
    obtain ⟨start, at?⟩ := exists_of_mem_functionsFrom member
    exact tidy_of_functionAt? each at?

end Outline
end Codemap
