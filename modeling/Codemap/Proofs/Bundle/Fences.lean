import Codemap.Proofs.Bundle.Markdown
import Codemap.Proofs.Files.Path
import Codemap.Proofs.Source.Texts

namespace Codemap
namespace Bundle

/-!
# Fences around documentation and signatures

A bundle shows the documentation and the signature of each declaration as a block between two
fences.  Nothing is done to a text that is put into a block, but for its indentation, and all
fences are alike.  A reader who takes the first line that starts with the mark of a fence for the
end of the block therefore finds the end only if no line of the text starts with that mark.

A signature is one line and begins as a declaration does, so it never starts with the mark.
Documentation may: it is whatever stands in comments, and examples of code in comments stand in
fences of their own.
-/

/-! ## Blocks -/

/-- What a block holds. -/
inductive Block.Kind where
  | documentation
  | signature
deriving DecidableEq, Repr

/-- A text between two fences. -/
structure Block where
  kind : Block.Kind
  indent : Text := []
  language : Text := []
  text : Text
deriving DecidableEq, Repr

/-- A line starts, after its indentation, with the mark of a fence. -/
def startsFence (line : Text) : Bool :=
  fenceMark.isPrefixOf line.trimStart

/-- A line of a text after its first, indented. -/
def indented (indent line : Text) : Text :=
  if line.isEmpty then [] else indent ++ line

namespace Block

/-- The opening fence. -/
def opening (block : Block) : Text :=
  block.indent ++ fenceMark ++ block.language

/-- The closing fence. -/
def closing (block : Block) : Text :=
  block.indent ++ fenceMark

/-- The lines between the fences: those of the text, indented. -/
def lines (block : Block) : List Text :=
  match Text.fields '\n' block.text with
  | [] => []
  | first :: later => (block.indent ++ first) :: later.map (indented block.indent)

/-- The block as a text. -/
def written (block : Block) : Text :=
  line block.opening ++ block.lines.flatMap line ++ line block.closing

/-- The block ends at its own closing fence: among the lines that follow the opening fence, those
before the first that starts with the mark of a fence are the lines of the block. -/
def EndsItself (block : Block) (rest : List Text) : Prop :=
  (block.lines ++ block.closing :: rest).takeWhile (fun line => !startsFence line) = block.lines

end Block

/-- The block of the documentation, if there is some. -/
def documentationBlocks (indent : Text) (documentation : Option Text) : List Block :=
  (present documentation).toList.map fun text => { kind := .documentation, indent, text }

/-- The blocks of a declaration. -/
def declarationBlocks (indent language : Text) (found : Declaration) : List Block :=
  documentationBlocks indent found.documentation ++
    [{ kind := .signature, indent, language, text := found.signature }]

/-- The blocks of a class and its methods. -/
def classBlocks (language : Text) (found : ClassDeclaration) : List Block :=
  documentationBlocks [] found.documentation ++
    { kind := .signature, language, text := found.signature } ::
      found.methods.flatMap (declarationBlocks itemIndent language)

/-- The blocks of a file. -/
def itemBlocks (item : Item) : List Block :=
  let language := Walk.fenceLanguage item.path
  item.outline.classes.flatMap (classBlocks language) ++
    item.outline.functions.flatMap (declarationBlocks [] language)

/-- The blocks of a bundle, in the order in which they are shown. -/
def blocks (content : Content) : List Block :=
  (inOrder content.matched ++ inOrder content.referencing).flatMap itemBlocks

/-- Lines show blocks one after another: each block has its opening fence, its lines and its
closing fence, and there may be other lines before, between and after the blocks. -/
inductive Shows : List Block → List Text → Prop
  | nil (lines : List Text) : Shows [] lines
  | cons (before : List Text) {block : Block} {others : List Block} {rest : List Text}
      (later : Shows others rest) :
      Shows (block :: others) (before ++ block.opening :: (block.lines ++ block.closing :: rest))

/-! ## The end of a block -/

namespace Block

variable {block : Block}

/-- A block as they stand in bundles: its indentation consists of spaces, its language is one word,
and a signature is tidy. -/
structure Sound (block : Block) : Prop where
  indent : ∀ c ∈ block.indent, c = ' '
  language : '\n' ∉ block.language
  signature : block.kind = .signature → Signature.Tidy block.text

theorem Sound.blank (sound : block.Sound) : block.indent.all isBlank = true :=
  List.all_eq_true.mpr fun c member => sound.indent c member ▸ rfl

theorem Sound.closing (sound : block.Sound) : '\n' ∉ block.closing := by
  rw [Block.closing, List.mem_append, not_or]
  exact ⟨fun breaks => absurd (sound.indent _ breaks) (by decide), by decide⟩

theorem Sound.opening (sound : block.Sound) : '\n' ∉ block.opening := by
  rw [Block.opening, List.mem_append, not_or]
  exact ⟨sound.closing, sound.language⟩

theorem Sound.lines (sound : block.Sound) : ∀ line ∈ block.lines, '\n' ∉ line := by
  have indent : '\n' ∉ block.indent := fun breaks => absurd (sound.indent _ breaks) (by decide)
  have inner : ∀ line ∈ Text.fields '\n' block.text, '\n' ∉ line :=
    fun _ listed breaks => (Text.mem_of_mem_fields listed breaks).2 rfl
  rw [Block.lines]
  generalize Text.fields '\n' block.text = texts at inner
  cases texts with
  | nil => exact fun _ member => absurd member List.not_mem_nil
  | cons first later =>
      obtain ⟨here, further⟩ := List.forall_mem_cons.mp inner
      refine List.forall_mem_cons.mpr ⟨by simp [indent, here], ?_⟩
      rw [List.forall_mem_map]
      intro line listed
      rw [indented]
      split
      · exact List.not_mem_nil
      · simp [indent, further line listed]

end Block

theorem startsFence_append {indent : Text} (blank : indent.all isBlank = true) (text : Text) :
    startsFence (indent ++ text) = startsFence text := by
  rw [startsFence, Text.trimStart_append blank, startsFence]

theorem startsFence_indented {indent : Text} (blank : indent.all isBlank = true) (line : Text) :
    startsFence (indented indent line) = startsFence line := by
  cases line with
  | nil => rfl
  | cons c rest => exact startsFence_append blank (c :: rest)

theorem startsFence_mark : startsFence fenceMark = true := by
  decide

/-- No signature starts with the mark of a fence. -/
theorem startsFence_of_tidy {signature : Text} (tidy : Signature.Tidy signature) :
    startsFence signature = false := by
  cases signature with
  | nil => rfl
  | cons c rest =>
      obtain ⟨opening, visible⟩ := tidy.opening c rfl
      rw [startsFence, Text.trimStart_cons visible, Bool.eq_false_iff]
      intro marked
      obtain ⟨more, same⟩ := List.isPrefixOf_iff_prefix.mp marked
      obtain rfl : '\x60' = c := (List.cons.inj same).1
      cases opening

/-- A text without line breaks is one line. -/
theorem fields_of_notMem {text : Text} (absent : '\n' ∉ text) : Text.fields '\n' text = [text] := by
  rw [Text.fields_eq_splitOn, List.splitOn_eq_singleton absent]

/-- A signature is one line. -/
theorem fields_of_tidy {signature : Text} (tidy : Signature.Tidy signature) :
    Text.fields '\n' signature = [signature] :=
  fields_of_notMem fun breaks => absurd (tidy.line _ breaks) (by decide)

/-- The lines of a block start with the mark of a fence exactly where those of its text do. -/
theorem all_lines_iff {block : Block} (sound : block.Sound) :
    (∀ line ∈ block.lines, startsFence line = false) ↔
      ∀ line ∈ Text.fields '\n' block.text, startsFence line = false := by
  rw [Block.lines]
  cases Text.fields '\n' block.text with
  | nil => exact Iff.rfl
  | cons first later =>
      simp only [List.forall_mem_cons, List.forall_mem_map, startsFence_append sound.blank,
        startsFence_indented sound.blank]

/-- A block ends at its own closing fence exactly if no line of its text starts with the mark of a
fence. -/
theorem endsItself_iff {block : Block} (sound : block.Sound) (rest : List Text) :
    block.EndsItself rest ↔ ∀ line ∈ Text.fields '\n' block.text, startsFence line = false := by
  have mark : startsFence block.closing = true := by
    rw [Block.closing, startsFence_append sound.blank, startsFence_mark]
  rw [← all_lines_iff sound, Block.EndsItself, List.takeWhile_append,
    List.takeWhile_cons_of_neg (by simp [mark]), List.append_nil]
  constructor
  · intro ends
    have whole : block.lines.takeWhile (fun line => !startsFence line) = block.lines := by
      split at ends
      · next same =>
          exact (List.takeWhile_prefix _).eq_of_length same
      · exact ends
    simpa using List.takeWhile_eq_self_iff.mp whole
  · intro unmarked
    rw [List.takeWhile_eq_self_iff.mpr fun line member => by simp [unmarked line member]]
    exact ite_self _

/-! ## Blocks as texts -/

/-- Lines are joined to a text with a line break after each. -/
theorem line_intercalate {texts : List Text} (some : texts ≠ []) :
    line (List.intercalate ['\n'] texts) = texts.flatMap line := by
  induction texts with
  | nil => exact absurd rfl some
  | cons first rest inductionHypothesis =>
      cases rest with
      | nil => simp [line]
      | cons second others =>
          rw [List.flatMap_cons, ← inductionHypothesis (List.cons_ne_nil _ _),
            List.intercalate_cons_cons]
          simp [line]

/-- A text of whole lines is cut into them. -/
theorem lines_flatMap_line {texts : List Text} (each : ∀ text ∈ texts, Text.IsLine text) :
    Text.lines (texts.flatMap line) = texts := by
  have cut (current text more : Text) (whole : Text.IsLine text) :
      Text.linesFrom current (text ++ '\n' :: more) =
        (current.reverse ++ text) :: Text.linesFrom [] more := by
    induction text generalizing current with
    | nil => simp [Text.linesFrom, isLineBreak]
    | cons c rest inductionHypothesis =>
        obtain ⟨here, later⟩ := List.forall_mem_cons.mp whole
        have noReturn : c ≠ '\r' := by
          rintro rfl
          cases here
        rw [List.cons_append, Text.linesFrom, if_neg (by simp [here]),
          inductionHypothesis _ later]
        · simp
        · rintro _ rfl
          exact absurd rfl noReturn
  induction texts with
  | nil => rfl
  | cons text rest inductionHypothesis =>
      obtain ⟨here, later⟩ := List.forall_mem_cons.mp each
      rw [List.flatMap_cons, line, List.append_assoc, List.singleton_append, Text.lines,
        cut [] text _ here]
      exact congrArg _ (inductionHypothesis later)

/-- Lines that are joined are indented one by one. -/
theorem indentRest_intercalate (indent first : Text) {later : List Text}
    (each : ∀ text ∈ first :: later, Text.IsLine text) :
    indentRest indent (List.intercalate ['\n'] (first :: later)) =
      List.intercalate ['\n'] (first :: later.map (indented indent)) := by
  have joined := line_intercalate (List.cons_ne_nil first later)
  rw [line] at joined
  rw [indentRest, joined, lines_flatMap_line each]
  rfl

/-- A fence around an indented text is a block. -/
theorem fence_eq_written {block : Block} (tidy : Documentation.Tidy block.text) :
    fence block.indent block.language (indentRest block.indent block.text) = block.written := by
  obtain ⟨texts, some, each, same⟩ := tidy
  have apart : ∀ text ∈ texts, '\n' ∉ text :=
    fun text listed breaks => absurd (each text listed _ breaks) (by decide)
  cases texts with
  | nil => exact absurd rfl some
  | cons first later =>
      rw [Block.written, Block.lines, same, Text.fields_eq_splitOn, List.splitOn_intercalate _ apart some,
        indentRest_intercalate _ _ each, ← line_intercalate (List.cons_ne_nil _ _), fence,
        Block.opening, Block.closing]
      cases later with
      | nil => simp
      | cons second others => simp [List.intercalate_cons_cons]

/-- Indentation leaves a signature as it is. -/
theorem indentRest_of_tidy (indent : Text) {signature : Text} (tidy : Signature.Tidy signature) :
    indentRest indent signature = signature := by
  have same := @indentRest_intercalate indent signature [] (by simpa using tidy.line)
  simpa using same

/-- Nor does an empty indentation change documentation. -/
theorem indentRest_nil {documentation : Text} (tidy : Documentation.Tidy documentation) :
    indentRest [] documentation = documentation := by
  obtain ⟨texts, some, each, rfl⟩ := tidy
  cases texts with
  | nil => exact absurd rfl some
  | cons first later =>
      have kept : indented [] = id := by
        funext line
        cases line <;> rfl
      rw [indentRest_intercalate _ _ each, kept, List.map_id]

/-! ## Where blocks stand -/

/-- A line that is put in front of a text stands in front of its lines. -/
theorem fields_line (text more : Text) :
    Text.fields '\n' (line text ++ more) = Text.fields '\n' text ++ Text.fields '\n' more := by
  rw [line, List.append_assoc, List.singleton_append, Text.fields_eq_splitOn, Text.fields_eq_splitOn,
    Text.fields_eq_splitOn, List.splitOn_append_cons_self]

theorem fields_flatMap_line (texts : List Text) (more : Text) :
    Text.fields '\n' (texts.flatMap line ++ more) =
      texts.flatMap (Text.fields '\n') ++ Text.fields '\n' more := by
  induction texts with
  | nil => rfl
  | cons text rest inductionHypothesis =>
      rw [List.flatMap_cons, List.append_assoc, fields_line, inductionHypothesis, List.flatMap_cons,
        List.append_assoc]

/-- A text of whole lines. -/
def Whole (text : Text) : Prop :=
  ∃ pieces : List Text, text = pieces.flatMap line

namespace Whole

variable {left right : Text}

theorem nil : Whole [] :=
  ⟨[], rfl⟩

theorem line (text : Text) : Whole (line text) :=
  ⟨[text], by simp⟩

theorem append (early : Whole left) (late : Whole right) : Whole (left ++ right) := by
  obtain ⟨first, rfl⟩ := early
  obtain ⟨second, rfl⟩ := late
  exact ⟨first ++ second, by rw [List.flatMap_append]⟩

theorem lineBreak : Whole ['\n'] :=
  .line []

theorem heading (level : Nat) (text : Text) : Whole (heading level text) :=
  (Whole.line _).append lineBreak

theorem label (text : String) : Whole (label text) :=
  .line _

end Whole

/-- A text of whole lines holds sound blocks one after another. -/
inductive Holds : List Block → Text → Prop
  | nil {text : Text} (whole : Whole text) : Holds [] text
  | cons {before rest : Text} {block : Block} {others : List Block} (whole : Whole before)
      (sound : block.Sound) (later : Holds others rest) :
      Holds (block :: others) (before ++ (block.written ++ rest))

namespace Holds

variable {early late : List Block} {left right : Text}

theorem prepend (whole : Whole left) (holds : Holds late right) : Holds late (left ++ right) := by
  cases holds with
  | nil whole' => exact .nil (whole.append whole')
  | cons whole' sound later =>
      rw [← List.append_assoc]
      exact .cons (whole.append whole') sound later

theorem append (first : Holds early left) (second : Holds late right) :
    Holds (early ++ late) (left ++ right) := by
  induction first with
  | nil whole => exact second.prepend whole
  | cons whole sound _ inductionHypothesis =>
      rw [List.append_assoc, List.append_assoc]
      exact .cons whole sound inductionHypothesis

theorem flatMap {α : Type} {values : List α} {shown : α → List Block} {written : α → Text}
    (each : ∀ value ∈ values, Holds (shown value) (written value)) :
    Holds (values.flatMap shown) (values.flatMap written) := by
  induction values with
  | nil => exact .nil .nil
  | cons value rest inductionHypothesis =>
      obtain ⟨here, later⟩ := List.forall_mem_cons.mp each
      exact here.append (inductionHypothesis later)

theorem block {block : Block} (sound : block.Sound) : Holds [block] block.written := by
  have alone := Holds.cons Whole.nil sound (.nil .nil)
  rwa [List.nil_append, List.append_nil] at alone

theorem sound {shown : List Block} {text : Text} (holds : Holds shown text) :
    ∀ block ∈ shown, block.Sound := by
  induction holds with
  | nil => exact fun _ member => absurd member List.not_mem_nil
  | cons _ sound _ inductionHypothesis => exact List.forall_mem_cons.mpr ⟨sound, inductionHypothesis⟩

/-- A text of blanks holds no blocks. -/
theorem eq_nil_of_blank {shown : List Block} {text : Text} (holds : Holds shown text)
    (blank : ∀ c ∈ text, isBlank c = true) : shown = [] := by
  cases holds with
  | nil => rfl
  | @cons before rest block =>
      have mark : '\x60' ∈ before ++ (block.written ++ rest) := by
        simp [Block.written, Block.opening, line, fenceMark]
      cases blank _ mark

/-- The blanks at the end of a text may be taken off down to the end of a line. -/
theorem trimEnd {shown : List Block} {text : Text} (holds : Holds shown text) :
    Holds shown (line text.trimEnd) := by
  induction holds with
  | nil => exact .nil (.line _)
  | @cons before rest block others whole sound later inductionHypothesis =>
      by_cases visible : ∃ c ∈ rest, isBlank c = false
      · rw [← List.append_assoc, Text.trimEnd_append visible, line, List.append_assoc,
          List.append_assoc]
        exact .cons whole sound inductionHypothesis
      · -- The block is the last one, and its own line break is all that is left behind it.
        have blank : ∀ c ∈ rest, isBlank c = true := by simpa using visible
        obtain rfl := later.eq_nil_of_blank blank
        obtain ⟨front, ends⟩ : ∃ front, block.written = front ++ ['\x60', '\n'] :=
          ⟨line block.opening ++ block.lines.flatMap line ++ block.indent ++ ['\x60', '\x60'],
            by simp [Block.written, Block.closing, line, fenceMark]⟩
        have trimmed : Text.trimEnd (before ++ (block.written ++ rest)) = before ++ front ++ ['\x60'] := by
          rw [ends, List.append_assoc, ← List.append_assoc before]
          exact Text.trimEnd_of_blank rfl (List.forall_mem_cons.mpr ⟨rfl, blank⟩) _
        rw [trimmed, line, List.append_assoc, List.append_assoc, List.singleton_append, ← ends,
          ← List.append_nil block.written]
        exact .cons whole sound (.nil .nil)

/-- The lines of the text show the blocks. -/
theorem shows {shown : List Block} {text : Text} (holds : Holds shown text) :
    Shows shown (Text.fields '\n' text) := by
  induction holds with
  | nil => exact .nil _
  | @cons before rest block others whole sound later inductionHypothesis =>
      obtain ⟨pieces, rfl⟩ := whole
      have inner : block.lines.flatMap (Text.fields '\n') = block.lines := by
        rw [List.flatMap_congr fun line listed => fields_of_notMem (sound.lines line listed)]
        exact List.flatMap_singleton' _
      rw [fields_flatMap_line, Block.written, List.append_assoc, List.append_assoc, fields_line,
        fields_flatMap_line, fields_line, fields_of_notMem sound.opening, fields_of_notMem sound.closing,
        inner]
      exact .cons _ inductionHypothesis

end Holds

/-! ## The blocks of a bundle -/

section Sections

variable {indent language : Text} (spaces : ∀ c ∈ indent, c = ' ') (word : '\n' ∉ language)

include spaces in
theorem holds_documentation {text : Text} (tidy : Documentation.Tidy text) :
    Holds [{ kind := .documentation, indent, text }] (fence indent [] (indentRest indent text)) := by
  have written := @fence_eq_written { kind := .documentation, indent, text } tidy
  rw [written]
  exact .block ⟨spaces, List.not_mem_nil, fun impossible => nomatch impossible⟩

include spaces word in
theorem holds_signature {signature : Text} (tidy : Signature.Tidy signature) :
    Holds [{ kind := .signature, indent, language, text := signature }]
      (fence indent language signature) := by
  have alone : Documentation.Tidy signature :=
    ⟨[signature], List.cons_ne_nil _ _, by simpa using tidy.line, by simp⟩
  have written := @fence_eq_written { kind := .signature, indent, language, text := signature } alone
  rw [indentRest_of_tidy indent tidy] at written
  rw [written]
  exact .block ⟨spaces, word, fun _ => tidy⟩

theorem holds_documentationBlock {documentation : Option Text}
    (tidy : ∀ text ∈ documentation, Documentation.Tidy text) :
    Holds (documentationBlocks [] documentation) (documentationBlock documentation) := by
  rw [documentationBlocks, documentationBlock]
  cases there : present documentation with
  | none => exact .nil .nil
  | some text =>
      have tidyText := tidy text (Option.mem_filter_iff.mp there).1
      have shown := holds_documentation (fun _ member => absurd member List.not_mem_nil) tidyText
      rw [indentRest_nil tidyText] at shown
      exact ((shown.prepend (.label _)).append (.nil .lineBreak))

include word in
theorem holds_signatureBlock {signature : Text} (tidy : Signature.Tidy signature) :
    Holds [{ kind := .signature, language, text := signature }] (signatureBlock language signature) :=
  ((holds_signature (fun _ member => absurd member List.not_mem_nil) word tidy).prepend
    (.label _)).append (.nil .lineBreak)

include word in
theorem holds_methodItem {method : Declaration} (tidy : method.Tidy) :
    Holds (declarationBlocks itemIndent language method) (methodItem language method) := by
  have spaces : ∀ c ∈ itemIndent, c = ' ' := by simp [itemIndent]
  have signature := holds_signature spaces word tidy.signature
  rw [methodItem, declarationBlocks, documentationBlocks]
  refine Holds.append ?_ signature
  refine Holds.prepend (.line _) ?_
  cases there : present method.documentation with
  | none => exact .nil .nil
  | some text =>
      exact holds_documentation spaces (tidy.documentation text (Option.mem_filter_iff.mp there).1)

include word in
theorem holds_classSection {found : ClassDeclaration} (tidy : found.Tidy) :
    Holds (classBlocks language found) (classSection language found) := by
  have documented := (holds_documentationBlock tidy.documentation).prepend
    (.heading 5 (inlineCode found.name))
  have signed := holds_signatureBlock word tidy.signature
  have methods := Holds.flatMap fun method listed => holds_methodItem word (tidy.methods method listed)
  rw [classSection, classBlocks, ← List.singleton_append, ← List.append_assoc]
  refine (documented.append signed).append ?_
  split
  · next none =>
      rw [List.isEmpty_iff.mp none]
      exact .nil .nil
  · have listed := (methods.prepend ((Whole.label "Methods").append .lineBreak)).append
      (.nil .lineBreak)
    simpa only [List.append_nil, List.nil_append, List.append_assoc, List.singleton_append,
      List.cons_append] using listed

include word in
theorem holds_functionSection {found : Declaration} (tidy : found.Tidy) :
    Holds (declarationBlocks [] language found) (functionSection language found) :=
  ((holds_documentationBlock tidy.documentation).prepend (.heading _ _)).append
    (holds_signatureBlock word tidy.signature)

end Sections

theorem notMem_fenceLanguage (path : Path) : '\n' ∉ Walk.fenceLanguage path := by
  have words : ∀ entry ∈ Walk.fenceBySuffix, '\n' ∉ entry.2.toList := by decide
  rw [Walk.fenceLanguage]
  split
  · next suffix language found => exact words _ (List.mem_of_find?_eq_some found)
  · exact List.not_mem_nil

/-- A list of sections stands below a heading, unless it is empty. -/
theorem holds_listed {α : Type} {values : List α} {shown : α → List Block} {written : α → Text}
    (each : ∀ value ∈ values, Holds (shown value) (written value)) (title : Text) :
    Holds (values.flatMap shown)
      (if values.isEmpty then [] else heading 4 title ++ values.flatMap written) := by
  split
  · next none =>
      rw [List.isEmpty_iff.mp none]
      exact .nil .nil
  · exact (Holds.flatMap each).prepend (.heading 4 title)

theorem holds_fileSection (root : Option Path) {item : Item} (tidy : item.outline.Tidy) :
    Holds (itemBlocks item) (fileSection root item) := by
  have word := notMem_fenceLanguage item.path
  have classes := holds_listed (fun found listed => holds_classSection word (tidy.classes found listed))
    "Classes".toList
  have functions := holds_listed
    (fun found listed => holds_functionSection word (tidy.functions found listed)) "Functions".toList
  have path : Whole (heading 3 item.path.name ++
      line ("**Path:** ".toList ++ inlineCode (displayPath item.path root)) ++ ['\n']) :=
    ((Whole.heading _ _).append (.line _)).append .lineBreak
  have ends : Whole (if item.outline.isEmpty then
      line "*No classes or functions found in this file*".toList ++ ['\n'] else []) := by
    split
    · exact (Whole.line _).append .lineBreak
    · exact .nil
  rw [fileSection, itemBlocks, ← List.append_nil (_ ++ _)]
  exact ((classes.prepend path).append functions).append (.nil ends)

theorem holds_fileSections (root : Option Path) {items : List Item}
    (tidy : ∀ item ∈ items, item.outline.Tidy) :
    Holds ((inOrder items).flatMap itemBlocks) (fileSections root items) := by
  refine Holds.flatMap fun item listed => ?_
  have shown := (holds_fileSection root (tidy item (List.mem_mergeSort.mp listed))).append
    (.nil .lineBreak)
  rwa [List.append_nil] at shown

theorem holds_closing {content : Content}
    (tidy : ∀ item ∈ content.matched ++ content.referencing, item.outline.Tidy) :
    Holds (blocks content) (closing content) := by
  have matched := holds_fileSections content.root fun item listed =>
    tidy item (List.mem_append_left _ listed)
  have referencing := holds_fileSections content.root fun item listed =>
    tidy item (List.mem_append_right _ listed)
  have title : Whole ('\n' :: heading 2 "Matched Files".toList ++
      (line ("Found ".toList ++ Text.ofNat content.matched.length ++
        " files matching the search patterns:".toList) ++ ['\n'])) :=
    (Whole.lineBreak.append (.heading _ _)).append ((Whole.line _).append .lineBreak)
  have importing : Holds ((inOrder content.referencing).flatMap itemBlocks)
      (if content.referencing.isEmpty then []
        else heading 2 "Referencing Files".toList ++
          line ("Found ".toList ++ Text.ofNat content.referencing.length ++
            " files that import the matched files:".toList) ++ ['\n'] ++
          fileSections content.root content.referencing) := by
    split
    · next none =>
        rw [List.isEmpty_iff.mp none, inOrder, List.mergeSort_nil]
        exact .nil .nil
    · exact referencing.prepend (((Whole.heading _ _).append (.line _)).append .lineBreak)
  have both := (matched.prepend title).append importing
  rw [closing, blocks, List.flatMap_append]
  simpa only [List.append_assoc] using both

theorem whole_readmeSection (readme : Readme) : Whole (readmeSection readme) := by
  cases readme with
  | absent => exact .line _
  | unreadable => exact .line _
  | text content => exact (Whole.heading 3 _).append (.line _)

theorem whole_opening (content : Content) : Whole (opening content) := by
  have third : Whole (if content.referencing.isEmpty then []
      else line "3. [Referencing Files](#referencing-files)".toList) := by
    split
    · exact .nil
    · exact .line _
  exact (((((((Whole.heading 1 _).append (.line _)).append .lineBreak).append (.heading 2 _)).append
    (.line _)).append (.line _)).append third).append (Whole.lineBreak.append (.heading 2 _))

theorem holds_render {content : Content}
    (tidy : ∀ item ∈ content.matched ++ content.referencing, item.outline.Tidy) :
    Holds (blocks content) (render content) := by
  rw [render_eq]
  exact (holds_closing tidy).trimEnd.prepend
    ((whole_opening content).append (whole_readmeSection content.readme))

/-- The outlines of a bundle are those of texts. -/
def Outlined (content : Content) : Prop :=
  ∀ item ∈ content.matched ++ content.referencing, ∃ text, item.outline = Outline.ofText text

/-- So are those of the bundles that are made for directories. -/
theorem outlined_contentOf (environment : Environment) (tree : Tree) (directory : Path)
    (files : Files) : Outlined (contentOf environment tree directory files) := by
  have outline (path : Path) : ∃ text, Outline.ofFile tree path = Outline.ofText text := by
    rw [Outline.ofFile]
    split
    · exact ⟨_, rfl⟩
    · exact ⟨[], rfl⟩
  intro item listed
  rcases List.mem_append.mp listed with matched | referencing
  · obtain ⟨file, -, rfl⟩ := List.mem_map.mp matched
    exact outline _
  · obtain ⟨file, -, rfl⟩ := List.mem_map.mp referencing
    exact outline _

/-- A bundle shows the documentation and the signature of each declaration as a block of their own,
one after another.  The block of a signature ends at its own closing fence, and so does the block
of a documentation exactly if no line of it starts with the mark of a fence. -/
theorem fences_of_render {content : Content} (outlined : Outlined content) :
    Shows (blocks content) (Text.fields '\n' (render content)) ∧
      ∀ block ∈ blocks content, ∀ rest, block.EndsItself rest ↔
        block.kind = .signature ∨
          ∀ line ∈ Text.fields '\n' block.text, startsFence line = false := by
  have holds := holds_render fun item listed => by
    obtain ⟨text, same⟩ := outlined item listed
    exact same ▸ Outline.tidy_ofText text
  refine ⟨holds.shows, fun block listed rest => ?_⟩
  have sound := holds.sound block listed
  rw [endsItself_iff sound rest, or_iff_right_of_imp]
  intro kind line among
  have tidy := sound.signature kind
  rw [fields_of_tidy tidy, List.mem_singleton] at among
  exact among ▸ startsFence_of_tidy tidy

/-- A bundle of one file. -/
def bundleOf (text : Text) : Content where
  name := "lib".toList
  generated := "2024-01-02".toList
  matched := [⟨"a.js".toList, Outline.ofText text⟩]

theorem outlined_bundleOf (text : Text) : Outlined (bundleOf text) := by
  intro item listed
  obtain rfl : item = ⟨"a.js".toList, Outline.ofText text⟩ := by simpa [bundleOf] using listed
  exact ⟨text, rfl⟩

/-- A class that is documented in words. -/
def wordedExample : Text :=
  "/// Counts.\nclass Foo \x7b\n\x7d\n".toList

theorem fences_of_wordedExample :
    Outlined (bundleOf wordedExample) ∧
      blocks (bundleOf wordedExample) =
        [{ kind := .documentation, text := "Counts.".toList },
          { kind := .signature, language := "javascript".toList, text := "class Foo".toList }] ∧
      Shows (blocks (bundleOf wordedExample)) (Text.fields '\n' (render (bundleOf wordedExample))) ∧
      ∀ block ∈ blocks (bundleOf wordedExample), ∀ rest, block.EndsItself rest ↔
        block.kind = .signature ∨
          ∀ line ∈ Text.fields '\n' block.text, startsFence line = false :=
  ⟨outlined_bundleOf _, by decide +kernel, fences_of_render (outlined_bundleOf _)⟩

/-- A class that is documented by an example in fences of its own. -/
def fencedExample : Text :=
  "/// Use:\n/// \x60\x60\x60\n/// new Foo()\n/// \x60\x60\x60\nclass Foo \x7b\n\x7d\n".toList

/-- The first line of the example in the documentation ends the block. -/
theorem fencedExample_ends_early :
    Outlined (bundleOf fencedExample) ∧
      blocks (bundleOf fencedExample) =
        [{ kind := .documentation, text := "Use:\n\x60\x60\x60\nnew Foo()\n\x60\x60\x60".toList },
          { kind := .signature, language := "javascript".toList, text := "class Foo".toList }] ∧
      ((Text.fields '\n' (render (bundleOf fencedExample))).dropWhile (· != fenceMark)).tail.takeWhile
        (fun line => !startsFence line) = ["Use:".toList] :=
  ⟨outlined_bundleOf _, by decide +kernel, by decide +kernel⟩

end Bundle
end Codemap
