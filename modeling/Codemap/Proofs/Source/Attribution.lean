import Codemap.Proofs.Source.Documentation
import Codemap.Proofs.Source.Members

namespace Codemap

/-!
# Which declaration a comment documents

Documentation is sought above the line on which a declaration begins, so declarations on one line
have the same documentation.  A line that begins with a declaration is no comment and no
annotation.  It ends every search from further below, and so the comments above it document only
what begins on it.

A member need not begin its line: it may stand behind the brace that opens the body of its class.
Where that brace is not on the first line of the class, the line begins with something else.
-/

/-! ## Lines that begin with a declaration -/

namespace Documentation

open Lead (Opens)

/-- A character with which neither a comment begins nor an annotation. -/
def isDeclaring (c : Char) : Bool :=
  c != '/' && c != '*' && c != '#' && c != '@'

variable {line text : Text}

/-- What begins with one of some marks begins with the first character of a mark. -/
theorem opens_of_startsWithAny {property : Char → Bool} {marks : List Text}
    (each : ∀ mark ∈ marks, Opens property mark) (starts : text.startsWithAny marks = true) :
    Opens property text := by
  obtain ⟨mark, listed, isPrefix⟩ := List.any_eq_true.mp starts
  obtain ⟨rest, rfl⟩ := List.isPrefixOf_iff_prefix.mp isPrefix
  exact (each mark listed).append rest

theorem not_opens_not {property : Char → Bool} (opens : Opens property text) :
    ¬ Opens (fun c => !property c) text := by
  cases text with
  | nil => cases opens
  | cons c rest =>
      intro other
      simp only [Opens, List.head?_cons, Option.any_some] at opens other
      rw [opens] at other
      cases other

/-- A line that begins with such a character ends a run of comments. -/
theorem not_joins_of_opens (opens : Opens isDeclaring (Text.trim line)) : ¬ Joins line := by
  have other := not_opens_not opens
  rintro (contributes | blank | annotation)
  · obtain ⟨text, contributes⟩ := Option.isSome_iff_exists.mp contributes
    rcases style_of_textOf? contributes with marked | hash | block | starred
    · exact other (opens_of_startsWithAny (by decide) marked)
    · refine other ?_
      have first := (Bool.and_eq_true_iff.mp hash).1
      rw [beq_iff_eq] at first
      rw [Opens, first]
      rfl
    · exact other (opens_of_startsWithAny (by decide) block)
    · exact other (opens_of_startsWithAny (by decide) starred)
  · rw [Opens, Text.head?_trim, List.find?_eq_none.mpr fun c member => by
      simpa using List.all_eq_true.mp blank c member] at opens
    cases opens
  · exact other (opens_of_startsWithAny (by decide) annotation)

/-- What begins like a declaration and is no comment begins with a declaring character. -/
theorem opens_declaring (code : isCommentLine text = false) (opens : Opens Lead.isOpening text) :
    Opens isDeclaring text := by
  cases text with
  | nil => cases opens
  | cons c rest =>
      have notStar : c ≠ '*' := by
        rintro rfl
        simp [isCommentLine, Text.startsWithAny] at code
      simp only [Opens, List.head?_cons, Option.any_some, Lead.isOpening, Lead.isPlain,
        Bool.and_eq_true, bne_iff_ne] at opens
      simp [Opens, isDeclaring, opens.1.1.2, opens.1.2, opens.2, notStar]

/-- A line begins like a piece of it that reaches back to its beginning. -/
theorem opens_of_take {property : Char → Bool} {stop : Nat}
    (opens : Opens property (Text.trim (line.take stop))) : Opens property (Text.trim line) := by
  rw [Opens, Text.head?_trim, Option.any_eq_true] at opens ⊢
  obtain ⟨c, first, holds⟩ := opens
  exact ⟨c, List.IsPrefix.find?_eq_some (List.take_prefix stop line) first, holds⟩

end Documentation

namespace Outline

open Documentation (isDeclaring Joins sources)
open Lead (Opens)

variable {lines : List Text} {index : Nat}

/-! ## Where declarations begin -/

/-- Where a declaration begins, and what documents it. -/
structure Report where
  line : Nat
  documentation : Option Text
deriving DecidableEq, Repr

/-- The members of a class with the lines on which they begin. -/
def classMembers (lines : List Text) (found : Located ClassDeclaration) : List (Located Declaration) :=
  match Signature.find? lines found.firstLine {} Signature.defaultLineLimit Lead.classContinuations with
  | none => []
  | some signature =>
      membersFrom lines found.item.name 0 (classBody lines found.firstLine signature).segments

/-- What is reported of a declaration that has been located. -/
def report (found : Located Declaration) : Report :=
  ⟨found.firstLine, found.item.documentation⟩

/-- What is reported of a class and its members. -/
def reportsOfClass (lines : List Text) (found : Located ClassDeclaration) : List Report :=
  ⟨found.firstLine, found.item.documentation⟩ :: (classMembers lines found).map report

/-- What is reported of all declarations of a text. -/
def reports (lines : List Text) : List Report :=
  (locatedClasses lines).flatMap (reportsOfClass lines) ++ (locatedFunctions lines).map report

/-- What documents the declarations of an outline: each class and its members, then the functions. -/
def documentations (outline : Outline) : List (Option Text) :=
  outline.classes.flatMap (fun found =>
    found.documentation :: found.methods.map Declaration.documentation) ++
      outline.functions.map Declaration.documentation

/-- The body of a class opens on a line below the one on which the class begins. -/
def OpensBelow (lines : List Text) (index : Nat) : Prop :=
  ∃ found ∈ locatedClasses lines, ∃ signature place,
    Signature.find? lines found.firstLine {} Signature.defaultLineLimit Lead.classContinuations =
      some signature ∧
    signature.body = some place ∧ place.line = index ∧ found.firstLine < index

/-- A line begins with the declaration on it, or the body of a class opens on it, further down
than the class begins. -/
def Begins (lines : List Text) (index : Nat) : Prop :=
  (∃ line, lines[index]? = some line ∧ Opens isDeclaring (Text.trim line)) ∨ OpensBelow lines index

/-! ## Segments -/

/-- Only the first line of a body is not entered at its beginning. -/
theorem start_of_mem_bracedFrom {state : Delimiters} {offset : Nat} {segment : Segment}
    (member : segment ∈ (Body.bracedFrom state index offset lines).segments) :
    segment.start = 0 ∨ segment.line = index ∧ segment.start = offset := by
  induction lines generalizing state index offset with
  | nil => cases member
  | cons line later inductionHypothesis =>
      have here {stop : Option Nat} (shown : segment ∈ Body.shown state index offset stop line) :
          segment.line = index ∧ segment.start = offset := by
        obtain ⟨-, listed⟩ := List.mem_ite_nil_right.mp shown
        rw [List.mem_singleton.mp listed]
        exact ⟨rfl, rfl⟩
      cases halted : (state.feed line offset { atClose := true }).halt with
      | some pair =>
          rw [Body.bracedFrom_of_halt halted] at member
          exact Or.inr (here member)
      | none =>
          rw [Body.bracedFrom_of_end halted] at member
          rcases List.mem_append.mp member with first | below
          · exact Or.inr (here first)
          · exact Or.inl ((inductionHypothesis below).elim id And.right)

theorem start_of_mem_indentedFrom {base last : Nat} {level : Option Nat} {segment : Segment}
    (member : segment ∈ (Body.indentedFrom base level index last lines).segments) :
    segment.start = 0 := by
  induction lines generalizing level index last with
  | nil => cases member
  | cons line later inductionHypothesis =>
      rw [Body.indentedFrom] at member
      split at member
      · exact inductionHypothesis member
      dsimp only at member
      split at member
      · cases member
      rcases List.mem_append.mp member with first | below
      · obtain ⟨-, listed⟩ := List.mem_ite_nil_right.mp first
        rw [List.mem_singleton.mp listed]
      · exact inductionHypothesis below

/-- A segment begins its line, or the body opens on that line. -/
theorem start_of_mem_classBody {signature : Signature} {segment : Segment}
    (member : segment ∈ (classBody lines index signature).segments) :
    segment.start = 0 ∨ ∃ place, signature.body = some place ∧ segment.line = place.line := by
  rw [classBody] at member
  split at member
  · next place opens =>
      exact (start_of_mem_bracedFrom member).imp_right fun first => ⟨place, opens, first.1⟩
  split at member
  · exact Or.inl (start_of_mem_indentedFrom member)
  · cases member

/-! ## What is known of a report -/

/-- How a class is found: by the beginning of its line, with a signature and a body. -/
structure FoundOn (lines : List Text) (found : Located ClassDeclaration) (line : Text)
    (lead : Pattern.Match) (signature : Signature) : Prop where
  there : lines[found.firstLine]? = some line
  code : Documentation.isCommentLine (Text.trim line) = false
  matched : Lead.classLead.matchStart? (Text.trim line) = some lead
  named : lead.group? Lead.nameGroup = some found.item.name
  complete : Signature.find? lines found.firstLine {} Signature.defaultLineLimit
    Lead.classContinuations = some signature
  documentation : found.item.documentation = Documentation.above lines found.firstLine
  methods : found.item.methods = (membersFrom lines found.item.name 0
    (classBody lines found.firstLine signature).segments).map Located.item

theorem exists_foundOn {found : Located ClassDeclaration} (member : found ∈ locatedClasses lines) :
    ∃ line lead signature, FoundOn lines found line lead signature := by
  obtain ⟨start, at?⟩ := exists_of_mem_classesFrom member
  simp only [classAt?, Option.bind_eq_bind, Option.bind_eq_some_iff, Option.ite_none_left_eq_some,
    Option.some.injEq, Bool.not_eq_true] at at?
  obtain ⟨line, there, code, lead, matched, name, named, signature, complete, rfl⟩ := at?
  exact ⟨line, lead, signature, there, code, matched, named, complete, rfl, rfl⟩

/-- A class begins its line. -/
theorem opens_of_mem_locatedClasses {found : Located ClassDeclaration}
    (member : found ∈ locatedClasses lines) :
    ∃ line, lines[found.firstLine]? = some line ∧ Opens isDeclaring (Text.trim line) := by
  obtain ⟨line, lead, signature, isFound⟩ := exists_foundOn member
  exact ⟨line, isFound.there, Documentation.opens_declaring isFound.code
    (Lead.opens_of_matchStart? Lead.yields_classLead Lead.opens_classLead isFound.matched)⟩

/-- So does a function. -/
theorem opens_of_mem_locatedFunctions {found : Located Declaration}
    (member : found ∈ locatedFunctions lines) :
    found.item.documentation = Documentation.above lines found.firstLine ∧
      ∃ line, lines[found.firstLine]? = some line ∧ Opens isDeclaring (Text.trim line) := by
  obtain ⟨start, at?⟩ := exists_of_mem_functionsFrom member
  simp only [functionAt?, Option.bind_eq_bind, Option.bind_eq_some_iff, Option.ite_none_left_eq_some,
    Option.ite_none_right_eq_some, Option.some.injEq, Bool.or_eq_true, not_or,
    Bool.not_eq_true] at at?
  obtain ⟨line, there, ⟨visible, code⟩, candidate, named, signature, -, -, rfl⟩ := at?
  refine ⟨rfl, line, getElem?_of_withoutClasses there ?_,
    Documentation.opens_declaring code (Lead.opens_of_candidate? named)⟩
  rintro rfl
  cases visible

/-- A member begins its line, or stands on the line where the body of its class opens. -/
theorem begins_of_mem_classMembers {found : Located ClassDeclaration}
    (isClass : found ∈ locatedClasses lines) {member : Located Declaration}
    (listed : member ∈ classMembers lines found) :
    member.item.documentation = Documentation.above lines member.firstLine ∧
      Begins lines member.firstLine := by
  obtain ⟨_, lead, signature, isFound⟩ := exists_foundOn isClass
  rw [classMembers, isFound.complete] at listed
  obtain ⟨segment, among, inside⟩ := exists_of_mem_membersFrom listed
  have piece := segments_in isFound.complete segment among
  obtain ⟨name, memberNamed⟩ := named_of_mem_segment inside
  obtain ⟨_, _, -, declares, onLine', sameLine⟩ := exists_declares_of_mem_segment piece inside
  rw [sameLine]
  refine ⟨onLine' ▸ declares.documentation, ?_⟩
  rcases start_of_mem_classBody among with atStart | ⟨place, opens, onLine⟩
  · -- The segment begins as its line does, and a member is no comment.
    obtain ⟨line, there, -, text⟩ := piece
    rw [atStart, Text.slice, List.drop_zero] at text
    have code : Documentation.isCommentLine (Text.trim segment.text) = false := by
      rw [memberName?] at memberNamed
      exact Bool.not_eq_true _ ▸ (Option.ite_none_left_eq_some.mp memberNamed).1
    have opens := Documentation.opens_declaring code
      (Lead.opens_of_memberName? (Lead.opens_className isFound.matched isFound.named) memberNamed)
    rw [text] at opens
    exact Or.inl ⟨line, there, Documentation.opens_of_take opens⟩
  · obtain ⟨last, -, -⟩ := Signature.opensAt_find? isFound.complete opens
    have lower := (Signature.lastLine_find? isFound.complete).1
    by_cases first : found.firstLine = segment.line
    · rw [← first]
      exact Or.inl (opens_of_mem_locatedClasses isClass)
    · exact Or.inr ⟨found, isClass, signature, place, isFound.complete, opens, onLine.symm, by omega⟩

/-- A declaration is documented by what stands above its line. -/
theorem begins_of_mem_reports {report : Report} (member : report ∈ reports lines) :
    report.documentation = Documentation.above lines report.line ∧ Begins lines report.line := by
  rcases List.mem_append.mp member with ofClass | ofFunction
  · obtain ⟨found, isClass, listed⟩ := List.mem_flatMap.mp ofClass
    rcases List.mem_cons.mp listed with rfl | ofMember
    · obtain ⟨_, _, _, isFound⟩ := exists_foundOn isClass
      exact ⟨isFound.documentation, Or.inl (opens_of_mem_locatedClasses isClass)⟩
    · obtain ⟨member, inside, rfl⟩ := List.mem_map.mp ofMember
      exact begins_of_mem_classMembers isClass inside
  · obtain ⟨found, isFunction, rfl⟩ := List.mem_map.mp ofFunction
    obtain ⟨documentation, opens⟩ := opens_of_mem_locatedFunctions isFunction
    exact ⟨documentation, Or.inl opens⟩

/-- The reports of a text are those of its outline. -/
theorem documentations_ofText (text : Text) :
    (ofText text).documentations = (reports text.lines).map Report.documentation := by
  have classes : ∀ found ∈ locatedClasses text.lines,
      found.item.documentation :: found.item.methods.map Declaration.documentation =
        (reportsOfClass text.lines found).map Report.documentation := by
    intro found member
    obtain ⟨_, _, signature, isFound⟩ := exists_foundOn member
    rw [isFound.methods, reportsOfClass, classMembers, isFound.complete]
    simp [report, Function.comp_def]
  rw [documentations, ofText, reports, List.map_append, List.map_flatMap, List.flatMap_map,
    List.map_map, List.map_map]
  congr 1
  exact List.flatMap_congr classes

/-- A declaration is documented by the comments above its line.  No comment line contributes to
two declarations that begin on different lines, unless the upper one stands on the line where the
body of a class opens, that line is not the first of the class, and it begins like a comment or
an annotation. -/
theorem sources_apart (text : Text) :
    let lines := text.lines
    (ofText text).documentations = (reports lines).map Report.documentation ∧
    (∀ report ∈ reports lines, report.documentation = Documentation.above lines report.line) ∧
    ∀ upper ∈ reports lines, ∀ lower ∈ reports lines, upper.line < lower.line →
      (∀ source ∈ sources lines upper.line, source ∉ sources lines lower.line) ∨
      OpensBelow lines upper.line ∧ ∃ line, lines[upper.line]? = some line ∧ Joins line := by
  intro lines
  refine ⟨documentations_ofText text, fun report member => (begins_of_mem_reports member).1, ?_⟩
  intro upper isUpper lower isLower below
  have barrier {line : Text} (there : lines[upper.line]? = some line) (ends : ¬ Joins line) :
      ∀ source ∈ sources lines upper.line, source ∉ sources lines lower.line := by
    intro source above member
    have := (Documentation.mem_sources above).1
    have := Documentation.lt_of_mem_sources there ends below member
    omega
  rcases (begins_of_mem_reports isUpper).2 with ⟨line, there, opens⟩ | opensBelow
  · exact Or.inl (barrier there (Documentation.not_joins_of_opens opens))
  · obtain ⟨found, isClass, signature, place, complete, opens, here, -⟩ := id opensBelow
    obtain ⟨-, ⟨line, there, -⟩, -⟩ := Signature.opensAt_find? complete opens
    rw [here] at there
    by_cases joins : Joins line
    · exact Or.inr ⟨opensBelow, line, there, joins⟩
    · exact Or.inl (barrier there joins)

/-- A class and the members on its line have their documentation in common. -/
theorem sources_shared :
    let text : Text := "/// Doc\nclass Foo \x7b bar() \x7b\x7d baz(x) \x7b\x7d \x7d\n".toList
    (ofText text).documentations = List.replicate 3 (some "Doc".toList) ∧
      reports text.lines = List.replicate 3 ⟨1, some "Doc".toList⟩ ∧ sources text.lines 1 = [0] := by
  decide +kernel

end Outline
end Codemap
