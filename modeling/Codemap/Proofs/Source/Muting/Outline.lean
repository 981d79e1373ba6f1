import Codemap.Proofs.Source.Attribution
import Codemap.Proofs.Source.Muting.Comment
import Codemap.Proofs.Source.Muting.Signature

namespace Codemap

/-!
# Lines inside comments do not matter

A line inside a block comment may be emptied without any change of what is found, but for the
documentation, under some conditions.  Whether a line begins a declaration is decided by the line
alone, so a declaration that is commented out is found like any other; a signature keeps the text
of a block comment; and a body set off by indentation takes no notice of comments.  So no class
and no function must begin on the line, no search for a signature from above must come to it, and
every body that reaches it must open at a brace that is code as the text is read from its
beginning.

Functions are sought in the text without its classes, where the line must be inside a comment too:
the comment may open behind the end of a class.
-/

/-! ## What is found, but for the documentation -/

/-- A declaration without its documentation. -/
def Declaration.undocumented (declaration : Declaration) : Declaration :=
  { declaration with documentation := none }

/-- A class without its documentation and that of its members. -/
def ClassDeclaration.undocumented (declaration : ClassDeclaration) : ClassDeclaration :=
  { declaration with
    documentation := none, methods := declaration.methods.map Declaration.undocumented }

/-- An outline of names and signatures. -/
def Outline.undocumented (outline : Outline) : Outline where
  classes := outline.classes.map ClassDeclaration.undocumented
  functions := outline.functions.map Declaration.undocumented

/-- Something else that is located in the same place. -/
def Located.map {α β : Type} (change : α → β) (found : Located α) : Located β where
  item := change found.item
  firstLine := found.firstLine
  lastLine := found.lastLine

/-- A change of what is located does not depend on the places. -/
theorem Located.map_item {α β : Type} (change : α → β) (found : List (Located α)) :
    (found.map Located.item).map change = (found.map (Located.map change)).map Located.item := by
  rw [List.map_map, List.map_map]
  rfl

namespace Outline

open Reading (Commented)
open Lead (Opens)

/-! ## Bodies -/

/-- The body after a signature leaves a line of the text alone: it opens in code, or it ends above
and something stands between. -/
structure BodySpares (lines : List Text) (index : Nat) (signature : Signature) (number : Nat) :
    Prop where
  above : signature.lastLine < number
  opens : ∀ place, signature.body = some place → ⟨place, '{', .code⟩ ∈ Reading.ofLines 0 {} 0 lines
  bare : signature.body = none →
    VisibleBetween lines (classBody lines index signature).lastLine number

variable {lines : List Text} {index number limit : Nat} {words : List Text} {signature : Signature}

theorem lastLine_le_classBody (bodiless : signature.body = none) :
    signature.lastLine ≤ (classBody lines index signature).lastLine := by
  rw [classBody, bodiless]
  dsimp only
  split
  · exact (Body.indentedFrom_within _ none (Nat.lt_add_one signature.lastLine) _).1
  · exact Nat.le_refl _

theorem BodySpares.spares (spares : BodySpares lines index signature number) :
    signature.Spares lines number where
  above := spares.above
  bare := by
    intro bodiless
    obtain ⟨between, line, after, rest⟩ := spares.bare bodiless
    exact ⟨between, line, Nat.lt_of_le_of_lt (lastLine_le_classBody bodiless) after, rest⟩

/-- A line inside a comment may be emptied for a body that leaves it alone. -/
theorem classBody_set (commented : Commented lines number) (above : index < number)
    (complete : Signature.find? lines index {} limit words = some signature)
    (spares : BodySpares lines index signature number) :
    classBody (lines.set number []) index signature = classBody lines index signature := by
  cases opens : signature.body with
  | some place =>
      have last := (Signature.opensAt_find? complete opens).1
      rw [classBody, classBody, opens]
      exact Body.braced_set commented (last ▸ spares.above) (spares.opens place opens)
  | none =>
      have bare := spares.bare opens
      rw [classBody, opens] at bare
      rw [classBody, classBody, opens]
      dsimp only at bare ⊢
      split
      · next colon =>
          rw [if_pos colon] at bare
          exact Body.indented_set above spares.above bare
      · rfl

/-- A body is below the line on which its declaration begins. -/
theorem classBody_set_of_lt (below : number < index)
    (complete : Signature.find? lines index {} limit words = some signature) :
    classBody (lines.set number []) index signature = classBody lines index signature := by
  have lower := (Signature.lastLine_find? complete).1
  rw [classBody, classBody]
  cases opens : signature.body with
  | some place =>
      have last := (Signature.opensAt_find? complete opens).1
      dsimp only
      rw [Body.braced, Body.braced, List.drop_set_of_lt (by omega)]
  | none =>
      dsimp only
      rw [Body.indented, Body.indented, List.drop_set_of_lt (by omega), List.getD_eq_getElem?_getD,
        List.getElem?_set_ne (Nat.ne_of_lt below), ← List.getD_eq_getElem?_getD]

theorem classBody_set_of_spares (commented : Commented lines number) (elsewhere : index ≠ number)
    (complete : Signature.find? lines index {} limit words = some signature)
    (spares : index < number → BodySpares lines index signature number) :
    classBody (lines.set number []) index signature = classBody lines index signature := by
  rcases Nat.lt_or_gt_of_ne elsewhere with above | below
  · exact classBody_set commented above complete (spares above)
  · exact classBody_set_of_lt below complete

/-! ## Members -/

/-- A piece of a body in which a member is sought: a segment, or what a member leaves of one. -/
inductive PieceOfBody (lines : List Text) (segments : List Segment) : Segment → Prop
  | segment {segment : Segment} (listed : segment ∈ segments) : PieceOfBody lines segments segment
  | rest {piece rest : Segment} {signature : Signature} (whole : PieceOfBody lines segments piece)
      (complete : Signature.find? lines piece.line ⟨piece.start, piece.stop⟩
        Signature.defaultLineLimit [] = some signature)
      (left : restOfSegment lines piece signature = some rest) : PieceOfBody lines segments rest

/-- The signatures of the members of a body leave a line alone. -/
def MembersSpare (lines : List Text) (className : Text) (segments : List Segment) (number : Nat) :
    Prop :=
  ∀ piece, PieceOfBody lines segments piece → piece.line < number →
    (memberName? className (Text.trim piece.text)).isSome = true →
    ∀ signature, Signature.find? lines piece.line ⟨piece.start, piece.stop⟩
      Signature.defaultLineLimit [] = some signature → signature.Spares lines number

theorem restOfSegment_set {segment : Segment} (elsewhere : segment.line ≠ number) :
    restOfSegment (lines.set number []) segment signature = restOfSegment lines segment signature := by
  have same : (lines.set number []).getD segment.line [] = lines.getD segment.line [] := by
    rw [List.getD_eq_getElem?_getD, List.getElem?_set_ne elsewhere.symm, ← List.getD_eq_getElem?_getD]
  rw [restOfSegment, restOfSegment, same]

variable {className : Text} {segments : List Segment}

theorem memberName?_of_nil (opens : Opens Lead.isOpening className) : memberName? className [] = none := by
  cases named : memberName? className [] with
  | none => rfl
  | some name => cases Lead.opens_of_memberName? opens named

/-- A piece of an empty line is empty. -/
theorem text_of_emptied {segment : Segment} (piece : segment.In (lines.set number []))
    (here : segment.line = number) : segment.text = [] := by
  obtain ⟨line, there, -, text⟩ := piece
  rw [here, List.getElem?_set_self', Option.map_eq_map, Option.map_eq_some_iff] at there
  obtain ⟨_, _, rfl⟩ := there
  rw [text, Function.const, Text.slice, List.take_nil, List.drop_nil]

theorem membersOfSegment_set (opens : Opens Lead.isOpening className)
    (spare : MembersSpare lines className segments number) (fuel : Nat) {segment : Segment}
    (whole : PieceOfBody lines segments segment) (piece : segment.In lines)
    (piece' : segment.In (lines.set number [])) :
    (membersOfSegment (lines.set number []) className fuel segment).map
        (Located.map Declaration.undocumented) =
      (membersOfSegment lines className fuel segment).map (Located.map Declaration.undocumented) := by
  induction fuel generalizing segment with
  | zero => rfl
  | succ fuel inductionHypothesis =>
      rw [membersOfSegment, membersOfSegment]
      cases named : memberName? className (Text.trim segment.text) with
      | none => rfl
      | some name =>
          -- A piece of the line itself holds no member, as its text is empty in the other lines.
          have elsewhere : segment.line ≠ number := by
            intro here
            rw [text_of_emptied piece' here, Text.trim, Text.trimStart, List.dropWhile_nil,
              show Text.trimEnd [] = [] from rfl, memberName?_of_nil opens] at named
            cases named
          obtain ⟨line, there, -⟩ := id piece
          have inside := (List.getElem?_eq_some_iff.mp there).1
          have same : Signature.find? (lines.set number []) segment.line ⟨segment.start, segment.stop⟩
              Signature.defaultLineLimit [] = Signature.find? lines segment.line
                ⟨segment.start, segment.stop⟩ Signature.defaultLineLimit [] :=
            Signature.find?_set_of_spares inside elsewhere fun above =>
              spare segment whole above (by rw [named]; rfl)
          rw [same]
          cases complete : Signature.find? lines segment.line ⟨segment.start, segment.stop⟩
              Signature.defaultLineLimit [] with
          | none => rfl
          | some signature =>
              dsimp only
              rw [restOfSegment_set elsewhere]
              cases left : restOfSegment lines segment signature with
              | none => rfl
              | some rest =>
                  have onwards := restOfSegment_shorter piece complete left
                  have onwards' := restOfSegment_shorter piece' (same.trans complete)
                    ((restOfSegment_set elsewhere).trans left)
                  dsimp only
                  rw [List.map_cons, List.map_cons, inductionHypothesis (.rest whole complete left)
                    onwards.2.2.1 onwards'.2.2.1]
                  rfl

/-- The members of a body are the same. -/
theorem membersFrom_set (opens : Opens Lead.isOpening className)
    (spare : MembersSpare lines className segments number) (next : Nat) {later : List Segment}
    (listed : ∀ segment ∈ later, segment ∈ segments) (pieces : ∀ segment ∈ later, segment.In lines)
    (pieces' : ∀ segment ∈ later, segment.In (lines.set number [])) :
    (membersFrom (lines.set number []) className next later).map
        (Located.map Declaration.undocumented) =
      (membersFrom lines className next later).map (Located.map Declaration.undocumented) := by
  induction later generalizing next with
  | nil => rfl
  | cons segment later inductionHypothesis =>
      obtain ⟨isListed, listed⟩ := List.forall_mem_cons.mp listed
      obtain ⟨piece, pieces⟩ := List.forall_mem_cons.mp pieces
      obtain ⟨piece', pieces'⟩ := List.forall_mem_cons.mp pieces'
      have below (next : Nat) := inductionHypothesis next listed pieces pieces'
      rw [membersFrom, membersFrom]
      split
      · exact below next
      · have found := membersOfSegment_set opens spare (segment.text.length + 1) (.segment isListed)
          piece piece'
        generalize membersOfSegment (lines.set number []) className _ segment = first' at found ⊢
        generalize membersOfSegment lines className _ segment = first at found ⊢
        have last := congrArg (fun members => members.getLast?.map Located.lastLine) found
        dsimp only at last ⊢
        rw [List.getLast?_map, List.getLast?_map, Option.map_map, Option.map_map] at last
        rw [List.map_append, List.map_append, found]
        refine congrArg _ ?_
        cases one : first'.getLast? with
        | none =>
            cases two : first.getLast? with
            | none => exact below next
            | some other =>
                rw [one, two] at last
                cases last
        | some other' =>
            cases two : first.getLast? with
            | none =>
                rw [one, two] at last
                cases last
            | some other =>
                rw [one, two] at last
                have reached : other'.lastLine = other.lastLine := Option.some.inj last
                dsimp only
                rw [reached]
                exact below _

/-! ## Classes -/

/-- A class leaves a line alone: it does not begin there, and neither its body nor the signatures
of its members come to it. -/
structure ClassSpares (lines : List Text) (number : Nat) (found : Located ClassDeclaration) :
    Prop where
  elsewhere : found.firstLine ≠ number
  body : ∀ signature, Signature.find? lines found.firstLine {} Signature.defaultLineLimit
    Lead.classContinuations = some signature → found.firstLine < number →
    BodySpares lines found.firstLine signature number
  members : ∀ signature, Signature.find? lines found.firstLine {} Signature.defaultLineLimit
    Lead.classContinuations = some signature → MembersSpare lines found.item.name
    (classBody lines found.firstLine signature).segments number

/-- The class on a line is the same, whatever its documentation. -/
theorem classAt?_set (commented : Commented lines number) (elsewhere : index ≠ number)
    (spares : ∀ found, classAt? lines index = some found → ClassSpares lines number found) :
    (classAt? (lines.set number []) index).map (Located.map ClassDeclaration.undocumented) =
      (classAt? lines index).map (Located.map ClassDeclaration.undocumented) := by
  rw [classAt?, classAt?, List.getElem?_set_ne elsewhere.symm]
  cases there : lines[index]? with
  | none => rfl
  | some line =>
      rw [classAt?, there] at spares
      simp only [Option.bind_eq_bind, Option.bind_some] at spares ⊢
      by_cases comment : Documentation.isCommentLine (Text.trim line) = true
      · rw [if_pos comment, if_pos comment]
      rw [if_neg comment] at spares
      rw [if_neg comment, if_neg comment]
      cases matched : Lead.classLead.matchStart? (Text.trim line) with
      | none => rfl
      | some lead =>
          rw [matched] at spares
          simp only [Option.bind_some] at spares ⊢
          cases named : lead.group? Lead.nameGroup with
          | none => rfl
          | some name =>
              rw [named] at spares
              simp only [Option.bind_some] at spares ⊢
              have inside := (List.getElem?_eq_some_iff.mp there).1
              obtain ⟨signature, complete⟩ := Option.isSome_iff_exists.mp (Signature.find?_isSome inside
                {} Signature.defaultLineLimit Lead.classContinuations)
              rw [complete] at spares
              obtain ⟨-, body, members⟩ := spares _ rfl
              have same := (Signature.find?_set_of_spares inside elsewhere fun above signature complete =>
                (body signature complete above).spares).trans complete
              have bodies := classBody_set_of_spares commented elsewhere complete (body signature complete)
              have found := membersFrom_set (Lead.opens_className matched named)
                (members signature complete) 0 (fun _ listed => listed) (segments_in complete)
                (bodies ▸ segments_in same)
              rw [same, complete]
              simp only [Option.bind_some, Option.map_some, Option.some.injEq, bodies, Located.map,
                ClassDeclaration.undocumented, Located.map_item]
              have methods := congrArg (List.map Located.item) found
              dsimp only at methods
              rw [methods]

/-- The classes from a line on are the same. -/
theorem classesFrom_set (commented : Commented lines number) {fuel : Nat}
    (spares : ∀ found ∈ classesFrom lines fuel index, ClassSpares lines number found) :
    (classesFrom (lines.set number []) fuel index).map (Located.map ClassDeclaration.undocumented) =
      (classesFrom lines fuel index).map (Located.map ClassDeclaration.undocumented) := by
  induction fuel generalizing index with
  | zero => rfl
  | succ fuel inductionHypothesis =>
      rw [classesFrom] at spares
      rw [classesFrom, classesFrom, List.length_set]
      split
      · rfl
      next inside =>
      rw [if_neg inside] at spares
      have at? : (classAt? (lines.set number []) index).map (Located.map ClassDeclaration.undocumented) =
          (classAt? lines index).map (Located.map ClassDeclaration.undocumented) := by
        have found (found : Located ClassDeclaration) (at? : classAt? lines index = some found) :
            ClassSpares lines number found :=
          spares found (by rw [at?]; exact List.mem_cons_self)
        by_cases here : index = number
        · have none' : classAt? lines index = none := by
            cases at? : classAt? lines index with
            | none => rfl
            | some other => exact absurd ((classAt?_within at?).1.trans here) (found other at?).elsewhere
          rw [none', classAt?_of_blank (by rw [here, List.getElem?_set_self (by omega)]) rfl]
        · exact classAt?_set commented here found
      cases one : classAt? lines index with
      | none =>
          rw [one, Option.map_none, Option.map_eq_none_iff] at at?
          rw [one] at spares
          rw [at?]
          exact inductionHypothesis spares
      | some found =>
          rw [one, Option.map_some, Option.map_eq_some_iff] at at?
          obtain ⟨found', two, same⟩ := at?
          rw [one] at spares
          rw [two]
          dsimp only at spares ⊢
          have last := congrArg Located.lastLine same
          change found'.lastLine = found.lastLine at last
          rw [List.map_cons, List.map_cons, same, last,
            inductionHypothesis fun other later => spares other (List.mem_cons_of_mem found later)]

/-! ## The lines without the classes -/

/-- The lines of the classes depend on their places only. -/
theorem any_covers_map {α β : Type} (change : α → β) (found : List (Located α)) (index : Nat) :
    ((found.map (Located.map change)).any fun found => Located.covers found index) =
      found.any fun found => Located.covers found index := by
  rw [List.any_map]
  rfl

theorem withoutClasses_set {classes classes' : List (Located ClassDeclaration)}
    (same : classes'.map (Located.map ClassDeclaration.undocumented) =
      classes.map (Located.map ClassDeclaration.undocumented)) :
    withoutClasses (lines.set number []) classes' = (withoutClasses lines classes).set number [] := by
  have covers (index : Nat) : (classes'.any fun found => Located.covers found index) =
      classes.any fun found => Located.covers found index := by
    rw [← any_covers_map, same, any_covers_map]
  apply List.ext_getElem?
  intro index
  rw [withoutClasses, List.getElem?_mapIdx, withoutClasses]
  by_cases here : index = number
  · subst here
    rw [List.getElem?_set_self', List.getElem?_set_self', List.getElem?_mapIdx]
    cases lines[index]? with
    | none => rfl
    | some line => simp
  · rw [List.getElem?_set_ne (Ne.symm here), List.getElem?_set_ne (Ne.symm here), List.getElem?_mapIdx,
      covers]

/-! ## Functions -/

variable {whole whole' others : List Text}

/-- A line on which a function is sought. -/
def IsCandidate (lines : List Text) (index : Nat) : Prop :=
  ∃ line, lines[index]? = some line ∧ Documentation.isCommentLine (Text.trim line) = false ∧
    (candidate? (Text.trim line)).isSome = true

/-- The function on a line is the same if its search and its body are. -/
theorem functionAt?_agree (line : others[index]? = lines[index]?)
    (search : IsCandidate lines index →
      Signature.find? others index {} Signature.defaultLineLimit [] =
        Signature.find? lines index {} Signature.defaultLineLimit [])
    (body : ∀ found, functionAt? whole lines index = some found → ∀ signature,
      Signature.find? lines index {} Signature.defaultLineLimit [] = some signature →
      classBody others index signature = classBody lines index signature) :
    (functionAt? whole' others index).map (Located.map Declaration.undocumented) =
      (functionAt? whole lines index).map (Located.map Declaration.undocumented) := by
  rw [functionAt?, functionAt?, line]
  cases there : lines[index]? with
  | none => rfl
  | some line =>
      rw [functionAt?, there] at body
      simp only [Option.bind_eq_bind, Option.bind_some] at body ⊢
      by_cases passed : ((Text.trim line).isEmpty || Documentation.isCommentLine (Text.trim line)) = true
      · rw [if_pos passed, if_pos passed]
      rw [if_neg passed] at body
      rw [if_neg passed, if_neg passed]
      cases named : candidate? (Text.trim line) with
      | none => rfl
      | some candidate =>
          have code := (Bool.or_eq_false_iff.mp (Bool.not_eq_true _ ▸ passed)).2
          rw [search ⟨line, there, code, by rw [named]; rfl⟩]
          rw [named] at body
          simp only [Option.bind_some] at body ⊢
          cases complete : Signature.find? lines index {} Signature.defaultLineLimit [] with
          | none => rfl
          | some signature =>
              rw [complete] at body
              simp only [Option.bind_some] at body ⊢
              by_cases declares : (candidate.declared || signature.hasBody ||
                  signature.text.endsWithAny [":".toList, "=>".toList]) = true
              · rw [if_pos declares] at body
                rw [if_pos declares, if_pos declares]
                have same := body _ rfl signature rfl
                simp only [Option.map_some, Located.map, Declaration.undocumented, functionEnd, same]
              · rw [if_neg declares, if_neg declares]

/-- The functions from a line on are the same if they are on each line that is tried. -/
theorem functionsFrom_agree (length : others.length = lines.length) {fuel : Nat}
    (agree : ∀ tried, index ≤ tried → tried < lines.length →
      (∀ found ∈ functionsFrom whole lines fuel index,
        ¬ (found.firstLine < tried ∧ tried ≤ found.lastLine)) →
      (∀ found, functionAt? whole lines tried = some found →
        found ∈ functionsFrom whole lines fuel index) →
      (functionAt? whole' others tried).map (Located.map Declaration.undocumented) =
        (functionAt? whole lines tried).map (Located.map Declaration.undocumented)) :
    (functionsFrom whole' others fuel index).map (Located.map Declaration.undocumented) =
      (functionsFrom whole lines fuel index).map (Located.map Declaration.undocumented) := by
  induction fuel generalizing index with
  | zero => rfl
  | succ fuel inductionHypothesis =>
      by_cases beyond : lines.length ≤ index
      · rw [functionsFrom, functionsFrom, length, if_pos beyond, if_pos beyond]
      -- The first line is tried, since everything that is found begins there or below.
      have at? := agree index (Nat.le_refl index) (Nat.lt_of_not_le beyond)
        (fun found member inside => by
          have := ((functionsFrom_ascending whole lines (fuel + 1) index).1.mem member).1
          omega)
        (fun found at? => by rw [functionsFrom, if_neg beyond, at?]; exact List.mem_cons_self)
      cases one : functionAt? whole lines index with
      | none =>
          have list : functionsFrom whole lines (fuel + 1) index =
              functionsFrom whole lines fuel (index + 1) := by
            rw [functionsFrom, if_neg beyond, one]
          rw [one, Option.map_none, Option.map_eq_none_iff] at at?
          rw [list] at agree
          rw [list, functionsFrom, length, if_neg beyond, at?]
          exact inductionHypothesis fun tried lower => agree tried (by omega)
      | some found =>
          have list : functionsFrom whole lines (fuel + 1) index =
              found :: functionsFrom whole lines fuel (found.lastLine + 1) := by
            rw [functionsFrom, if_neg beyond, one]
          rw [one, Option.map_some, Option.map_eq_some_iff] at at?
          obtain ⟨found', two, same⟩ := at?
          have last := congrArg Located.lastLine same
          change found'.lastLine = found.lastLine at last
          have span := (functionAt?_within one).2.1
          rw [list] at agree
          rw [list, functionsFrom, length, if_neg beyond, two]
          dsimp only
          rw [List.map_cons, List.map_cons, same, last]
          refine congrArg _ (inductionHypothesis fun tried lower upper outside found => ?_)
          refine agree tried (by omega) upper (List.forall_mem_cons.mpr ⟨by omega, outside⟩)
            fun other at? => List.mem_cons_of_mem _ (found other at?)

/-- The functions of a text leave a line alone: the line lies inside a comment, none of them begins
there, no search from above comes to it, and none of the bodies. -/
structure FunctionsSpare (whole lines : List Text) (number : Nat) : Prop where
  commented : Commented lines number
  searches : ∀ index < number, IsCandidate lines index →
    (∀ found ∈ functionsFrom whole lines lines.length 0,
      ¬ (found.firstLine < index ∧ index ≤ found.lastLine)) →
    ∀ signature, Signature.find? lines index {} Signature.defaultLineLimit [] = some signature →
      signature.Spares lines number
  elsewhere : ∀ found ∈ functionsFrom whole lines lines.length 0, found.firstLine ≠ number
  bodies : ∀ found ∈ functionsFrom whole lines lines.length 0, found.firstLine < number →
    ∀ signature, Signature.find? lines found.firstLine {} Signature.defaultLineLimit [] =
      some signature → BodySpares lines found.firstLine signature number

theorem functionsFrom_set (spare : FunctionsSpare whole lines number) :
    (functionsFrom whole' (lines.set number []) lines.length 0).map
        (Located.map Declaration.undocumented) =
      (functionsFrom whole lines lines.length 0).map (Located.map Declaration.undocumented) := by
  refine functionsFrom_agree List.length_set fun tried _ inside outside listed => ?_
  by_cases here : tried = number
  · have none' : functionAt? whole lines tried = none := by
      cases at? : functionAt? whole lines tried with
      | none => rfl
      | some found =>
          exact absurd ((functionAt?_within at?).1.trans here) (spare.elsewhere found (listed found at?))
    rw [none', functionAt?_of_blank (by rw [here, List.getElem?_set_self (by omega)]) rfl]
  · refine functionAt?_agree (List.getElem?_set_ne (Ne.symm here)) (fun candidate => ?_)
      fun found at? signature complete => ?_
    · exact Signature.find?_set_of_spares inside here fun above =>
        spare.searches tried above candidate outside
    · obtain ⟨first, -⟩ := functionAt?_within at?
      have body := spare.bodies found (listed found at?)
      rw [first] at body
      exact classBody_set_of_spares spare.commented here complete fun above =>
        body above signature complete

/-- The documentation of a function is sought elsewhere. -/
theorem functionsFrom_whole (whole whole' lines : List Text) (fuel : Nat) :
    (functionsFrom whole' lines fuel index).map (Located.map Declaration.undocumented) =
      (functionsFrom whole lines fuel index).map (Located.map Declaration.undocumented) :=
  functionsFrom_agree rfl fun _ _ _ _ _ =>
    functionAt?_agree rfl (fun _ => rfl) fun _ _ _ _ => rfl

/-- A line of a class is empty in the text without the classes. -/
theorem withoutClasses_set_of_covers {classes : List (Located ClassDeclaration)}
    (covered : (classes.any fun found => Located.covers found number) = true) :
    (withoutClasses lines classes).set number [] = withoutClasses lines classes := by
  obtain ⟨found, member, covers⟩ := List.any_eq_true.mp covered
  by_cases inside : number < lines.length
  · have empty := withoutClasses_of_covers member covers inside
    obtain ⟨within, here⟩ := List.getElem?_eq_some_iff.mp empty
    conv_lhs => rw [← here]
    exact List.set_getElem_self within
  · exact List.set_eq_of_length_le (by rw [length_withoutClasses]; omega)

/-! ## The outline -/

/-- Nothing that is found depends on a line: it lies inside a block comment, and no declaration
comes to it.  In the text without the classes it may be one of the emptied lines. -/
structure Muted (lines : List Text) (number : Nat) : Prop where
  commented : Commented lines number
  classes : ∀ found ∈ locatedClasses lines, ClassSpares lines number found
  functions : ((locatedClasses lines).any fun found => Located.covers found number) = true ∨
    FunctionsSpare lines (withoutClasses lines (locatedClasses lines)) number

/-- A line inside a block comment to which no declaration comes may be emptied: the names and the
signatures of classes, members and functions stay as they are. -/
theorem undocumented_ofText_of_muted {text other : Text} {number : Nat}
    (muted : Muted text.lines number) (emptied : other.lines = text.lines.set number []) :
    (ofText other).undocumented = (ofText text).undocumented := by
  have classes : (locatedClasses other.lines).map (Located.map ClassDeclaration.undocumented) =
      (locatedClasses text.lines).map (Located.map ClassDeclaration.undocumented) := by
    rw [locatedClasses, emptied, List.length_set]
    exact classesFrom_set muted.commented muted.classes
  have functions : (locatedFunctions other.lines).map (Located.map Declaration.undocumented) =
      (locatedFunctions text.lines).map (Located.map Declaration.undocumented) := by
    have outside : withoutClasses other.lines (locatedClasses other.lines) =
        (withoutClasses text.lines (locatedClasses text.lines)).set number [] := by
      rw [emptied] at classes ⊢
      exact withoutClasses_set classes
    have length : other.lines.length =
        (withoutClasses text.lines (locatedClasses text.lines)).length := by
      rw [emptied, List.length_set, length_withoutClasses]
    rw [locatedFunctions, locatedFunctions, outside, length,
      ← length_withoutClasses text.lines (locatedClasses text.lines)]
    rcases muted.functions with covered | spare
    · rw [withoutClasses_set_of_covers covered]
      exact functionsFrom_whole _ _ _ _
    · exact functionsFrom_set spare
  rw [undocumented, undocumented, ofText, ofText]
  dsimp only
  rw [Located.map_item, Located.map_item, Located.map_item, Located.map_item, classes, functions]

theorem undocumented_ofText_of_body :
    let text : Text := "function g() \x7b\n  /*\n   old();\n  */\n\x7d\n".toList
    let other : Text := "function g() \x7b\n  /*\n\n  */\n\x7d\n".toList
    Muted text.lines 2 ∧ other.lines = text.lines.set 2 [] ∧
      (ofText other).undocumented = (ofText text).undocumented := by
  intro text other
  let found : Located Declaration := ⟨{ name := "g".toList, signature := "function g()".toList }, 0, 4⟩
  let signature : Signature := ⟨"function g()".toList, 0, 0, some ⟨0, 13⟩⟩
  have noClass : locatedClasses text.lines = [] := by decide +kernel
  have whole : withoutClasses text.lines [] = text.lines := by decide +kernel
  have functions : functionsFrom text.lines text.lines text.lines.length 0 = [found] := by decide +kernel
  have complete : Signature.find? text.lines 0 {} Signature.defaultLineLimit [] = some signature := by
    decide +kernel
  have commented : Commented text.lines 2 := ⟨by decide +kernel, by decide +kernel⟩
  have body : BodySpares text.lines 0 signature 2 := by
    refine ⟨by decide, ?_, fun bodiless => by cases bodiless⟩
    rintro _ ⟨⟩
    decide +kernel
  have same {other : Signature} (complete' : Signature.find? text.lines 0 {}
      Signature.defaultLineLimit [] = some other) : other = signature :=
    Option.some.inj (complete'.symm.trans complete)
  have spare : FunctionsSpare text.lines text.lines 2 := by
    constructor
    case commented => exact commented
    case searches =>
      rw [functions]
      intro index above _ outside other complete'
      have strictly := outside found (List.mem_singleton_self found)
      obtain rfl : index = 0 := by
        dsimp only [found] at strictly
        omega
      rw [same complete']
      exact body.spares
    case elsewhere =>
      rw [functions]
      decide
    case bodies =>
      rw [functions]
      intro other member _ signature' complete'
      obtain rfl := List.mem_singleton.mp member
      rw [same complete']
      exact body
  have muted : Muted text.lines 2 := by
    refine ⟨commented, ?_, Or.inr ?_⟩
    · rw [noClass]
      exact fun _ member => by cases member
    · rw [noClass, whole]
      exact spare
  exact ⟨muted, by decide +kernel, undocumented_ofText_of_muted muted (by decide +kernel)⟩

/-- A class that is commented out is found, and is not once its line has been emptied. -/
theorem undocumented_ofText_of_commented_class :
    let text : Text := "/*\nclass Foo \x7b\n\x7d\n*/\n".toList
    let other : Text := "/*\n\n\x7d\n*/\n".toList
    Commented text.lines 1 ∧ other.lines = text.lines.set 1 [] ∧
      (ofText other).isEmpty = true ∧
      (ofText text).undocumented = { classes := [⟨"Foo".toList, "class Foo".toList, none, []⟩] } := by
  intro text other
  exact ⟨⟨by decide +kernel, by decide +kernel⟩, by decide +kernel, by decide +kernel, by decide +kernel⟩

end Outline
end Codemap
