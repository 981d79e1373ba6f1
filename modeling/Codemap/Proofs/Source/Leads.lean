import Codemap.Proofs.Pattern.Sound
import Codemap.Source.Outline

namespace Codemap
namespace Lead

/-!
# The texts of the leads

The beginning of a line that a lead has matched is a text that the lead spells.  What all these
texts have in common is read off the parts of the lead.  A declaration with parameters begins with
a character that opens neither a literal nor a comment, and its lead ends in an opening
parenthesis.  Between the two there is something else than words, blanks and marks of types only
where a lead has angle brackets, or a receiver in parentheses.
-/

open Pattern Pattern.Node

/-! ## How a text begins -/

/-- The text is empty or begins with a character that has a property. -/
def MayOpen (property : Char → Bool) (text : Text) : Prop :=
  text.head?.all property = true

/-- The text begins with a character that has a property. -/
def Opens (property : Char → Bool) (text : Text) : Prop :=
  text.head?.any property = true

instance (property : Char → Bool) (text : Text) : Decidable (Opens property text) :=
  inferInstanceAs (Decidable (_ = _))

section Opens

variable {property : Char → Bool} {left right text : Text}

theorem Opens.mayOpen (opens : Opens property text) : MayOpen property text := by
  cases text with
  | nil => rfl
  | cons c rest => exact opens

/-- What stands behind the first character does not matter. -/
theorem Opens.append (opens : Opens property left) (right : Text) : Opens property (left ++ right) := by
  cases left with
  | nil => cases opens
  | cons c rest => exact opens

theorem Opens.imp {weaker : Char → Bool} (imp : ∀ c, property c = true → weaker c = true)
    (opens : Opens property text) : Opens weaker text := by
  cases text with
  | nil => cases opens
  | cons c rest => exact imp c opens

theorem MayOpen.append_opens (early : MayOpen property left) (late : Opens property right) :
    Opens property (left ++ right) := by
  cases left with
  | nil => exact late
  | cons c rest => exact early

theorem compositional_mayOpen (property : Char → Bool) : Compositional (MayOpen property) where
  nil := rfl
  append := by
    intro left right early late
    cases left with
    | nil => exact late
    | cons c rest => exact early

variable {first second : Node} {others : List Node}

theorem opens_cat (opens : first.Gives (Opens property)) (second : Node) :
    (Node.cat first second).Gives (Opens property) :=
  gives_cat (fun _ right early (_ : True) => early.append right) opens fun _ _ => trivial

theorem opens_seq (opens : first.Gives (Opens property)) (others : List Node) :
    (seq (first :: others)).Gives (Opens property) :=
  gives_seq_cons (fun _ right early (_ : True) => early.append right) opens fun _ _ => trivial

/-- A pattern that may spell nothing stands before others. -/
theorem opens_seq_later (mayOpen : first.Gives (MayOpen property))
    (opens : (seq others).Gives (Opens property)) : (seq (first :: others)).Gives (Opens property) :=
  gives_seq_cons (fun _ _ early late => early.append_opens late) mayOpen opens

theorem mayOpen_opt (opens : first.Gives (Opens property)) : (opt first).Gives (MayOpen property) :=
  gives_opt rfl (opens.imp fun _ => Opens.mayOpen)

theorem mayOpen_many (opens : first.Gives (Opens property)) : (many first).Gives (MayOpen property) :=
  gives_rep (compositional_mayOpen property) (opens.imp fun _ => Opens.mayOpen)

theorem opens_atLeastOne (opens : first.Gives (Opens property)) :
    (atLeastOne first).Gives (Opens property) := by
  rintro text (_ | _ | _ | _ | _ | _ | ⟨texts, each, enough, -⟩)
  cases texts with
  | nil => cases enough
  | cons text rest => exact (opens text (each text List.mem_cons_self)).append rest.flatten

end Opens

/-! ## The beginning of a declaration -/

/-- A character that opens neither a literal nor a comment. -/
def isPlain (c : Char) : Bool :=
  !isQuote c && c != '/' && c != '#'

/-- A plain character that does not begin an annotation either. -/
def isOpening (c : Char) : Bool :=
  isPlain c && c != '@'

theorem Opens.plain {text : Text} (opens : Opens isOpening text) : Opens isPlain text :=
  opens.imp fun _ opening => (Bool.and_eq_true_iff.mp opening).1

/-- A class has none of some characters. -/
def Lacks (cls : CharClass) (excluded : List Char) : Prop :=
  excluded.all (fun c => !cls.contains c) = true

instance (cls : CharClass) (excluded : List Char) : Decidable (Lacks cls excluded) :=
  inferInstanceAs (Decidable (_ = _))

theorem Lacks.ne {cls : CharClass} {excluded : List Char} {c : Char} (lacks : Lacks cls excluded)
    (listed : cls.contains c = true) : ∀ d ∈ excluded, c ≠ d := by
  rintro d member rfl
  have absent := List.all_eq_true.mp lacks c member
  rw [listed] at absent
  cases absent

/-- A class that lacks six characters has opening ones only. -/
theorem isOpening_of_contains {cls : CharClass} {c : Char}
    (lacks : Lacks cls ['\x27', '\x22', '\x60', '/', '#', '@'])
    (listed : cls.contains c = true) : isOpening c = true := by
  have ne := lacks.ne listed
  simp [isOpening, isPlain, isQuote, ne '\x27' (by decide), ne '\x22' (by decide),
    ne '\x60' (by decide), ne '/' (by decide), ne '#' (by decide), ne '@' (by decide)]

theorem opens_oneOf {cls : CharClass} (lacks : Lacks cls ['\x27', '\x22', '\x60', '/', '#', '@']) :
    (Node.oneOf cls).Gives (Opens isOpening) :=
  gives_oneOf fun _ listed => isOpening_of_contains lacks listed

theorem opens_name : name.Gives (Opens isOpening) :=
  opens_atLeastOne (opens_oneOf (by decide))

theorem opens_functionWord : functionWord.Gives (Opens isOpening) :=
  opens_cat (gives_text (by decide)) _

theorem opens_modifiers : modifiers.Gives (MayOpen isOpening) := by
  refine mayOpen_many (opens_cat (gives_choice ?_) _)
  simp only [List.forall_mem_cons, List.not_mem_nil, false_implies, implies_true, and_true]
  exact ⟨gives_words (by decide), opens_cat (gives_text (by decide)) _, gives_words (by decide),
    opens_functionWord⟩

theorem opens_angles : angles.Gives (Opens isOpening) :=
  opens_seq (gives_char (by decide)) _

theorem mayOpen_typeParameters : typeParameters.Gives (MayOpen isOpening) :=
  mayOpen_opt (opens_cat opens_angles _)

theorem opens_typeText : typeText.Gives (Opens isOpening) :=
  opens_seq (opens_atLeastOne (opens_oneOf (by decide))) _

theorem opens_methodLead : methodLead.Gives (Opens isOpening) :=
  opens_seq_later opens_modifiers <| opens_seq_later mayOpen_typeParameters <|
    opens_seq_later (mayOpen_opt opens_typeText) <|
      opens_seq_later (mayOpen_opt (gives_char (by decide))) <|
        opens_seq (gives_group opens_name) _

theorem opens_getterLead : getterLead.Gives (Opens isOpening) :=
  opens_seq_later opens_modifiers <| opens_seq_later (mayOpen_opt opens_typeText) <|
    opens_seq (gives_text (by decide)) _

theorem opens_setterLead : setterLead.Gives (Opens isOpening) :=
  opens_seq_later opens_modifiers <| opens_seq_later (mayOpen_opt opens_typeText) <|
    opens_seq (gives_text (by decide)) _

/-- A constructor begins with the name of the class or with a word. -/
theorem opens_constructorLead {className : Text} (opens : Opens isOpening className) :
    (constructorLead className).Gives (Opens isOpening) := by
  refine opens_seq_later (mayOpen_many (opens_cat (gives_words (by decide)) _)) ?_
  refine opens_seq (gives_alt (opens_cat (gives_text opens) _) ?_) _
  exact gives_group (gives_words (by decide))

theorem opens_functionWords : functionWords.Gives (Opens isOpening) := by
  refine gives_choice ?_
  simp only [List.forall_mem_cons, List.not_mem_nil, false_implies, implies_true, and_true]
  exact ⟨gives_words (by decide), opens_functionWord, gives_text (by decide)⟩

theorem opens_functionLead : functionLead.Gives (Opens isOpening) :=
  opens_seq_later opens_modifiers <|
    opens_seq_later (mayOpen_opt (gives_group (opens_seq opens_functionWords _))) <|
      opens_seq_later mayOpen_typeParameters <|
        opens_seq_later (mayOpen_opt (gives_group opens_typeText)) <|
          opens_seq_later (mayOpen_opt (gives_char (by decide))) <|
            opens_seq_later (mayOpen_opt (gives_char (by decide))) <|
              opens_seq (gives_group opens_name) _

theorem mayOpen_optWord {word : String} (opens : Opens isOpening word.toList) :
    (optWord word).Gives (MayOpen isOpening) :=
  mayOpen_opt (opens_cat (gives_text opens) _)

theorem opens_classLead : classLead.Gives (Opens isOpening) :=
  opens_seq_later (mayOpen_optWord (by decide)) <| opens_seq_later (mayOpen_optWord (by decide)) <|
    opens_seq_later (mayOpen_many (opens_cat (gives_words (by decide)) _)) <|
      opens_seq (gives_words (by decide)) _

theorem opens_arrowLead : arrowLead.Gives (Opens isOpening) :=
  opens_seq_later (mayOpen_optWord (by decide)) <| opens_seq (gives_words (by decide)) _

/-! ## How a lead with parameters ends -/

/-- The text ends in an opening parenthesis. -/
def Closes (text : Text) : Prop :=
  text.getLast? = some '('

section Closes

variable {first last : Node} {others : List Node}

theorem closes_last (closes : last.Gives Closes) : (seq [last]).Gives Closes :=
  closes

theorem closes_seq_later (first : Node) (closes : (seq others).Gives Closes) :
    (seq (first :: others)).Gives Closes := by
  refine gives_seq_cons (fun left right (_ : True) late => ?_) (fun _ _ => trivial) closes
  rw [Closes, List.getLast?_append, show right.getLast? = some '(' from late]
  rfl

theorem closes_parameters : parameters.Gives Closes :=
  closes_seq_later _ <| closes_seq_later _ <| closes_seq_later _ <| closes_last (gives_char rfl)

theorem closes_methodLead : methodLead.Gives Closes :=
  closes_seq_later _ <| closes_seq_later _ <| closes_seq_later _ <| closes_seq_later _ <|
    closes_seq_later _ <| closes_last closes_parameters

theorem closes_setterLead : setterLead.Gives Closes :=
  closes_seq_later _ <| closes_seq_later _ <| closes_seq_later _ <| closes_seq_later _ <|
    closes_seq_later _ <| closes_seq_later _ <| closes_last (gives_char rfl)

theorem closes_constructorLead (className : Text) : (constructorLead className).Gives Closes :=
  closes_seq_later _ <| closes_seq_later _ <| closes_seq_later _ <| closes_last (gives_char rfl)

theorem closes_functionLead : functionLead.Gives Closes :=
  closes_seq_later _ <| closes_seq_later _ <| closes_seq_later _ <| closes_seq_later _ <|
    closes_seq_later _ <| closes_seq_later _ <| closes_seq_later _ <| closes_last closes_parameters

end Closes

/-! ## What stands in a lead with parameters -/

/-- A character that neither ends a signature nor begins a comment. -/
def isCalm (c : Char) : Bool :=
  c != '\x7b' && c != ';' && c != '/' && c != '#'

/-- There are calm characters only, unless there are brackets in which anything may stand. -/
def Calm (text : Text) : Prop :=
  '<' ∈ text ∨ ')' ∈ text ∨ text.all isCalm = true

instance (text : Text) : Decidable (Calm text) :=
  inferInstanceAs (Decidable (_ ∨ _ ∨ _))

section Calm

theorem compositional_calm : Compositional Calm where
  nil := Or.inr (Or.inr rfl)
  append := by
    rintro left right early late
    rcases early with angle | paren | early
    · exact Or.inl (List.mem_append_left right angle)
    · exact Or.inr (Or.inl (List.mem_append_left right paren))
    rcases late with angle | paren | late
    · exact Or.inl (List.mem_append_right left angle)
    · exact Or.inr (Or.inl (List.mem_append_right left paren))
    · exact Or.inr (Or.inr (by rw [List.all_append, early, late]; rfl))

theorem calm_oneOf {cls : CharClass} (lacks : Lacks cls ['\x7b', ';', '/', '#']) :
    (Node.oneOf cls).Gives Calm := by
  refine gives_oneOf fun c listed => Or.inr (Or.inr ?_)
  have ne := lacks.ne listed
  simp [isCalm, ne '\x7b' (by decide), ne ';' (by decide), ne '/' (by decide), ne '#' (by decide)]

variable {node first second : Node} {others : List Node}

theorem calm_many (calm : node.Gives Calm) : (many node).Gives Calm :=
  gives_rep compositional_calm calm

theorem calm_atLeastOne (calm : node.Gives Calm) : (atLeastOne node).Gives Calm :=
  gives_rep compositional_calm calm

theorem calm_opt (calm : node.Gives Calm) : (opt node).Gives Calm :=
  gives_opt compositional_calm.nil calm

theorem calm_cat (early : first.Gives Calm) (late : second.Gives Calm) :
    (Node.cat first second).Gives Calm :=
  gives_cat compositional_calm.append early late

theorem calm_seq (calm : first.Gives Calm) (later : (seq others).Gives Calm) :
    (seq (first :: others)).Gives Calm :=
  gives_seq_cons compositional_calm.append calm later

theorem calm_blanks : blanks.Gives Calm :=
  calm_many (calm_oneOf (by decide))

theorem calm_gap : gap.Gives Calm :=
  calm_atLeastOne (calm_oneOf (by decide))

theorem calm_name : name.Gives Calm :=
  calm_atLeastOne (calm_oneOf (by decide))

/-- Angle brackets are an exception by themselves. -/
theorem calm_angles : angles.Gives Calm := by
  have opens : angles.Gives (Opens (· == '<')) := opens_seq (gives_char (by decide)) _
  refine opens.imp fun text begins => ?_
  cases text with
  | nil => cases begins
  | cons c rest =>
      obtain rfl : c = '<' := by simpa [Opens] using begins
      exact Or.inl List.mem_cons_self

/-- So are parentheses around something. -/
theorem calm_enclosed (inner : Node) (others : List Node) :
    (seq (.char '(' :: inner :: .char ')' :: others)).Gives Calm := by
  intro text spelled
  obtain ⟨one, _, rfl, -, spelled⟩ := spells_seq_cons.mp spelled
  obtain ⟨two, _, rfl, -, spelled⟩ := spells_seq_cons.mp spelled
  obtain ⟨three, four, rfl, close, -⟩ := spells_seq_cons.mp spelled
  rw [spells_char.mp close]
  exact Or.inr (Or.inl (by simp))

theorem calm_typeParameters : typeParameters.Gives Calm :=
  calm_opt (calm_cat calm_angles calm_blanks)

theorem calm_parameters : parameters.Gives Calm :=
  calm_seq calm_blanks <| calm_seq (calm_opt calm_angles) <| calm_seq calm_blanks <|
    gives_char (by decide)

theorem calm_typeText : typeText.Gives Calm :=
  calm_seq (calm_atLeastOne (calm_oneOf (by decide))) <| calm_seq (calm_opt calm_angles) <|
    calm_seq (calm_many (calm_oneOf (by decide))) calm_gap

theorem calm_functionWord : functionWord.Gives Calm :=
  calm_cat (gives_text (by decide)) (calm_opt (gives_char (by decide)))

theorem calm_functionWords : functionWords.Gives Calm := by
  refine gives_choice ?_
  simp only [List.forall_mem_cons, List.not_mem_nil, false_implies, implies_true, and_true]
  exact ⟨gives_words (by decide), calm_functionWord, gives_text (by decide)⟩

theorem calm_modifiers : modifiers.Gives Calm := by
  refine calm_many (calm_cat (gives_choice ?_) calm_gap)
  simp only [List.forall_mem_cons, List.not_mem_nil, false_implies, implies_true, and_true]
  exact ⟨gives_words (by decide), calm_cat (gives_text (by decide)) (calm_opt (calm_enclosed _ [])),
    gives_words (by decide), calm_functionWord⟩

theorem calm_methodLead : methodLead.Gives Calm :=
  calm_seq calm_modifiers <| calm_seq calm_typeParameters <| calm_seq (calm_opt calm_typeText) <|
    calm_seq (calm_opt (gives_char (by decide))) <| calm_seq (gives_group calm_name) calm_parameters

theorem calm_setterLead : setterLead.Gives Calm :=
  calm_seq calm_modifiers <| calm_seq (calm_opt calm_typeText) <|
    calm_seq (gives_text (by decide)) <| calm_seq calm_gap <| calm_seq (gives_group calm_name) <|
      calm_seq calm_blanks (gives_char (by decide))

theorem calm_constructorLead {className : Text} (calm : Calm className) :
    (constructorLead className).Gives Calm := by
  have further : (seq [blanks, .char '.', blanks, .group nameGroup name]).Gives Calm :=
    calm_seq calm_blanks <| calm_seq (gives_char (by decide)) <| calm_seq calm_blanks <|
      gives_group calm_name
  exact calm_seq (calm_many (calm_cat (gives_words (by decide)) calm_gap)) <|
    calm_seq (gives_alt (calm_cat (gives_text calm) (calm_opt further))
      (gives_group (gives_words (by decide)))) <|
      calm_seq calm_blanks (gives_char (by decide))

theorem calm_functionLead : functionLead.Gives Calm := by
  have keyword : (seq [functionWords, gap,
      opt (seq [.char '(', many (noneOf ")"), .char ')', blanks])]).Gives Calm :=
    calm_seq calm_functionWords <| calm_seq calm_gap <| calm_opt (calm_enclosed _ [blanks])
  exact calm_seq calm_modifiers <| calm_seq (calm_opt (gives_group keyword)) <|
    calm_seq calm_typeParameters <| calm_seq (calm_opt (gives_group calm_typeText)) <|
      calm_seq (calm_opt (gives_char (by decide))) <| calm_seq (calm_opt (gives_char (by decide))) <|
        calm_seq (gives_group calm_name) calm_parameters

end Calm

/-! ## What the groups hold -/

/-- The group of a class lead holds a name. -/
theorem yields_classLead : classLead.Yields fun _ held => name.Spells held := by
  simp [classLead, seq, optWord, opt, many, gap, atLeastOne, blank, name, wordCharOr, Yields,
    yields_text, yields_words]

/-- The groups of the other leads may hold anything. -/
def Anything (_ : Nat) (_ : Text) : Prop :=
  True

theorem yields_methodLead : methodLead.Yields Anything := by
  simp [methodLead, modifiers, functionWord, typeParameters, angles, typeText, parameters, seq,
    choice, opt, many, gap, atLeastOne, fewest, blank, blanks, noneOf, among, name, wordCharOr,
    Yields, yields_text, yields_words, Anything]

theorem yields_getterLead : getterLead.Yields Anything := by
  simp [getterLead, modifiers, functionWord, angles, typeText, seq, choice, opt, many, gap,
    atLeastOne, fewest, fewestSome, blank, blanks, noneOf, among, name, wordCharOr, Yields,
    yields_text, yields_words, Anything]

theorem yields_setterLead : setterLead.Yields Anything := by
  simp [setterLead, modifiers, functionWord, angles, typeText, seq, choice, opt, many, gap,
    atLeastOne, fewest, blank, blanks, noneOf, among, name, wordCharOr, Yields, yields_text,
    yields_words, Anything]

theorem yields_constructorLead (className : Text) :
    (constructorLead className).Yields Anything := by
  simp [constructorLead, seq, choice, opt, many, gap, atLeastOne, blank, blanks, name, wordCharOr,
    Yields, yields_text, yields_words, Anything]

theorem yields_functionLead : functionLead.Yields Anything := by
  simp [functionLead, modifiers, functionWord, functionWords, typeParameters, angles, typeText,
    parameters, seq, choice, opt, many, gap, atLeastOne, fewest, blank, blanks, noneOf, among, name,
    wordCharOr, Yields, yields_text, yields_words, Anything]

theorem yields_arrowLead : arrowLead.Yields Anything := by
  simp [arrowLead, seq, choice, optWord, opt, many, gap, atLeastOne, blank, blanks, noneOf, name,
    wordCharOr, Yields, yields_text, yields_words, Anything]

/-- A text that a lead has matched begins as the lead does. -/
theorem opens_of_matchStart? {lead : Node} {property : Nat → Text → Prop} {opening : Char → Bool}
    {text : Text} {found : Match} (yields : lead.Yields property)
    (opens : lead.Gives (Opens opening)) (matched : lead.matchStart? text = some found) :
    Opens opening text := by
  obtain ⟨spelled, ⟨rest, rfl⟩, -⟩ := spells_of_matchStart? yields matched
  exact (opens _ spelled).append rest

/-- The name that a class lead has found is a name. -/
theorem spells_className {text className : Text} {found : Match}
    (matched : classLead.matchStart? text = some found)
    (named : found.group? nameGroup = some className) : name.Spells className :=
  (spells_of_matchStart? yields_classLead matched).2.2 nameGroup className named

/-- So it begins with an opening character. -/
theorem opens_className {text className : Text} {found : Match}
    (matched : classLead.matchStart? text = some found)
    (named : found.group? nameGroup = some className) : Opens isOpening className :=
  opens_name className (spells_className matched named)

/-- So does a member. -/
theorem opens_of_memberName? {className text name : Text} (opens : Opens isOpening className)
    (named : Outline.memberName? className text = some name) : Opens isOpening text := by
  rw [Outline.memberName?] at named
  split at named
  · cases named
  split at named
  · cases named
  split at named
  · next found matched =>
      exact opens_of_matchStart? (yields_constructorLead className) (opens_constructorLead opens)
        matched
  split at named
  · next name found =>
      obtain ⟨found, matched, -⟩ := Option.bind_eq_some_iff.mp found
      exact opens_of_matchStart? yields_getterLead opens_getterLead matched
  split at named
  · next name found =>
      obtain ⟨found, matched, -⟩ := Option.bind_eq_some_iff.mp found
      exact opens_of_matchStart? yields_setterLead opens_setterLead matched
  · obtain ⟨name, found, -⟩ := Option.bind_eq_some_iff.mp named
    obtain ⟨found, matched, -⟩ := Option.bind_eq_some_iff.mp found
    exact opens_of_matchStart? yields_methodLead opens_methodLead matched

/-- So does a function. -/
theorem opens_of_candidate? {text : Text} {candidate : Outline.Candidate}
    (found : Outline.candidate? text = some candidate) : Opens isOpening text := by
  rw [Outline.candidate?] at found
  split at found
  · next name named =>
      obtain ⟨lead, matched, -⟩ := Option.bind_eq_some_iff.mp named
      exact opens_of_matchStart? yields_arrowLead opens_arrowLead matched
  split at found
  · cases found
  · obtain ⟨lead, matched, -⟩ := Option.bind_eq_some_iff.mp found
    exact opens_of_matchStart? yields_functionLead opens_functionLead matched

/-! ## Leads with parameters -/

/-- What the texts of all leads have in common that end in an opening parenthesis. -/
structure Parameterized (lead : Node) : Prop where
  yields : lead.Yields Anything
  opens : lead.Gives (Opens isOpening)
  closes : lead.Gives Closes
  calm : lead.Gives Calm

/-- The leads of members with parameters. -/
def memberLeads (className : Text) : List Node :=
  [constructorLead className, setterLead, methodLead]

theorem parameterized_of_mem {className : Text} (named : name.Spells className) :
    ∀ lead ∈ memberLeads className, Parameterized lead := by
  simp only [memberLeads, List.forall_mem_cons, List.not_mem_nil, false_implies, implies_true,
    and_true]
  exact ⟨⟨yields_constructorLead className, opens_constructorLead (opens_name _ named),
      closes_constructorLead className, calm_constructorLead (calm_name _ named)⟩,
    ⟨yields_setterLead, opens_setterLead, closes_setterLead, calm_setterLead⟩,
    ⟨yields_methodLead, opens_methodLead, closes_methodLead, calm_methodLead⟩⟩

theorem parameterized_functionLead : Parameterized functionLead :=
  ⟨yields_functionLead, opens_functionLead, closes_functionLead, calm_functionLead⟩

end Lead
end Codemap
