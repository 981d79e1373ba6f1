import Codemap.Text.Digit

namespace Codemap
namespace CommandLine

/-!
# The words of a command line

A grammar has switches, which begin with a dash and may stand anywhere, and arguments,
which stand in order between them.  Reading words by a grammar yields a list of
findings in the order in which they are acted on.

A switch may be abbreviated as long as no other begins in the same way, its value may
follow as the next word or after an equals sign, and switches of one letter may be
written together.  After two dashes every word belongs to an argument.  A negative
number, and a word with a space in it, is no switch.

Arguments are taken as soon as the first of their words is met, and as many of them as
the words up to the next switch admit: an argument that may be left out is then left
out for good.
-/

/-- A switch for a key. -/
structure Switch (κ : Type) where
  key : κ
  names : List Text
  takesValue : Bool := false
deriving Repr, Inhabited

/-- The words of an argument. -/
inductive Arity where
  | one
  | optional
  | several
  /-- One word and everything after it, switches included. -/
  | everything
deriving DecidableEq, Repr, Inhabited

/-- What words may be given. -/
structure Grammar (κ : Type) where
  switches : List (Switch κ)
  arguments : List (κ × Arity) := []
deriving Repr, Inhabited

/-- What reading words finds. -/
inductive Finding (κ : Type) where
  /-- A key is given so many words. -/
  | given (key : κ) (words : List Text)
  /-- Words that belong to nothing. -/
  | stray
  /-- The words after this cannot be read. -/
  | broken
deriving Repr, Inhabited

/-- A value that is attached to a switch; it is marked if an equals sign stands before
it. -/
structure Attachment where
  value : Text
  isMarked : Bool
deriving DecidableEq, Repr, Inhabited

/-- What a word is. -/
inductive WordKind (κ : Type) where
  /-- The two dashes after which there are no switches. -/
  | mark
  | plain
  | switch (found : Switch κ) (attached : Option Attachment)
  /-- It looks like a switch but is none. -/
  | unknown
  /-- It abbreviates several switches. -/
  | ambiguous
deriving Repr, Inhabited

/-- A word with its kind. -/
structure Word (κ : Type) where
  text : Text
  kind : WordKind κ
deriving Repr, Inhabited

namespace WordKind

variable {κ : Type}

/-- The word may belong to an argument. -/
def isPlain : WordKind κ → Bool
  | .plain => true
  | _ => false

/-- The word is the mark after which there are no switches. -/
def isMark : WordKind κ → Bool
  | .mark => true
  | _ => false

end WordKind

/-- Two dashes. -/
def twoDashes : Text := ['-', '-']

/-- A text that may end with a line feed consists of decimal digits. -/
def isDigits (text : Text) : Bool :=
  !text.isEmpty && text.all isDecimalDigit

/-- A word is a minus sign before an integer or a decimal fraction. -/
def isNegativeNumber (word : Text) : Bool :=
  match Text.dropEnding ['\n'] word with
  | '-' :: rest =>
      match Text.fields '.' rest with
      | [whole] => isDigits whole
      | [whole, places] => whole.all isDecimalDigit && isDigits places
      | _ => false
  | _ => false

namespace Grammar

variable {κ : Type}

/-! ## Kinds of words -/

/-- The switches with each of their names. -/
def named (grammar : Grammar κ) : List (Text × Switch κ) :=
  grammar.switches.flatMap fun switch => switch.names.map fun name => (name, switch)

/-- The switch with a name. -/
def switch? (grammar : Grammar κ) (name : Text) : Option (Switch κ) :=
  (grammar.named.find? fun entry => entry.1 == name).map (·.2)

/-- A word before its first equals sign, and what is attached after it. -/
def splitValue (word : Text) : Text × Option Attachment :=
  let name := word.takeWhile (· != '=')
  if name.length < word.length then (name, some ⟨word.drop (name.length + 1), true⟩)
  else (name, none)

/-- The switches that a word abbreviates. -/
def abbreviated (grammar : Grammar κ) (word : Text) : List (Switch κ × Option Attachment) :=
  if twoDashes.isPrefixOf word then
    let (start, attached) := splitValue word
    (grammar.named.filter fun entry => start.isPrefixOf entry.1).map fun entry =>
      (entry.2, attached)
  else
    grammar.named.filterMap fun entry =>
      if entry.1 == word.take 2 then some (entry.2, some ⟨word.drop 2, false⟩)
      else if word.isPrefixOf entry.1 then some (entry.2, none)
      else none

/-- The kind of a word that is no mark. -/
def kindOf (grammar : Grammar κ) (word : Text) : WordKind κ :=
  if word.head? != some '-' then .plain
  else
    match grammar.switch? word with
    | some found => .switch found none
    | none =>
        if word.length = 1 then .plain
        else
          match splitValue word, grammar.switch? (splitValue word).1 with
          | (_, some attached), some found => .switch found (some attached)
          | _, _ =>
              match grammar.abbreviated word with
              | [(found, attached)] => .switch found attached
              | [] => if isNegativeNumber word || word.contains ' ' then .plain else .unknown
              | _ => .ambiguous

/-- The words with their kinds. -/
def classify (grammar : Grammar κ) : List Text → List (Word κ)
  | [] => []
  | text :: rest =>
      if text == twoDashes then ⟨text, .mark⟩ :: rest.map fun other => ⟨other, .plain⟩
      else ⟨text, grammar.kindOf text⟩ :: classify grammar rest

/-! ## Arguments -/

/-- How many marks come first. -/
def marks (words : List (Word κ)) : Nat :=
  (words.takeWhile fun word => word.kind.isMark).length

/-- How many of the words are the words of an argument; nothing if the argument does not
come first. -/
def extent? (arity : Arity) (words : List (Word κ)) : Option Nat :=
  let before := marks words
  match arity, words.drop before with
  | .optional, [] => some before
  | _, [] => none
  | arity, word :: rest =>
      if word.kind.isPlain then
        match arity with
        | .one | .optional => some (before + 1 + marks rest)
        | .several =>
            some (before + 1 +
              (rest.takeWhile fun other => other.kind.isPlain || other.kind.isMark).length)
        | .everything => some (before + 1 + rest.length)
      else if arity = .optional then some before
      else none

/-- The words of an argument without a mark among them. -/
def wordsOf (arity : Arity) (words : List (Word κ)) : List Text :=
  let texts := words.map Word.text
  if arity = .everything then texts else texts.erase twoDashes

/-- Take arguments from the beginning of some words: what is found, the arguments that
are left, and the number of words taken. -/
def takeArguments : List (κ × Arity) → List (Word κ) →
    List (Finding κ) × List (κ × Arity) × Nat
  | [], _ => ([], [], 0)
  | (key, arity) :: rest, words =>
      match extent? arity words with
      | none => ([], (key, arity) :: rest, 0)
      | some count =>
          let (found, left, others) := takeArguments rest (words.drop count)
          (.given key (wordsOf arity (words.take count)) :: found, left, count + others)

/-! ## Switches -/

/-- Take a switch without attachment: what is found, and the number of words taken after
it. -/
def takeSwitch (found : Switch κ) (following : List (Word κ)) : List (Finding κ) × Nat :=
  if found.takesValue then
    match following with
    | word :: _ => if word.kind.isPlain then ([.given found.key [word.text]], 1) else ([.broken], 0)
    | [] => ([.broken], 0)
  else ([.given found.key []], 0)

/-- Take a switch of one letter after which more letters are attached.  If these are
malformed, none of the switches counts. -/
def takeCluster (grammar : Grammar κ) (following : List (Word κ)) (before : List (Finding κ))
    (found : Switch κ) (isMarked : Bool) : Text → List (Finding κ) × Nat
  | [] => if found.takesValue then (before ++ [.given found.key [[]]], 0) else ([.broken], 0)
  | letter :: rest =>
      if found.takesValue then (before ++ [.given found.key [letter :: rest]], 0)
      else if isMarked || letter = '-' then ([.broken], 0)
      else
        let done := before ++ [.given found.key []]
        match grammar.switch? ['-', letter] with
        | none => (done ++ [.stray], 0)
        | some next =>
            match rest with
            | [] =>
                match takeSwitch next following with
                | ([.broken], _) => ([.broken], 0)
                | (last, used) => (done ++ last, used)
            | '=' :: value => takeCluster grammar following done next true value
            | first :: others => takeCluster grammar following done next false (first :: others)
termination_by value => value.length

/-- Take a switch with an attachment. -/
def takeAttached (grammar : Grammar κ) (text : Text) (found : Switch κ) (attached : Attachment)
    (following : List (Word κ)) : List (Finding κ) × Nat :=
  if found.takesValue then ([.given found.key [attached.value]], 0)
  else if twoDashes.isPrefixOf text then ([.broken], 0)
  else takeCluster grammar following [] found attached.isMarked attached.value

/-! ## Reading -/

/-- Read words; so many of them belong to what has been found already. -/
def readFrom (grammar : Grammar κ) (pending : List (κ × Arity)) (taken : Nat) :
    List (Word κ) → List (Finding κ)
  | [] => []
  | word :: rest =>
      if 0 < taken then readFrom grammar pending (taken - 1) rest
      else
        match word.kind with
        | .switch found none =>
            let (findings, used) := takeSwitch found rest
            findings ++ readFrom grammar pending used rest
        | .switch found (some attached) =>
            let (findings, used) := takeAttached grammar word.text found attached rest
            findings ++ readFrom grammar pending used rest
        | .unknown => .stray :: readFrom grammar pending 0 rest
        | .ambiguous => [.broken]
        | .mark | .plain =>
            let (findings, left, used) := takeArguments pending (word :: rest)
            if used = 0 then .stray :: readFrom grammar left 0 rest
            else findings ++ readFrom grammar left (used - 1) rest

/-- Read words by a grammar.  A word that is ambiguous spoils all of them. -/
def read (grammar : Grammar κ) (words : List Text) : List (Finding κ) :=
  let classified := grammar.classify words
  let isAmbiguous (word : Word κ) : Bool :=
    match word.kind with
    | .ambiguous => true
    | _ => false
  if classified.any isAmbiguous then [.broken]
  else readFrom grammar grammar.arguments 0 classified

end Grammar
end CommandLine
end Codemap
