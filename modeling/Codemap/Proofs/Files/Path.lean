import Codemap.Files.Tree
import Mathlib.Data.List.Basic

namespace Codemap

/-!
# Names and the texts of paths

A directory gives its entries names, and not every text is a name: a name is not
empty, holds no slash, is neither of the two names with a meaning of their own,
and is not too long.  A path with a root is legible if its names are such texts, two
dots and long ones included.  A legible path survives being written and read again,
so two such paths with one text are one path.
-/

/-- A text that can stand between the slashes of a path. -/
def isSegment (text : Text) : Bool :=
  !text.isEmpty && !text.contains '/' && text != ['.']

theorem isSegment_iff {text : Text} :
    isSegment text = true ↔ text ≠ [] ∧ '/' ∉ text ∧ text ≠ ['.'] := by
  simp [isSegment, and_assoc]

/-- A text that a directory can give to an entry. -/
def isName (text : Text) : Bool :=
  isSegment text && text != upward && decide ((Utf8.encode text).length ≤ longestName)

/-- What it takes to be a name. -/
theorem isName_iff {text : Text} :
    isName text = true ↔ isSegment text = true ∧ text ≠ upward ∧
      (Utf8.encode text).length ≤ longestName := by
  simp [isName, and_assoc]

theorem isSegment_of_isName {text : Text} (name : isName text = true) : isSegment text = true :=
  (isName_iff.mp name).1

namespace Text

/-- Cutting at a character is what the list library calls splitting. -/
theorem fields_eq_splitOn (separator : Char) (text : Text) :
    text.fields separator = text.splitOn separator := by
  induction text with
  | nil => simp [fields]
  | cons c rest inductionHypothesis =>
      rw [fields, inductionHypothesis, List.splitOn_cons_eq_if_modifyHead]
      cases parts : rest.splitOn separator with
      | nil => exact absurd parts (List.splitOn_ne_nil separator rest)
      | cons field others =>
          by_cases same : c = separator
          · simp [same]
          · simp [same]

/-- The fields of a text are made of its characters, the separator left out. -/
theorem mem_of_mem_fields {separator : Char} {text field : Text} (listed : field ∈ text.fields separator)
    {c : Char} (member : c ∈ field) : c ∈ text ∧ c ≠ separator := by
  induction text generalizing field with
  | nil =>
      rw [fields, List.mem_singleton] at listed
      rw [listed] at member
      cases member
  | cons first rest inductionHypothesis =>
      have later {other : Text} (listed : other ∈ fields separator rest) (inside : c ∈ other) :
          c ∈ first :: rest ∧ c ≠ separator :=
        (inductionHypothesis listed inside).imp_left (List.mem_cons_of_mem first)
      rw [fields] at listed
      cases parts : fields separator rest with
      | nil => exact absurd parts (fields_eq_splitOn separator rest ▸ List.splitOn_ne_nil separator rest)
      | cons head others =>
          simp only [parts] at listed later
          split at listed
          · rcases List.mem_cons.mp listed with rfl | listed
            · cases member
            · exact later listed member
          · next apart =>
              rcases List.mem_cons.mp listed with rfl | listed
              · rcases List.mem_cons.mp member with rfl | member
                · exact ⟨List.mem_cons_self, apart⟩
                · exact later List.mem_cons_self member
              · exact later (List.mem_cons_of_mem head listed) member

end Text

namespace Path

/-- Joining names with slashes and cutting at the slashes gives the names back. -/
theorem segments_intercalate {names : List Text} (legible : ∀ name ∈ names, isSegment name = true) :
    segments (List.intercalate ['/'] names) = names := by
  unfold segments
  rw [Text.fields_eq_splitOn]
  cases names with
  | nil => simp
  | cons first rest =>
      have noSlash : ∀ name ∈ first :: rest, '/' ∉ name := fun name member =>
        (isSegment_iff.mp (legible name member)).2.1
      rw [List.splitOn_intercalate '/' noSlash (List.cons_ne_nil first rest)]
      apply List.filter_eq_self.mpr
      intro name member
      have facts := isSegment_iff.mp (legible name member)
      simp [facts.1, facts.2.2]

private theorem head_ne_slash {names : List Text} (legible : ∀ name ∈ names, isSegment name = true)
    (c : Char) (rest : Text) (begins : List.intercalate ['/'] names = c :: rest) : c ≠ '/' := by
  cases names with
  | nil => simp at begins
  | cons first others =>
      have facts := isSegment_iff.mp (legible first List.mem_cons_self)
      cases first with
      | nil => exact absurd rfl facts.1
      | cons letter word =>
          rw [List.intercalate_cons_cons_left] at begins
          have same := (List.cons.inj begins).1
          intro slash
          exact facts.2.1 (by simp [same, slash])

private theorem segments_slash (text : Text) : segments ('/' :: text) = segments text := by
  unfold segments
  rw [Text.fields_eq_splitOn, Text.fields_eq_splitOn, List.splitOn_cons_eq_if_modifyHead]
  simp

/-- A path with a root, whose names can be told from its text. -/
structure Legible (path : Path) : Prop where
  rooted : path.isAbsolute = true
  segments : ∀ name ∈ path.names, isSegment name = true

/-- A legible path is read back from its text. -/
theorem Legible.ofText_text {path : Path} (legible : path.Legible) : ofText path.text = path := by
  obtain ⟨root, names⟩ := path
  have notSlash := head_ne_slash legible.segments
  have split := segments_intercalate legible.segments
  dsimp only at notSlash split
  cases root with
  | relative => exact absurd legible.rooted (by simp [isAbsolute])
  | slash =>
      have written : text { root := .slash, names } = '/' :: List.intercalate ['/'] names := by
        simp [text, PathRoot.text]
      have root : PathRoot.ofText ('/' :: List.intercalate ['/'] names) = .slash := by
        cases remaining : List.intercalate ['/'] names with
        | nil => rfl
        | cons c rest =>
            have different := notSlash c rest remaining
            unfold PathRoot.ofText
            split <;> simp_all
      rw [written, ofText, root, segments_slash, split]
  | doubleSlash =>
      have written : text { root := .doubleSlash, names } =
          '/' :: '/' :: List.intercalate ['/'] names := by
        simp [text, PathRoot.text]
      have root : PathRoot.ofText ('/' :: '/' :: List.intercalate ['/'] names) = .doubleSlash := by
        cases remaining : List.intercalate ['/'] names with
        | nil => rfl
        | cons c rest =>
            have different := notSlash c rest remaining
            rw [PathRoot.ofText]
            rintro later same
            exact different (List.cons.inj same).1
      rw [written, ofText, root, segments_slash, segments_slash, split]

theorem Legible.child {path : Path} (legible : path.Legible) {name : Text}
    (segment : isSegment name = true) : (path.child name).Legible := by
  refine ⟨legible.rooted, ?_⟩
  rw [Path.child, List.forall_mem_append, List.forall_mem_singleton]
  exact ⟨legible.segments, segment⟩

/-- The normal form of a legible path is legible. -/
theorem Legible.normalize {path : Path} (legible : path.Legible) : path.normalize.Legible := by
  have segments (done names : List Text) (first : ∀ name ∈ done, isSegment name = true)
      (second : ∀ name ∈ names, isSegment name = true) :
      ∀ name ∈ Path.normalizeNames true done names, isSegment name = true := by
    induction names generalizing done with
    | nil => simpa [Path.normalizeNames] using first
    | cons head rest inductionHypothesis =>
        have later : ∀ name ∈ rest, isSegment name = true := fun name member =>
          second name (List.mem_cons_of_mem head member)
        unfold Path.normalizeNames
        split
        · refine inductionHypothesis _ (fun name member => ?_) later
          rcases List.mem_cons.mp member with rfl | member
          · exact second name List.mem_cons_self
          · exact first name member
        · cases done with
          | nil => exact inductionHypothesis [] (fun _ member => absurd member List.not_mem_nil) later
          | cons last before =>
              have earlier : ∀ name ∈ before, isSegment name = true := fun name member =>
                first name (List.mem_cons_of_mem last member)
              dsimp only
              split
              · refine inductionHypothesis _ (fun name member => ?_) later
                rcases List.mem_cons.mp member with rfl | member
                · rfl
                · exact first name member
              · exact inductionHypothesis before earlier later
  refine ⟨legible.rooted, ?_⟩
  rw [Path.normalize, legible.rooted]
  exact segments [] path.names (fun _ member => absurd member List.not_mem_nil) legible.segments

/-- The parts that are read from a text are legible. -/
theorem isSegment_of_mem_segments {text name : Text} (member : name ∈ Path.segments text) :
    isSegment name = true := by
  obtain ⟨field, kept⟩ := List.mem_filter.mp member
  have noSlash : '/' ∉ name := fun slash => (Text.mem_of_mem_fields field slash).2 rfl
  simpa [isSegment, noSlash] using kept

/-- A path seen from a legible one is legible, if its own names are. -/
theorem Legible.join {base path : Path} (legible : base.Legible)
    (segments : ∀ name ∈ path.names, isSegment name = true) : (base.join path).Legible := by
  rw [Path.join]
  split
  · next rooted => exact ⟨rooted, segments⟩
  · refine ⟨legible.rooted, ?_⟩
    rw [List.forall_mem_append]
    exact ⟨legible.segments, segments⟩

theorem Legible.join_ofText {base : Path} (legible : base.Legible) (text : Text) :
    (base.join (ofText text)).Legible :=
  legible.join fun _ => isSegment_of_mem_segments

theorem Legible.parent {path : Path} (legible : path.Legible) : path.parent.Legible :=
  ⟨legible.rooted, fun name member => legible.segments name (List.dropLast_subset _ member)⟩

/-- The last name of a path stands after those of the path above it. -/
theorem dropLast_concat_name {path : Path} (nonempty : path.names ≠ []) :
    path.names.dropLast ++ [path.name] = path.names := by
  obtain ⟨above, last, split⟩ := (List.eq_nil_or_concat path.names).resolve_left nonempty
  rw [Path.name, split, List.concat_eq_append, List.dropLast_concat, List.getLastD_concat]

/-- Two legible paths with one text are one path. -/
theorem Legible.eq_of_text {left right : Path} (leftLegible : left.Legible)
    (rightLegible : right.Legible) (same : left.text = right.text) : left = right := by
  rw [← leftLegible.ofText_text, same, rightLegible.ofText_text]

theorem intercalate_append (base below : List Text) (nonempty : below ≠ []) :
    List.intercalate ['/'] (base ++ below) =
      (base.flatMap fun name => name ++ ['/']) ++ List.intercalate ['/'] below := by
  induction base with
  | nil => rfl
  | cons name rest inductionHypothesis =>
      have remaining : rest ++ below ≠ [] := by simp [nonempty]
      rw [List.cons_append, List.intercalate_cons_of_ne_nil remaining, inductionHypothesis]
      simp

/-- Below any path, two different lists of names lead to different texts.  The names
of the path itself may be anything. -/
theorem below_text_injective (base : Path) {left right : List Text}
    (leftNonempty : left ≠ []) (rightNonempty : right ≠ [])
    (leftLawful : ∀ name ∈ left, isName name = true)
    (rightLawful : ∀ name ∈ right, isName name = true)
    (same : text { base with names := base.names ++ left } =
      text { base with names := base.names ++ right }) : left = right := by
  have joined : List.intercalate ['/'] left = List.intercalate ['/'] right := by
    simp only [text, List.isEmpty_iff, List.append_eq_nil_iff, leftNonempty, rightNonempty,
      and_false, if_false, intercalate_append _ _ leftNonempty,
      intercalate_append _ _ rightNonempty] at same
    exact List.append_cancel_left (List.append_cancel_left same)
  have segments {names : List Text} (lawful : ∀ name ∈ names, isName name = true) :
      ∀ name ∈ names, isSegment name = true :=
    fun name member => isSegment_of_isName (lawful name member)
  rw [← segments_intercalate (segments leftLawful), joined,
    segments_intercalate (segments rightLawful)]

end Path
end Codemap
