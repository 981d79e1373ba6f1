import Codemap.Proofs.Cache.Record
import Codemap.Proofs.Files.Directory
import Codemap.Proofs.Number.Decimal
import Codemap.Proofs.Text.Newlines
import Mathlib.Algebra.Group.Nat.Defs
import Mathlib.Data.List.Perm.Subperm

namespace Codemap
namespace Cache

/-!
# The cache directory

Keeping a bundle publishes two files, the text and then the record.  Each is written
aside under a name that no entry has and moved into place, so a directory without
files left aside has none afterwards either, whether the publication succeeds or not.
A publication fails only if the name is too long, and then the directory shows what it
showed before.
-/

variable {directory : Path} {tree : Tree} {place : List Text} {view : Text → Option Entry}

/-- No file is left aside. -/
def Clean (view : Text → Option Entry) : Prop :=
  ∀ ending, view (asideMark ++ ending) = none

/-- What has the name of an entry is no directory. -/
def OnlyFiles (view : Text → Option Entry) : Prop :=
  ∀ name, isEntryName name = true → ∀ below, view name ≠ some (.directory below)

theorem Clean.update {name : Text} (clean : Clean view) (entry : isEntryName name = true)
    (value : Option Entry) : Clean (Function.update view name value) := by
  intro ending
  rw [Function.update_of_ne (ne_of_isEntryName entry ending), clean]

theorem OnlyFiles.update (onlyFiles : OnlyFiles view) (name : Text) (content : Bytes)
    (changed : Int) : OnlyFiles (Function.update view name (some (.file content changed))) := by
  intro other entry below
  by_cases same : other = name
  · subst same
    simp
  · rw [Function.update_of_ne same]
    exact onlyFiles other entry below

/-! ## Names aside -/

/-- The name aside that is chosen has the least number whose name is not taken, which is at
most the number of the names that are. -/
theorem asideName_least (taken : List Text) (ending : Text) :
    ∃ n, asideName taken ending = asideMark ++ Text.ofNat n ++ ending ∧ n ≤ taken.length ∧
      ∀ m < n, asideMark ++ Text.ofNat m ++ ending ∈ taken := by
  rw [asideName]
  dsimp only
  split
  · next n found =>
      obtain ⟨-, inside, below⟩ := List.find?_range_eq_some.mp found
      refine ⟨n, rfl, Nat.le_of_lt_succ (List.mem_range.mp inside), fun m less => ?_⟩
      have tried := below m less
      rw [Bool.not_not, List.contains_iff_mem] at tried
      exact tried
  · next none =>
      refine ⟨taken.length, rfl, Nat.le_refl _, fun m less => ?_⟩
      have tried := List.find?_eq_none.mp none m (List.mem_range.mpr (by omega))
      rw [Bool.not_eq_true, Bool.not_eq_false', List.contains_iff_mem] at tried
      exact tried

/-- A name aside has a number between the mark and the ending. -/
theorem asideName_shape (taken : List Text) (ending : Text) :
    ∃ n, asideName taken ending = asideMark ++ Text.ofNat n ++ ending := by
  obtain ⟨n, shape, -⟩ := asideName_least taken ending
  exact ⟨n, shape⟩

/-- Different numbers make different names. -/
theorem aside_injective (ending : Text) :
    Function.Injective fun n => asideMark ++ Text.ofNat n ++ ending := by
  intro left right same
  have digits : Text.ofNat left = Text.ofNat right :=
    List.append_cancel_left (List.append_cancel_right same)
  rw [← Binary64.digitsValue_ofNat left, ← Binary64.digitsValue_ofNat right, digits]

/-- No entry has the name that is chosen for a file aside: one name more is tried than
there are entries. -/
theorem asideName_fresh (taken : List Text) (ending : Text) : asideName taken ending ∉ taken := by
  rw [asideName]
  dsimp only
  split
  · next n found => simpa using List.find?_some found
  · next none =>
      exfalso
      have all : ∀ n ∈ List.range (taken.length + 1),
          asideMark ++ Text.ofNat n ++ ending ∈ taken := by
        intro n inside
        have tried := List.find?_eq_none.mp none n inside
        rw [Bool.not_eq_true, Bool.not_eq_false', List.contains_iff_mem] at tried
        exact tried
      have distinct : ((List.range (taken.length + 1)).map fun n =>
          asideMark ++ Text.ofNat n ++ ending).Nodup :=
        List.nodup_range.map (aside_injective ending)
      have inside : (List.range (taken.length + 1)).map (fun n =>
          asideMark ++ Text.ofNat n ++ ending) ⊆ taken := by
        intro name member
        obtain ⟨n, listed, rfl⟩ := List.mem_map.mp member
        exact all n listed
      have bound := (distinct.subperm inside).length_le
      rw [List.length_map, List.length_range] at bound
      omega

/-- What a directory shows has a name in it. -/
theorem view_eq_none_iff (holds : tree.Holds directory place view) {name : Text} :
    view name = none ↔ name ∉ namesIn tree directory := by
  obtain ⟨children, found, rfl⟩ := holds.found
  have names : namesIn tree directory = children.map Prod.fst := by
    rw [namesIn, Tree.entry, holds.located]
    simp [found, Entry.children]
  rw [Entry.look?_eq_none_iff, names]

/-- What is written aside has a name that no entry of the directory has. -/
theorem view_asideName (holds : tree.Holds directory place view) (ending : Text) :
    view (asideName (namesIn tree directory) ending) = none :=
  (view_eq_none_iff holds).mpr (asideName_fresh _ _)

theorem asideName_ordinary (taken : List Text) (ending : Text) :
    asideName taken ending ≠ upward := by
  obtain ⟨n, shape⟩ := asideName_shape taken ending
  rw [shape]
  simp [asideMark, upward]

private theorem asideName_ne {target : Text} (entry : isEntryName target = true)
    (taken : List Text) (ending : Text) : asideName taken ending ≠ target := by
  obtain ⟨n, shape⟩ := asideName_shape taken ending
  rw [shape, List.append_assoc]
  exact ne_of_isEntryName entry _

/-! ## Publishing a file -/

section Publishing

variable (holds : tree.Holds directory place view) {target : Text}

include holds

private theorem drafted
    (short : (Utf8.encode (asideName (namesIn tree directory) (Path.suffixOf target))).length ≤
      longestName) (content : Bytes) :
    ∃ after, tree.writeBytes
          (directory.child (asideName (namesIn tree directory) (Path.suffixOf target))) content =
        .ok after ∧
      tree.Revised after directory place
        (Function.update view (asideName (namesIn tree directory) (Path.suffixOf target))
          (some (.file content tree.clock))) :=
  holds.writeBytes_child ⟨asideName_ordinary _ _, short, fun below => by
    simp [view_asideName holds (Path.suffixOf target)]⟩ content

/-- Publishing a text shows it under its name, and changes nothing else. -/
theorem publish_writable (entry : isEntryName target = true)
    (short : (Utf8.encode (asideName (namesIn tree directory) (Path.suffixOf target))).length ≤
      longestName) (writable : Tree.Writable view target) (content : Text) :
    ∃ after, publish directory tree target content = (.ok (), after) ∧
      tree.Revised after directory place
        (Function.update view target (some (.file (Utf8.encode content) tree.clock))) := by
  have absent := view_asideName holds (Path.suffixOf target)
  have ordinary := asideName_ordinary (namesIn tree directory) (Path.suffixOf target)
  have apart := asideName_ne entry (namesIn tree directory) (Path.suffixOf target)
  obtain ⟨middle, written, revised⟩ := drafted holds short (Utf8.encode content)
  rw [publish]
  simp only [Step.run, Tree.writeText, written]
  generalize asideName (namesIn tree directory) (Path.suffixOf target) = aside at *
  have present := Function.update_self aside (some (Entry.file (Utf8.encode content) tree.clock)) view
  have still : Tree.Writable (Function.update view aside
      (some (.file (Utf8.encode content) tree.clock))) target := by
    refine ⟨writable.ordinary, writable.short, fun below => ?_⟩
    rw [Function.update_of_ne (Ne.symm apart)]
    exact writable.noDirectory below
  obtain ⟨after, moved, final⟩ := revised.holds.moveFile_child present ordinary short still apart
  have shown : Function.update (Function.update (Function.update view aside
        (some (Entry.file (Utf8.encode content) tree.clock))) target
        (some (Entry.file (Utf8.encode content) tree.clock))) aside none =
      Function.update view target (some (Entry.file (Utf8.encode content) tree.clock)) := by
    funext name
    by_cases here : name = aside
    · subst name
      rw [Function.update_self, Function.update_of_ne apart, absent]
    · simp only [Function.update_apply, here, if_false]
  exact ⟨after, by simp only [moved], shown ▸ revised.trans final⟩

/-- If a text cannot be published, nothing that is shown changes. -/
theorem publish_refused (refused : ¬ ((Utf8.encode (asideName (namesIn tree directory)
        (Path.suffixOf target))).length ≤ longestName ∧
      (Utf8.encode target).length ≤ longestName ∧ ∀ below, view target ≠ some (.directory below)))
    (entry : isEntryName target = true) (content : Text) :
    ∃ why after, publish directory tree target content = (.error why, after) ∧
      ((∀ below, view target ≠ some (.directory below)) → why = .nameTooLong) ∧
      tree.Revised after directory place view := by
  have absent := view_asideName holds (Path.suffixOf target)
  have ordinary := asideName_ordinary (namesIn tree directory) (Path.suffixOf target)
  have apart := asideName_ne entry (namesIn tree directory) (Path.suffixOf target)
  rw [publish]
  by_cases short : (Utf8.encode (asideName (namesIn tree directory)
      (Path.suffixOf target))).length ≤ longestName
  · obtain ⟨middle, written, revised⟩ := drafted holds short (Utf8.encode content)
    simp only [Step.run, Tree.writeText, written]
    generalize asideName (namesIn tree directory) (Path.suffixOf target) = aside at *
    have present := Function.update_self aside (some (Entry.file (Utf8.encode content) tree.clock)) view
    have fails : ∃ why, middle.moveFile (directory.child aside) (directory.child target) = .error why ∧
        ((∀ below, view target ≠ some (.directory below)) → why = .nameTooLong) := by
      by_cases fits : (Utf8.encode target).length ≤ longestName
      · have taken : ∃ below, view target = some (.directory below) := by
          by_contra free
          push Not at free
          exact refused ⟨short, fits, free⟩
        obtain ⟨below, there⟩ := taken
        refine ⟨.isDirectory, ?_, fun free => absurd there (free below)⟩
        exact revised.holds.moveFile_child_taken present ordinary short fits
          (by rw [Function.update_of_ne (Ne.symm apart), there])
      · exact ⟨.nameTooLong, revised.holds.moveFile_child_tooLong present ordinary short
          (Nat.lt_of_not_le fits), fun _ => rfl⟩
    obtain ⟨why, moved, cause⟩ := fails
    obtain ⟨after, removed, final⟩ := revised.holds.remove_child present ordinary short
    have shown : Function.update (Function.update view aside
        (some (Entry.file (Utf8.encode content) tree.clock))) aside none = view := by
      rw [Function.update_idem, ← absent, Function.update_eq_self]
    refine ⟨why, after, ?_, cause, shown ▸ revised.trans final⟩
    simp only [moved, removed, Except.toOption, Option.getD_some]
  · have failed := holds.writeBytes_child_tooLong (Nat.lt_of_not_le short) (Utf8.encode content)
    exact ⟨.nameTooLong, tree, by simp only [Step.run, Tree.writeText, failed], fun _ => rfl,
      holds.revised⟩

end Publishing

/-! ## Publishing in a clean directory -/

/-- In a clean directory the first name aside is free. -/
theorem asideName_eq {taken : List Text} (ending : Text)
    (free : asideMark ++ '0' :: ending ∉ taken) :
    asideName taken ending = asideMark ++ '0' :: ending := by
  obtain ⟨n, shape, -, least⟩ := asideName_least taken ending
  have first : asideMark ++ Text.ofNat 0 ++ ending = asideMark ++ '0' :: ending := by
    simp [Text.ofNat, Nat.toDigits_zero]
  cases n with
  | zero => rw [shape, first]
  | succ n => exact absurd (first ▸ least 0 (Nat.succ_pos n)) free

theorem asideName_of_clean (holds : tree.Holds directory place view) (clean : Clean view)
    (ending : Text) :
    asideName (namesIn tree directory) ending = asideMark ++ '0' :: ending :=
  asideName_eq _ ((view_eq_none_iff holds).mp (clean _))

/-- A target whose last extension is short enough to be written aside. -/
structure Publishable (target : Text) : Prop where
  entry : isEntryName target = true
  aside : (Utf8.encode (asideMark ++ '0' :: Path.suffixOf target)).length ≤ longestName

/-- A text whose name is short enough is published. -/
theorem publish_ok (holds : tree.Holds directory place view) (clean : Clean view)
    (onlyFiles : OnlyFiles view) {target : Text} (publishable : Publishable target)
    (short : (Utf8.encode target).length ≤ longestName) (content : Text) :
    ∃ after, publish directory tree target content = (.ok (), after) ∧
      tree.Revised after directory place
        (Function.update view target (some (.file (Utf8.encode content) tree.clock))) := by
  refine publish_writable holds publishable.entry ?_
    ⟨ordinary_of_isEntryName publishable.entry, short, onlyFiles target publishable.entry⟩ content
  rw [asideName_of_clean holds clean]
  exact publishable.aside

/-- Publishing under a name that is too long changes nothing that is shown. -/
theorem publish_tooLong (holds : tree.Holds directory place view) (onlyFiles : OnlyFiles view)
    {target : Text} (publishable : Publishable target)
    (tooLong : longestName < (Utf8.encode target).length) (content : Text) :
    ∃ after, publish directory tree target content = (.error .nameTooLong, after) ∧
      tree.Revised after directory place view := by
  obtain ⟨why, after, published, cause, revised⟩ := publish_refused holds
    (fun fits => Nat.not_le.mpr tooLong fits.2.1) publishable.entry content
  obtain rfl := cause (onlyFiles target publishable.entry)
  exact ⟨after, published, revised⟩

/-! ## Keeping a bundle -/

private theorem suffixOf_append {stem ending : Text} (nonempty : stem ≠ []) (something : ending ≠ [])
    (noDot : '.' ∉ ending) : Path.suffixOf (stem ++ '.' :: ending) = '.' :: ending := by
  have tail : (stem ++ '.' :: ending).reverse.takeWhile (· != '.') = ending.reverse := by
    rw [List.reverse_append, List.reverse_cons, List.append_assoc,
      List.takeWhile_append_of_pos (by
        intro c member
        have other : c ≠ '.' := fun same => noDot (same ▸ List.mem_reverse.mp member)
        simpa using other)]
    simp
  have length : (stem ++ '.' :: ending).length - ending.reverse.length - 1 = stem.length := by
    simp only [List.length_append, List.length_cons, List.length_reverse]
    omega
  have before : 0 < stem.length := List.length_pos_iff.mpr nonempty
  rw [Path.suffixOf]
  simp only [tail, length]
  rw [if_pos, List.drop_left]
  refine ⟨?_, before, ?_⟩
  · simp only [List.length_append, List.length_cons, List.length_reverse]
    omega
  · simpa using something

theorem suffixOf_key (subject : Subject) : Path.suffixOf subject.key = ".md".toList := by
  have stem : label subject.request.directory ++ '_' :: fingerprintOf subject.canonicalText ≠ [] := by
    simp
  rw [Subject.key_eq]
  exact suffixOf_append stem (by decide) (by decide)

theorem suffixOf_recordName (subject : Subject) :
    Path.suffixOf (recordName subject.key) = ".json".toList := by
  have split : recordName subject.key = (subject.key ++ ".meta".toList) ++ '.' :: "json".toList := by
    simp [recordName]
  rw [split]
  exact suffixOf_append (by simp) (by decide) (by decide)

theorem publishable_key (subject : Subject) : Publishable subject.key :=
  ⟨isEntryName_key subject, by rw [suffixOf_key]; decide⟩

theorem publishable_recordName (subject : Subject) : Publishable (recordName subject.key) :=
  ⟨isEntryName_recordName subject, by rw [suffixOf_recordName]; decide⟩

/-- The name of the record is short enough for a file, and so is the key. -/
def Fits (subject : Subject) : Prop :=
  (Utf8.encode (recordName subject.key)).length ≤ longestName

instance (subject : Subject) : Decidable (Fits subject) :=
  inferInstanceAs (Decidable (_ ≤ _))

theorem Fits.key {subject : Subject} (fits : Fits subject) :
    (Utf8.encode subject.key).length ≤ longestName := by
  rw [Fits, recordName, Utf8.encode, List.flatMap_append, List.length_append] at fits
  rw [Utf8.encode]
  omega

theorem ascii_of_isAlphanum {c : Char} (letter : c.isAlphanum = true) : c.toNat < 0x80 := by
  have below {last : UInt32} (upTo : c.val ≤ last) (small : last.toNat < 0x80) : c.toNat < 0x80 :=
    Nat.lt_of_le_of_lt (UInt32.le_iff_toNat_le.mp upTo) small
  rcases Bool.or_eq_true_iff.mp letter with letter | digit
  · rcases Bool.or_eq_true_iff.mp letter with upper | lower
    · exact below (of_decide_eq_true upper).2 (by decide)
    · exact below (of_decide_eq_true (Bool.and_eq_true_iff.mp lower).2) (by decide)
  · exact below (of_decide_eq_true (Bool.and_eq_true_iff.mp digit).2) (by decide)

private theorem ascii_of_isLabelChar {c : Char} (listed : isLabelChar c = true) :
    c.toNat < 0x80 := by
  rcases Bool.or_eq_true_iff.mp listed with letter | underscore
  · exact ascii_of_isAlphanum letter
  · rw [beq_iff_eq.mp underscore]
    decide

private theorem ascii_of_isHexDigit {c : Char} (digit : isHexDigit c = true) : c.toNat < 0x80 := by
  have all : ∀ c ∈ "0123456789abcdef".toList, c.toNat < 0x80 := by simp
  exact all c (List.contains_iff_mem.mp digit)

/-- The names of a bundle fit exactly if the label of its directory is short enough. -/
theorem fits_iff {subject : Subject} :
    Fits subject ↔ (label subject.request.directory).length ≤ 225 := by
  have letters := List.all_eq_true.mp (label_isLabel subject.request.directory).2
  have digits := List.all_eq_true.mp (fingerprintOf_isHex subject.canonicalText)
  have ascii : ∀ c ∈ recordName subject.key, c.toNat < 0x80 := by
    have ending : ∀ c ∈ ".md.meta.json".toList, c.toNat < 0x80 := by simp
    have split : recordName subject.key = label subject.request.directory ++
        '_' :: fingerprintOf subject.canonicalText ++ ".md.meta.json".toList := by
      simp [recordName, Subject.key_eq]
    rw [split]
    intro c member
    simp only [List.mem_append, List.mem_cons] at member
    rcases member with (inLabel | rfl | inDigest) | inEnding
    · exact ascii_of_isLabelChar (letters c inLabel)
    · decide
    · exact ascii_of_isHexDigit (digits c inDigest)
    · exact ending c inEnding
  rw [Fits, Utf8.length_encode_of_ascii ascii, recordName, Subject.key_eq, longestName]
  simp only [List.length_append, List.length_cons, length_fingerprintOf, fingerprintLength]
  have endings : ".md".toList.length = 3 ∧ ".meta.json".toList.length = 10 := by decide
  rw [endings.1, endings.2]
  omega

/-- What a directory shows once a bundle is kept: its text and its record. -/
def keptView (view : Text → Option Entry) (subject : Subject) (content now : Text)
    (changed later : Int) : Text → Option Entry :=
  Function.update
    (Function.update view subject.key (some (.file (Utf8.encode content) changed)))
    (recordName subject.key)
    (some (.file (Utf8.encode (recordText subject.request subject.times now)) later))

/-- Keep a bundle for a subject in a directory that is there. -/
def keep (directory : Path) (tree : Tree) (subject : Subject) (content now : Text) :
    Except StorageFault Path × Tree :=
  match publish directory tree subject.key content with
  | (.error why, after) => (.error why, after)
  | (.ok (), kept) =>
      match publish directory kept (recordName subject.key)
          (recordText subject.request subject.times now) with
      | (.error why, after) => (.error why, after)
      | (.ok (), recorded) => (.ok (directory.child subject.key), recorded)

/-- To store a bundle is to make the directory and to keep the bundle there. -/
theorem store_eq_keep (directory : Path) (tree : Tree) (request : Request) (files : List Text)
    (content now : Text) :
    store directory tree request files content now =
      match tree.prepareDirectory directory with
      | (.error why, ready) => (.error why, ready)
      | (.ok (), ready) => keep directory ready (.now tree request files) content now := rfl

theorem store_eq_of_holds (holds : tree.Holds directory place view) (request : Request)
    (files : List Text) (content now : Text) :
    store directory tree request files content now =
      keep directory tree (.now tree request files) content now := by
  rw [store_eq_keep, holds.prepareDirectory]

/-- Under each ending there is a name aside with at most fifty digits that nothing has. -/
def Roomy (view : Text → Option Entry) : Prop :=
  ∀ ending, ∃ n < 10 ^ 50, view (asideMark ++ Text.ofNat n ++ ending) = none

theorem Clean.roomy (clean : Clean view) : Roomy view := fun ending =>
  ⟨0, Nat.pow_pos (Nat.succ_pos 9), by rw [List.append_assoc, clean]⟩

/-- A directory with few entries is roomy: its size bounds the numbers that are taken. -/
theorem roomy_of_few (holds : tree.Holds directory place view)
    (few : (namesIn tree directory).length < 10 ^ 50) : Roomy view := by
  intro ending
  obtain ⟨n, shape, least, -⟩ := asideName_least (namesIn tree directory) ending
  exact ⟨n, Nat.lt_of_le_of_lt least few, shape ▸ view_asideName holds ending⟩

theorem Roomy.update {name : Text} (roomy : Roomy view) (entry : isEntryName name = true)
    (value : Option Entry) : Roomy (Function.update view name value) := by
  intro ending
  obtain ⟨n, small, free⟩ := roomy ending
  refine ⟨n, small, ?_⟩
  rw [Function.update_of_ne, free]
  rw [List.append_assoc]
  exact ne_of_isEntryName entry _

/-- In a roomy directory the name aside is short enough for a file. -/
theorem short_asideName (holds : tree.Holds directory place view) (roomy : Roomy view)
    {ending : Text} (short : (Utf8.encode ending).length ≤ 8) :
    (Utf8.encode (asideName (namesIn tree directory) ending)).length ≤ longestName := by
  obtain ⟨n, shape, -, least⟩ := asideName_least (namesIn tree directory) ending
  obtain ⟨m, small, free⟩ := roomy ending
  have below : n ≤ m := by
    by_contra above
    exact (view_eq_none_iff holds).mp free (least m (Nat.lt_of_not_le above))
  have digits : (Text.ofNat n).length ≤ 50 :=
    (Nat.length_toDigits_le_iff (by decide) (by decide)).mpr (Nat.lt_of_le_of_lt below small)
  have mark : (Utf8.encode asideMark).length = 5 := by decide
  rw [shape, Utf8.length_encode_append, Utf8.length_encode_append, mark,
    Utf8.length_encode_of_ascii fun c member => ascii_of_isAlphanum (by
      rw [Char.isAlphanum, Text.isDigit_of_mem_ofNat member, Bool.or_true]), longestName]
  omega

/-- A directory in which a bundle can be kept: there is room for a name aside, and no directory
stands under the two names of the bundle. -/
structure Vacant (view : Text → Option Entry) (subject : Subject) : Prop where
  roomy : Roomy view
  text : ∀ below, view subject.key ≠ some (.directory below)
  record : ∀ below, view (recordName subject.key) ≠ some (.directory below)

theorem vacant_of_clean (clean : Clean view) (onlyFiles : OnlyFiles view) (subject : Subject) :
    Vacant view subject :=
  ⟨clean.roomy, onlyFiles _ (isEntryName_key subject), onlyFiles _ (isEntryName_recordName subject)⟩

/-- A bundle whose names fit is kept where there is room for it. -/
theorem keep_vacant (holds : tree.Holds directory place view) {subject : Subject}
    (vacant : Vacant view subject) (fits : Fits subject) (content now : Text) :
    ∃ after changed later,
      keep directory tree subject content now = (.ok (directory.child subject.key), after) ∧
      tree.Revised after directory place (keptView view subject content now changed later) := by
  have text : Tree.Writable view subject.key :=
    ⟨ordinary_of_isEntryName (isEntryName_key subject), fits.key, vacant.text⟩
  obtain ⟨kept, first, keptRevised⟩ := publish_writable holds (isEntryName_key subject)
    (short_asideName holds vacant.roomy (by rw [suffixOf_key]; decide)) text content
  have record : Tree.Writable (Function.update view subject.key
      (some (.file (Utf8.encode content) tree.clock))) (recordName subject.key) := by
    refine ⟨ordinary_of_isEntryName (isEntryName_recordName subject), fits, fun below => ?_⟩
    rw [Function.update_of_ne (recordName_ne_key _ subject)]
    exact vacant.record below
  obtain ⟨after, second, revised⟩ := publish_writable keptRevised.holds
    (isEntryName_recordName subject)
    (short_asideName keptRevised.holds (vacant.roomy.update (isEntryName_key subject) _)
      (by rw [suffixOf_recordName]; decide))
    record (recordText subject.request subject.times now)
  refine ⟨after, tree.clock, kept.clock, ?_, keptRevised.trans revised⟩
  rw [keep]
  simp only [first, second]

/-- A bundle whose names fit is kept. -/
theorem keep_ok (holds : tree.Holds directory place view) (clean : Clean view)
    (onlyFiles : OnlyFiles view) {subject : Subject} (fits : Fits subject) (content now : Text) :
    ∃ after changed later,
      keep directory tree subject content now = (.ok (directory.child subject.key), after) ∧
      tree.Revised after directory place (keptView view subject content now changed later) :=
  keep_vacant holds (vacant_of_clean clean onlyFiles subject) fits content now

/-- A bundle whose names do not fit is not kept: at most its text is left, without a
record beside it. -/
theorem keep_tooLong (holds : tree.Holds directory place view) (clean : Clean view)
    (onlyFiles : OnlyFiles view) {subject : Subject} (tooLong : ¬ Fits subject)
    (content now : Text) :
    ∃ after value,
      keep directory tree subject content now = (.error .nameTooLong, after) ∧
      (value = view subject.key ∨ value = some (.file (Utf8.encode content) tree.clock)) ∧
      tree.Revised after directory place (Function.update view subject.key value) := by
  by_cases short : (Utf8.encode subject.key).length ≤ longestName
  · obtain ⟨kept, first, keptRevised⟩ := publish_ok holds clean onlyFiles
      (publishable_key subject) short content
    have keptFiles := onlyFiles.update subject.key (Utf8.encode content) tree.clock
    obtain ⟨after, second, revised⟩ := publish_tooLong keptRevised.holds keptFiles
      (publishable_recordName subject) (Nat.lt_of_not_le tooLong)
      (recordText subject.request subject.times now)
    refine ⟨after, _, ?_, Or.inr rfl, keptRevised.trans revised⟩
    rw [keep]
    simp only [first, second]
  · obtain ⟨after, first, revised⟩ := publish_tooLong holds onlyFiles
      (publishable_key subject) (Nat.lt_of_not_le short) content
    refine ⟨after, _, ?_, Or.inl rfl, ?_⟩
    · rw [keep]
      simp only [first]
    · rw [Function.update_eq_self]
      exact revised

theorem store_ok (holds : tree.Holds directory place view) (clean : Clean view)
    (onlyFiles : OnlyFiles view) (request : Request) (files : List Text) (content now : Text)
    (fits : Fits (.now tree request files)) :
    ∃ after changed later,
      store directory tree request files content now =
        (.ok (directory.child (Subject.now tree request files).key), after) ∧
      tree.Revised after directory place
        (keptView view (.now tree request files) content now changed later) := by
  rw [store_eq_of_holds holds]
  exact keep_ok holds clean onlyFiles fits content now

theorem store_tooLong (holds : tree.Holds directory place view) (clean : Clean view)
    (onlyFiles : OnlyFiles view) (request : Request) (files : List Text) (content now : Text)
    (tooLong : ¬ Fits (.now tree request files)) :
    ∃ after value,
      store directory tree request files content now = (.error .nameTooLong, after) ∧
      (value = view (Subject.now tree request files).key ∨
        value = some (.file (Utf8.encode content) tree.clock)) ∧
      tree.Revised after directory place
        (Function.update view (Subject.now tree request files).key value) := by
  rw [store_eq_of_holds holds]
  exact keep_tooLong holds clean onlyFiles tooLong content now

/-! ## Keeping a bundle in any directory -/

section Overwriting

variable {other : Text → Option Entry} {subject : Subject} {content : Text}

/-- What a directory may show after a bundle was to be kept in it. -/
structure Overwritten (subject : Subject) (content : Text) (view other : Text → Option Entry) :
    Prop where
  apart : ∀ name, name ≠ subject.key → name ≠ recordName subject.key → other name = view name
  directories : ∀ name below, other name = some (.directory below) ↔
    view name = some (.directory below)
  text : other = view ∨ ∃ changed, other subject.key = some (.file (Utf8.encode content) changed)

namespace Overwritten

theorem refl (subject : Subject) (content : Text) (view : Text → Option Entry) :
    Overwritten subject content view view :=
  ⟨fun _ _ _ => rfl, fun _ _ => Iff.rfl, Or.inl rfl⟩

private theorem directory_update {name : Text} (free : ∀ below, view name ≠ some (.directory below))
    (content : Bytes) (changed : Int) (asked : Text) (below : List (Text × Entry)) :
    Function.update view name (some (.file content changed)) asked = some (.directory below) ↔
      view asked = some (.directory below) := by
  by_cases same : asked = name
  · subst same
    simp [free below]
  · rw [Function.update_of_ne same]

theorem written (free : ∀ below, view subject.key ≠ some (.directory below)) (changed : Int) :
    Overwritten subject content view
      (Function.update view subject.key (some (.file (Utf8.encode content) changed))) where
  apart := fun _ notKey _ => Function.update_of_ne notKey _ _
  directories := directory_update free (Utf8.encode content) changed
  text := Or.inr ⟨changed, Function.update_self ..⟩

theorem recorded (overwritten : Overwritten subject content view other) (bytes : Bytes)
    (text : ∃ changed, other subject.key = some (.file (Utf8.encode content) changed))
    (free : ∀ below, other (recordName subject.key) ≠ some (.directory below)) (later : Int) :
    Overwritten subject content view
      (Function.update other (recordName subject.key) (some (.file bytes later))) where
  apart := fun name notKey notRecord => by
    rw [Function.update_of_ne notRecord, overwritten.apart name notKey notRecord]
  directories := fun name below =>
    (directory_update free bytes later name below).trans (overwritten.directories name below)
  text := by
    obtain ⟨changed, shown⟩ := text
    refine Or.inr ⟨changed, ?_⟩
    rw [Function.update_of_ne (Ne.symm (recordName_ne_key _ subject)), shown]

end Overwritten

/-- A text is published, or nothing that is shown changes. -/
theorem publish_cases (holds : tree.Holds directory place view) {target : Text}
    (entry : isEntryName target = true) (content : Text) :
    (∃ after, publish directory tree target content = (.ok (), after) ∧
      (∀ below, view target ≠ some (.directory below)) ∧
      tree.Revised after directory place
        (Function.update view target (some (.file (Utf8.encode content) tree.clock)))) ∨
    ∃ why after, publish directory tree target content = (.error why, after) ∧
      tree.Revised after directory place view := by
  by_cases fits : (Utf8.encode (asideName (namesIn tree directory)
        (Path.suffixOf target))).length ≤ longestName ∧
      (Utf8.encode target).length ≤ longestName ∧ ∀ below, view target ≠ some (.directory below)
  · obtain ⟨short, shortTarget, free⟩ := fits
    obtain ⟨after, published, revised⟩ := publish_writable holds entry short
      ⟨ordinary_of_isEntryName entry, shortTarget, free⟩ content
    exact Or.inl ⟨after, published, free, revised⟩
  · obtain ⟨why, after, refused, _, revised⟩ := publish_refused holds fits entry content
    exact Or.inr ⟨why, after, refused, revised⟩

/-- Keeping a bundle changes its two files at most. -/
theorem keep_overwritten (holds : tree.Holds directory place view) (subject : Subject)
    (content now : Text) : ∃ other,
      tree.Revised (keep directory tree subject content now).2 directory place other ∧
        Overwritten subject content view other := by
  rw [keep]
  rcases publish_cases holds (isEntryName_key subject) content with
    ⟨kept, published, free, revised⟩ | ⟨why, kept, refused, revised⟩
  · have written : Overwritten subject content view _ := .written free tree.clock
    simp only [published]
    rcases publish_cases revised.holds (isEntryName_recordName subject)
        (recordText subject.request subject.times now) with
      ⟨last, publishedRecord, freeRecord, revisedRecord⟩ | ⟨why, last, refused, revisedRecord⟩
    · simp only [publishedRecord]
      exact ⟨_, revised.trans revisedRecord,
        written.recorded _ ⟨tree.clock, Function.update_self ..⟩ freeRecord kept.clock⟩
    · simp only [refused]
      exact ⟨_, revised.trans revisedRecord, written⟩
  · simp only [refused]
    exact ⟨_, revised, .refl subject content view⟩

end Overwriting

/-! ## Looking for a bundle -/

/-- Without a record nothing is found. -/
theorem lookupKey_absent (holds : tree.Holds directory place view) {name : Text} (times : Times)
    (entry : isEntryName (recordName name) = true) (absent : view (recordName name) = none) :
    ∀ content, lookupKey directory tree name times ≠ .found content := by
  obtain ⟨why, refused⟩ := holds.readText_child_missing absent (ordinary_of_isEntryName entry)
  intro content
  rw [lookupKey, refused]
  cases why <;> exact Outcome.noConfusion

/-- A bundle that is kept for a subject is found for every alike one, with its line endings
as reading gives them. -/
theorem lookupKey_kept (holds : tree.Holds directory place view) {subject other : Subject}
    {content now : Text} {changed later : Int} (fits : Fits subject)
    (text : view subject.key = some (.file (Utf8.encode content) changed))
    (recorded : view (recordName subject.key) =
      some (.file (Utf8.encode (recordText subject.request subject.times now)) later))
    (lawful : subject.Lawful) (readable : subject.Readable) (alike : subject.Alike other) :
    lookupKey directory tree subject.key other.times = .found content.unifyNewlines := by
  have readRecord := holds.readText_child recorded
    (ordinary_of_isEntryName (isEntryName_recordName subject)) fits
  rw [Text.unifyNewlines_eq_self (noReturn_recordText lawful readable now)] at readRecord
  have readText := holds.readText_child text (ordinary_of_isEntryName (isEntryName_key subject))
    fits.key
  rw [lookupKey, readRecord]
  simp only [parse?_recordText lawful readable, isFresh_record alike lawful, if_true, readText]

end Cache
end Codemap
