import Codemap.Cache.Store
import Codemap.Proofs.Files.Place
import Codemap.Proofs.Json.Unambiguous
import Mathlib.Data.List.Infix
import Mathlib.Data.List.Perm.Basic

namespace Codemap
namespace Cache

/-!
# What the name of a bundle says

A bundle is kept for a subject: a request, a list of files and the times of their last
changes.  Two subjects are alike if their requests describe the same, their files are
the same set, and the times are the same.  The canonical text is the same for two
subjects exactly when they are alike, so alike subjects have one key, and keys tell
subjects apart as far as the digest tells texts apart.
-/

/-- What a bundle is kept for. -/
structure Subject where
  request : Request
  files : List Text
  times : Times
deriving DecidableEq, Repr, Inhabited

namespace Request

/-- Two requests describe the same: the order of globs and patterns does not matter, and
no depth is as good as minus one. -/
def Alike (left right : Request) : Prop :=
  left.directory = right.directory ∧ left.globs.Perm right.globs ∧
    left.patterns.Perm right.patterns ∧ left.depth.getD (-1) = right.depth.getD (-1)

instance (left right : Request) : Decidable (left.Alike right) :=
  inferInstanceAs (Decidable (_ ∧ _ ∧ _ ∧ _))

end Request

namespace Subject

/-- The subject of a request for some files as a tree has them. -/
def now (tree : Tree) (request : Request) (files : List Text) : Subject where
  request
  files
  times := timesOf tree files

/-- Two subjects are alike. -/
def Alike (left right : Subject) : Prop :=
  left.request.Alike right.request ∧
    (∀ file ∈ left.files, file ∈ right.files) ∧ (∀ file ∈ right.files, file ∈ left.files) ∧
    ∀ file ∈ left.files, recordedTime left.times file = recordedTime right.times file

instance (left right : Subject) : Decidable (left.Alike right) :=
  inferInstanceAs (Decidable (_ ∧ _ ∧ _ ∧ _))

/-- The times are those of the files, each file once. -/
def Lawful (subject : Subject) : Prop :=
  subject.times.map Prod.fst = subject.files.eraseDups

theorem now_lawful (tree : Tree) (request : Request) (files : List Text) :
    (now tree request files).Lawful := by
  simp [Lawful, now, timesOf, Function.comp_def]

/-- The integers of a subject have no more digits than may be read. -/
def Readable (subject : Subject) : Prop :=
  Json.Readable (subject.request.depth.getD (-1)) ∧
    ∀ entry ∈ subject.times, Json.Readable entry.2

instance (subject : Subject) : Decidable subject.Readable :=
  inferInstanceAs (Decidable (_ ∧ _))

/-- The canonical text of a subject. -/
def canonicalText (subject : Subject) : Text :=
  Cache.canonicalText subject.request subject.files subject.times

/-- The name under which a bundle for a subject is kept. -/
def key (subject : Subject) : Text :=
  Cache.key subject.request subject.files subject.times

end Subject

/-! ## Times -/

private theorem slash_tails : ∀ ending ∈ [['/'], ['/', '.']],
    '/' ∈ ending ∧ ∀ tail ∈ ending.tails, '/' ∉ tail → tail = [] ∨ tail = ['.'] := by
  decide

theorem not_needsDirectory {tree : Tree} {text : Text} {names : List Text}
    {content : Bytes} {changed : Int} (lists : tree.Lists text names content changed) :
    text ≠ [] ∧ needsDirectory text = false := by
  obtain ⟨before, last, split⟩ := (List.eq_nil_or_concat names).resolve_left lists.nonempty
  rw [List.concat_eq_append] at split
  have segment := isSegment_of_isName (lists.named last (by simp [split]))
  obtain ⟨nonempty, noSlash, notDot⟩ := isSegment_iff.mp segment
  have ends : last <:+ text := by
    rw [lists.text, split, Path.text, if_neg (by simp),
      Path.intercalate_append _ _ (List.cons_ne_nil last []), List.intercalate_singleton,
      ← List.append_assoc]
    exact List.suffix_append _ last
  refine ⟨fun empty => nonempty ?_, ?_⟩
  · rw [empty] at ends
    exact List.suffix_nil.mp ends
  · rw [needsDirectory, Text.endsWithAny, List.any_eq_false]
    intro ending listed isEnding
    obtain ⟨slash, tails⟩ := slash_tails ending listed
    rcases List.suffix_or_suffix_of_suffix ends (List.isSuffixOf_iff_suffix.mp isEnding) with
      inside | outside
    · exact (tails last ((List.mem_tails _ _).mpr inside) noSlash).elim nonempty notDot
    · exact noSlash (outside.subset slash)

/-- The time of a file that is there. -/
theorem timeOf_of_lists {tree : Tree} {text : Text} {names : List Text} {content : Bytes}
    {changed : Int}
    (lists : tree.Lists text names content changed) : timeOf tree text = changed := by
  obtain ⟨nonempty, free⟩ := not_needsDirectory lists
  have notEmpty : text.isEmpty = false := by simpa using nonempty
  rw [timeOf, notEmpty, free, Tree.changed, lists.entry]
  rfl

theorem timesOf_eq {tree after : Tree} {files : List Text}
    (same : ∀ file ∈ files, timeOf after file = timeOf tree file) :
    timesOf after files = timesOf tree files := by
  apply List.map_congr_left
  intro file member
  rw [same file (List.mem_eraseDups.mp member)]

theorem recordedTime_of_mem {times : Times} (once : (times.map Prod.fst).Nodup) {file : Text}
    {time : Int} (member : (file, time) ∈ times) : recordedTime times file = time := by
  induction times with
  | nil => cases member
  | cons entry rest inductionHypothesis =>
      obtain ⟨other, first⟩ := entry
      obtain ⟨fresh, onceRest⟩ := List.nodup_cons.mp once
      rcases List.mem_cons.mp member with same | later
      · cases same
        simp [recordedTime]
      · have apart : other ≠ file := fun same => fresh (List.mem_map.mpr ⟨_, later, same.symm⟩)
        rw [recordedTime, if_neg apart]
        exact inductionHypothesis onceRest later

/-- The time that is recorded for a file is its time. -/
theorem recordedTime_timesOf {tree : Tree} {files : List Text} {file : Text} (member : file ∈ files) :
    recordedTime (timesOf tree files) file = timeOf tree file := by
  apply recordedTime_of_mem
  · have names : (timesOf tree files).map Prod.fst = files.eraseDups := by
      simp [timesOf, Function.comp_def]
    rw [names]
    exact nodup_eraseDups files
  · exact List.mem_map.mpr ⟨file, List.mem_eraseDups.mpr member, rfl⟩

theorem mem_of_recordedTime {times : Times} {file : Text} (listed : file ∈ times.map Prod.fst) :
    (file, recordedTime times file) ∈ times := by
  induction times with
  | nil => cases listed
  | cons entry rest inductionHypothesis =>
      obtain ⟨other, first⟩ := entry
      by_cases same : other = file
      · simp [recordedTime, same]
      · rw [List.map_cons, List.mem_cons] at listed
        have later := listed.resolve_left (Ne.symm same)
        rw [recordedTime, if_neg same]
        exact List.mem_cons_of_mem _ (inductionHypothesis later)

namespace Subject

variable {left right subject : Subject}

theorem Lawful.nodup (lawful : subject.Lawful) : (subject.times.map Prod.fst).Nodup := by
  rw [lawful]
  exact nodup_eraseDups subject.files

theorem Lawful.mem_times_iff (lawful : subject.Lawful) {file : Text} {time : Int} :
    (file, time) ∈ subject.times ↔ file ∈ subject.files ∧ recordedTime subject.times file = time := by
  have listed : file ∈ subject.times.map Prod.fst ↔ file ∈ subject.files := by
    rw [lawful, List.mem_eraseDups]
  constructor
  · intro member
    exact ⟨listed.mp (List.mem_map.mpr ⟨_, member, rfl⟩), recordedTime_of_mem lawful.nodup member⟩
  · rintro ⟨file, rfl⟩
    exact mem_of_recordedTime (listed.mpr file)

/-- Alike subjects have the same times, in some order. -/
theorem Alike.times_perm (alike : left.Alike right) (leftLawful : left.Lawful)
    (rightLawful : right.Lawful) : left.times.Perm right.times := by
  obtain ⟨_, into, back, times⟩ := alike
  have leftOnce : left.times.Nodup := leftLawful.nodup.of_map
  have rightOnce : right.times.Nodup := rightLawful.nodup.of_map
  apply (List.perm_ext_iff_of_nodup leftOnce rightOnce).mpr
  rintro ⟨file, time⟩
  rw [leftLawful.mem_times_iff, rightLawful.mem_times_iff]
  constructor
  · rintro ⟨member, recorded⟩
    exact ⟨into file member, (times file member).symm.trans recorded⟩
  · rintro ⟨member, recorded⟩
    exact ⟨back file member, (times file (back file member)).trans recorded⟩

end Subject

/-! ## Plain values -/

theorem plain_textArray (texts : List Text) : (textArray texts).Plain := by
  rw [textArray, Json.Plain, Json.plainItems_iff]
  intro item member
  obtain ⟨text, _, rfl⟩ := List.mem_map.mp member
  trivial

theorem sortKeys_textArray (texts : List Text) : (textArray texts).sortKeys = textArray texts := by
  rw [textArray, Json.sortKeys, Json.sortKeysItems_eq, List.map_map]
  rfl

theorem textArray_injective {left right : List Text} (same : textArray left = textArray right) :
    left = right := by
  have items := Json.arr.inj same
  exact List.map_injective_iff.mpr (fun _ _ equal => Json.str.inj equal) items

theorem plain_descriptor {request : Request} (readable : Json.Readable (request.depth.getD (-1))) :
    request.descriptor.Plain := by
  refine ⟨by simp, ?_⟩
  exact ⟨trivial, plain_textArray _, plain_textArray _, readable, trivial⟩

theorem plain_timesObject {times : Times} (once : (times.map Prod.fst).Nodup)
    (readable : ∀ entry ∈ times, Json.Readable entry.2) : (timesObject times).Plain := by
  refine ⟨?_, Json.plainMembers_iff.mpr fun member listed => ?_⟩
  · rw [List.map_map]
    exact once
  · obtain ⟨entry, recorded, rfl⟩ := List.mem_map.mp listed
    exact readable entry recorded

/-- The times with their names sorted. -/
theorem sortKeys_timesObject (times : Times) :
    (timesObject times).sortKeys =
      .obj (Json.inOrder (times.map fun entry => (entry.1, .int entry.2))) := by
  rw [timesObject, Json.sortKeys_obj, List.map_map]
  rfl

/-! ## Canonical texts -/

/-- What a canonical text writes, with all names in order. -/
theorem sortKeys_payload (request : Request) (files : List Text) (times : Times) :
    (payload request files times).sortKeys = .obj
      [("files".toList, textArray (Text.sortedSet files)),
        ("mtimes".toList, (timesObject times).sortKeys),
        ("request".toList, .obj
          [("globs".toList, textArray (Text.sort request.globs)),
            ("reference_depth".toList, .int (request.depth.getD (-1))),
            ("regex".toList, textArray (Text.sort request.patterns)),
            ("target_directory".toList, .str request.directory)])] := by
  have inside : request.descriptor.sortKeys = .obj
      [("globs".toList, textArray (Text.sort request.globs)),
        ("reference_depth".toList, .int (request.depth.getD (-1))),
        ("regex".toList, textArray (Text.sort request.patterns)),
        ("target_directory".toList, .str request.directory)] := by
    rw [Request.descriptor, Json.sortKeys_obj]
    simp only [List.map_cons, List.map_nil, sortKeys_textArray, Json.sortKeys]
    refine congrArg Json.obj (Json.inOrder_eq_of_ordered (by simp) ?_ (by simp; decide))
    exact (List.perm_append_singleton _ [_, _, _]).symm.trans (.cons _ (.swap _ _ _))
  rw [payload, Json.sortKeys_obj]
  simp only [List.map_cons, List.map_nil, sortKeys_textArray, inside]
  exact congrArg Json.obj (Json.inOrder_eq_of_ordered (by simp)
    (List.perm_append_singleton _ [_, _]).symm (by simp; decide))

theorem Request.alike_of_descriptor {left right : Request}
    (same : left.descriptor.sortKeys = right.descriptor.sortKeys) : left.Alike right := by
  have under (name : Text) : (Json.sortKeys left.descriptor).get? name =
      (Json.sortKeys right.descriptor).get? name := by rw [same]
  simp only [Request.descriptor] at under
  have directory := under "target_directory".toList
  have globs := under "globs".toList
  have patterns := under "regex".toList
  have depth := under "reference_depth".toList
  rw [Json.get?_sortKeys (by simp), Json.get?_sortKeys (by simp)] at directory globs patterns depth
  simp [Json.look?, Json.sortKeys, sortKeys_textArray] at directory globs patterns depth
  exact ⟨directory, Text.perm_of_sort_eq (textArray_injective globs),
    Text.perm_of_sort_eq (textArray_injective patterns), depth⟩

theorem Request.Alike.descriptor {left right : Request} (alike : left.Alike right) :
    left.descriptor = right.descriptor := by
  obtain ⟨directory, globs, patterns, depth⟩ := alike
  rw [Request.descriptor, Request.descriptor, directory, Text.sort_eq_of_perm globs,
    Text.sort_eq_of_perm patterns, depth]

theorem exact_textArray (texts : List Text) : (textArray texts).Exact := by
  rw [textArray, Json.Exact, Json.exactItems_iff]
  intro item member
  obtain ⟨text, _, rfl⟩ := List.mem_map.mp member
  trivial

theorem exact_timesObject (times : Times) : (timesObject times).Exact := by
  rw [timesObject, Json.Exact, Json.exactMembers_iff]
  intro member listed
  obtain ⟨entry, _, rfl⟩ := List.mem_map.mp listed
  trivial

theorem exact_payload (request : Request) (files : List Text) (times : Times) :
    (payload request files times).Exact :=
  ⟨⟨trivial, exact_textArray _, exact_textArray _, trivial, trivial⟩, exact_textArray _,
    exact_timesObject times, trivial⟩

/-- Times that are written alike are the same, in some order. -/
theorem perm_of_timesObject {left right : Times}
    (same : (timesObject left).sortKeys = (timesObject right).sortKeys) : left.Perm right := by
  rw [sortKeys_timesObject, sortKeys_timesObject] at same
  have written : (left.map fun entry => (entry.1, Json.int entry.2)).Perm
      (right.map fun entry => (entry.1, Json.int entry.2)) := by
    have first := Json.inOrder_perm (left.map fun entry => (entry.1, Json.int entry.2))
    rw [Json.obj.inj same] at first
    exact first.symm.trans (Json.inOrder_perm _)
  refine (List.map_perm_map_iff fun entry other equal => ?_).mp written
  obtain ⟨names, values⟩ := Prod.mk.inj equal
  exact Prod.ext names (Json.int.inj values)

/-- Times of distinct files are written alike in every order. -/
theorem timesObject_of_perm {left right : Times} (once : (left.map Prod.fst).Nodup)
    (permutation : left.Perm right) :
    (timesObject left).sortKeys = (timesObject right).sortKeys := by
  have distinct : ((left.map fun entry => (entry.1, Json.int entry.2)).map Prod.fst).Nodup := by
    rw [List.map_map]
    exact once
  rw [sortKeys_timesObject, sortKeys_timesObject,
    Json.inOrder_eq_of_perm distinct (permutation.map _)]

section CanonicalText

variable {left right : Request} {leftFiles rightFiles : List Text} {leftTimes rightTimes : Times}

/-- A canonical text tells what it was written for. -/
theorem parts_of_canonicalText
    (same : canonicalText left leftFiles leftTimes = canonicalText right rightFiles rightTimes) :
    left.Alike right ∧ (∀ file, file ∈ leftFiles ↔ file ∈ rightFiles) ∧
      leftTimes.Perm rightTimes := by
  have payloads : (payload left leftFiles leftTimes).sortKeys =
      (payload right rightFiles rightTimes).sortKeys :=
    Json.render_injective Json.Separators.lawful_compact
      (Json.exact_sortKeys _ (exact_payload left leftFiles leftTimes))
      (Json.exact_sortKeys _ (exact_payload right rightFiles rightTimes)) same
  have under (name : Text) : (payload left leftFiles leftTimes).sortKeys.get? name =
      (payload right rightFiles rightTimes).sortKeys.get? name := by rw [payloads]
  simp only [payload] at under
  have request := under "request".toList
  have files := under "files".toList
  have times := under "mtimes".toList
  rw [Json.get?_sortKeys (by simp), Json.get?_sortKeys (by simp)] at request files times
  simp [Json.look?, sortKeys_textArray] at request files times
  have sameFiles := textArray_injective files
  refine ⟨Request.alike_of_descriptor request, fun file => ?_, perm_of_timesObject times⟩
  rw [← Text.mem_sortedSet, sameFiles, Text.mem_sortedSet]

/-- The order in which globs, patterns, files and times are given does not show in a
canonical text, nor how often a file is given. -/
theorem canonicalText_congr (once : (leftTimes.map Prod.fst).Nodup) (alike : left.Alike right)
    (files : ∀ file, file ∈ leftFiles ↔ file ∈ rightFiles) (times : leftTimes.Perm rightTimes) :
    canonicalText left leftFiles leftTimes = canonicalText right rightFiles rightTimes := by
  have payloads : (payload left leftFiles leftTimes).sortKeys =
      (payload right rightFiles rightTimes).sortKeys := by
    rw [payload, payload, Json.sortKeys_obj, Json.sortKeys_obj, alike.descriptor,
      Text.sortedSet_eq_of_mem_iff files]
    simp only [List.map_cons, timesObject_of_perm once times]
  rw [canonicalText, canonicalText, payloads]

/-- Two canonical texts are the same exactly if the requests describe the same, the files
are the same set and the times are the same.  The times of a list of pairs are a mapping
because no file has two of them; their digits may be as many as they like. -/
theorem canonicalText_eq_iff (leftOnce : (leftTimes.map Prod.fst).Nodup)
    (rightOnce : (rightTimes.map Prod.fst).Nodup) :
    canonicalText left leftFiles leftTimes = canonicalText right rightFiles rightTimes ↔
      left.Alike right ∧ (∀ file, file ∈ leftFiles ↔ file ∈ rightFiles) ∧
        ∀ entry, entry ∈ leftTimes ↔ entry ∈ rightTimes := by
  have times : leftTimes.Perm rightTimes ↔ ∀ entry, entry ∈ leftTimes ↔ entry ∈ rightTimes :=
    List.perm_ext_iff_of_nodup leftOnce.of_map rightOnce.of_map
  constructor
  · intro same
    obtain ⟨alike, files, permutation⟩ := parts_of_canonicalText same
    exact ⟨alike, files, times.mp permutation⟩
  · rintro ⟨alike, files, entries⟩
    exact canonicalText_congr leftOnce alike files (times.mpr entries)

end CanonicalText

/-- A request with quotes and characters beyond the basic plane. -/
def quotedRequest : Request where
  directory := "/srv/\x22a\x22\\b".toList
  globs := ["😀*.py".toList, "!*,\x22]".toList, "😀*.py".toList]

/-- The same request, given in another way. -/
def reorderedRequest : Request where
  directory := "/srv/\x22a\x22\\b".toList
  globs := ["!*,\x22]".toList, "😀*.py".toList, "😀*.py".toList]
  depth := some (-1)

/-- Given in another order, with a file named twice and the depth left out, the subject has
the same canonical text. -/
theorem canonicalText_reordered :
    ([("x,".toList, (-2 : Int)), ("é".toList, 10)].map Prod.fst).Nodup ∧
      ([("é".toList, (10 : Int)), ("x,".toList, -2)].map Prod.fst).Nodup ∧
      canonicalText quotedRequest ["x,".toList, "é".toList, "x,".toList]
          [("x,".toList, -2), ("é".toList, 10)] =
        canonicalText reorderedRequest ["é".toList, "x,".toList]
          [("é".toList, 10), ("x,".toList, -2)] := by
  refine ⟨by decide, by decide, (canonicalText_eq_iff (by decide) (by decide)).mpr ⟨by decide, ?_, ?_⟩⟩
  · intro file
    simp only [List.mem_cons, List.not_mem_nil, or_false]
    tauto
  · intro entry
    simp only [List.mem_cons, List.not_mem_nil, or_false]
    tauto

namespace Subject

variable {left right : Subject}

/-- Subjects with one canonical text are alike. -/
theorem alike_of_canonicalText (leftLawful : left.Lawful) (rightLawful : right.Lawful)
    (same : left.canonicalText = right.canonicalText) : left.Alike right := by
  obtain ⟨alike, files, times⟩ := parts_of_canonicalText same
  refine ⟨alike, fun file => (files file).mp, fun file => (files file).mpr, fun file member => ?_⟩
  have recorded := leftLawful.mem_times_iff.mpr ⟨member, rfl⟩
  exact (rightLawful.mem_times_iff.mp (times.mem_iff.mp recorded)).2.symm

/-- Alike subjects have one canonical text. -/
theorem Alike.canonicalText (alike : left.Alike right) (leftLawful : left.Lawful)
    (rightLawful : right.Lawful) : left.canonicalText = right.canonicalText :=
  canonicalText_congr leftLawful.nodup alike.1
    (fun file => ⟨alike.2.1 file, alike.2.2.1 file⟩) (alike.times_perm leftLawful rightLawful)

end Subject

/-! ## Names in the cache -/

/-- The digits that stand for a text. -/
def fingerprintOf (text : Text) : Text :=
  (Digest.hex (Utf8.encode text)).take fingerprintLength

theorem length_fingerprintOf (text : Text) : (fingerprintOf text).length = fingerprintLength := by
  simp [fingerprintOf, fingerprintLength, Digest.hex, Digest.hexWord]

namespace Subject

variable {left right : Subject}

theorem key_eq (subject : Subject) :
    subject.key = label subject.request.directory ++
      '_' :: fingerprintOf subject.canonicalText ++ ".md".toList := rfl

/-- Alike subjects have one key. -/
theorem Alike.key (alike : left.Alike right) (leftLawful : left.Lawful)
    (rightLawful : right.Lawful) : left.key = right.key := by
  rw [key_eq, key_eq, alike.canonicalText leftLawful rightLawful, alike.1.1]

theorem fingerprint_of_key (same : left.key = right.key) :
    fingerprintOf left.canonicalText = fingerprintOf right.canonicalText := by
  rw [key_eq, key_eq, List.append_assoc, List.append_assoc] at same
  have lengths : ('_' :: fingerprintOf left.canonicalText ++ ".md".toList).length =
      ('_' :: fingerprintOf right.canonicalText ++ ".md".toList).length := by
    simp [length_fingerprintOf]
  have endings := List.append_inj_right' same lengths
  exact (List.cons.inj (List.append_cancel_right endings)).2

end Subject

/-- The beginning of the names of files that are written aside. -/
def asideMark : Text := ".tmp-".toList

/-- A character that a label may have. -/
def isLabelChar (c : Char) : Bool :=
  c.isAlphanum || c == '_'

/-- A character that a fingerprint may have. -/
def isHexDigit (c : Char) : Bool :=
  "0123456789abcdef".toList.contains c

/-- A text has the form of a key: a label, an underscore, the digits of a fingerprint, and
the ending of a bundle. -/
def isKey (name : Text) : Bool :=
  let stem := name.take (name.length - 3)
  let label := stem.take (stem.length - (fingerprintLength + 1))
  let digits := stem.drop (stem.length - fingerprintLength)
  name == label ++ '_' :: digits ++ ".md".toList && !label.isEmpty && label.all isLabelChar &&
    digits.all isHexDigit

/-- A text has the form of a key or of the name of the record beside it. -/
def isEntryName (name : Text) : Bool :=
  isKey name || isKey (name.take (name.length - 10)) &&
    name == recordName (name.take (name.length - 10))

theorem label_isLabel (directory : Text) :
    label directory ≠ [] ∧ (label directory).all isLabelChar = true := by
  rw [label]
  refine ⟨?_, ?_⟩
  · rw [ne_eq, List.map_eq_nil_iff]
    split
    · decide
    · next named => simpa using named
  · rw [List.all_eq_true]
    intro c member
    obtain ⟨letter, _, rfl⟩ := List.mem_map.mp member
    split
    · next allowed => simp [isLabelChar, allowed]
    · rfl

private theorem isHexDigit_digitChar : ∀ n < 16, isHexDigit (Nat.digitChar n) = true := by decide

theorem fingerprintOf_isHex (text : Text) : (fingerprintOf text).all isHexDigit = true := by
  rw [List.all_eq_true]
  intro c member
  have digit := List.mem_of_mem_take member
  simp only [Digest.hex, List.mem_flatMap, Digest.hexWord, List.mem_map] at digit
  obtain ⟨_, _, _, _, rfl⟩ := digit
  exact isHexDigit_digitChar _ (Nat.mod_lt _ (by decide))

theorem isKey_key (subject : Subject) : isKey subject.key = true := by
  obtain ⟨nonempty, letters⟩ := label_isLabel subject.request.directory
  have digits := fingerprintOf_isHex subject.canonicalText
  have count := length_fingerprintOf subject.canonicalText
  rw [Subject.key_eq]
  generalize label subject.request.directory = word at nonempty letters
  generalize fingerprintOf subject.canonicalText = digest at digits count
  have stem : (word ++ '_' :: digest ++ ".md".toList).take
      ((word ++ '_' :: digest ++ ".md".toList).length - 3) = word ++ '_' :: digest := by
    rw [List.length_append]
    exact List.take_left
  have before : (word ++ '_' :: digest).take
      ((word ++ '_' :: digest).length - (fingerprintLength + 1)) = word := by
    rw [List.length_append, List.length_cons, count, Nat.add_sub_cancel]
    exact List.take_left
  have after : (word ++ '_' :: digest).drop
      ((word ++ '_' :: digest).length - fingerprintLength) = digest := by
    rw [List.length_append, List.length_cons, count, ← Nat.add_assoc, Nat.add_right_comm,
      Nat.add_sub_cancel, List.append_cons, ← List.length_singleton (a := '_'),
      ← List.length_append]
    exact List.drop_left
  rw [isKey, stem, before, after]
  simp [nonempty, letters, digits]

theorem isEntryName_key (subject : Subject) : isEntryName subject.key = true := by
  rw [isEntryName, isKey_key, Bool.true_or]

theorem isEntryName_recordName (subject : Subject) :
    isEntryName (recordName subject.key) = true := by
  have stem : (recordName subject.key).take ((recordName subject.key).length - 10) =
      subject.key := by
    rw [recordName, List.length_append]
    exact List.take_left
  rw [isEntryName, stem, isKey_key]
  simp

/-- A key begins with a character of its label, and ends like a bundle. -/
theorem shape_of_isKey {name : Text} (key : isKey name = true) :
    (∃ c rest, name = c :: rest ∧ isLabelChar c = true) ∧ ".md".toList <:+ name := by
  simp only [isKey, Bool.and_eq_true, beq_iff_eq, Bool.not_eq_true', List.isEmpty_eq_false_iff]
    at key
  obtain ⟨⟨⟨shape, nonempty⟩, letters⟩, _⟩ := key
  generalize (name.take (name.length - 3)).take _ = word at shape nonempty letters
  rw [shape]
  refine ⟨?_, List.suffix_append _ _⟩
  cases word with
  | nil => exact absurd rfl nonempty
  | cons c rest =>
      rw [List.all_cons, Bool.and_eq_true] at letters
      exact ⟨c, _, rfl, letters.1⟩

/-- An entry begins with a character of its label, and ends like a bundle or a record. -/
theorem shape_of_isEntryName {name : Text} (entry : isEntryName name = true) :
    (∃ c rest, name = c :: rest ∧ isLabelChar c = true) ∧
      (".md".toList <:+ name ∨ ".meta.json".toList <:+ name) := by
  rw [isEntryName, Bool.or_eq_true, Bool.and_eq_true, beq_iff_eq] at entry
  rcases entry with key | ⟨key, record⟩
  · obtain ⟨begins, ends⟩ := shape_of_isKey key
    exact ⟨begins, Or.inl ends⟩
  · obtain ⟨⟨c, rest, begins, letter⟩, _⟩ := shape_of_isKey key
    rw [record, recordName]
    exact ⟨⟨c, rest ++ ".meta.json".toList, by rw [begins]; rfl, letter⟩,
      Or.inr (List.suffix_append _ _)⟩

theorem ordinary_of_isEntryName {name : Text} (entry : isEntryName name = true) :
    name ≠ upward := by
  rintro rfl
  cases entry

/-- The name of an entry is one name of a path. -/
theorem isSegment_of_isEntryName {name : Text} (entry : isEntryName name = true) :
    isSegment name = true := by
  have noSlash {key : Text} (isKey : isKey key = true) : '/' ∉ key := by
    simp only [Cache.isKey, Bool.and_eq_true, beq_iff_eq] at isKey
    obtain ⟨⟨⟨shape, _⟩, letters⟩, digits⟩ := isKey
    intro slash
    rw [shape, List.mem_append, List.mem_append, List.mem_cons] at slash
    rcases slash with (inLabel | same | inDigits) | inEnding
    · exact absurd (List.all_eq_true.mp letters _ inLabel) (by decide)
    · exact absurd same (by decide)
    · exact absurd (List.all_eq_true.mp digits _ inDigits) (by decide)
    · exact absurd inEnding (by decide)
  have free : '/' ∉ name := by
    rw [isEntryName, Bool.or_eq_true, Bool.and_eq_true, beq_iff_eq] at entry
    rcases entry with key | ⟨key, record⟩
    · exact noSlash key
    · rw [record, recordName, List.mem_append, not_or]
      exact ⟨noSlash key, by decide⟩
  obtain ⟨⟨c, rest, begins, letter⟩, _⟩ := shape_of_isEntryName entry
  refine isSegment_iff.mpr ⟨by simp [begins], free, fun dot => ?_⟩
  rw [begins] at dot
  rw [(List.cons.inj dot).1] at letter
  cases letter

/-- A file that is written aside is not mistaken for an entry. -/
theorem ne_of_isEntryName {name : Text} (entry : isEntryName name = true) (ending : Text) :
    asideMark ++ ending ≠ name := by
  rintro rfl
  obtain ⟨⟨c, rest, begins, letter⟩, _⟩ := shape_of_isEntryName entry
  rw [asideMark, show ".tmp-".toList = '.' :: "tmp-".toList from rfl, List.cons_append] at begins
  rw [← (List.cons.inj begins).1] at letter
  cases letter

theorem recordName_injective : Function.Injective recordName := fun _ _ same =>
  List.append_cancel_right same

/-- No record has the name of a bundle. -/
theorem recordName_ne_key (name : Text) (subject : Subject) : recordName name ≠ subject.key := by
  intro same
  have last := congrArg List.getLast? same
  rw [recordName, Subject.key_eq, List.getLast?_append_of_ne_nil _ (by simp),
    List.getLast?_append_of_ne_nil _ (by simp)] at last
  simp at last

end Cache
end Codemap
