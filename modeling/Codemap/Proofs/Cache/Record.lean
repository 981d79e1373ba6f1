import Codemap.Proofs.Cache.Key

namespace Codemap
namespace Cache

/-!
# Records read back

The record of a bundle is read back as it was written, with its names sorted, and
agrees with the times of every subject that is alike.
-/

variable {subject other : Subject}

theorem readable_version : Json.Readable version := by decide

/-- The names in a record are distinct. -/
theorem plain_record_names (subject : Subject) (now : Text) :
    ([("version".toList, .int version), ("request".toList, subject.request.descriptor),
      ("generated_at".toList, .str now),
      ("file_modification_times".toList, timesObject subject.times)].map
        (Prod.fst : Text × Json → Text)).Nodup := by
  simp

theorem plain_record (lawful : subject.Lawful) (readable : subject.Readable) (now : Text) :
    (record subject.request subject.times now).Plain := by
  refine ⟨plain_record_names subject now, ?_⟩
  exact ⟨readable_version, plain_descriptor readable.1, trivial,
    plain_timesObject lawful.nodup readable.2, trivial⟩

theorem parse?_recordText (lawful : subject.Lawful) (readable : subject.Readable) (now : Text) :
    Json.parse? (recordText subject.request subject.times now) =
      some (record subject.request subject.times now).sortKeys :=
  Json.parse?_renderIndented (Json.plain_sortKeys _ (plain_record lawful readable now)) 0

theorem noReturn_recordText (lawful : subject.Lawful) (readable : subject.Readable) (now : Text) :
    '\r' ∉ recordText subject.request subject.times now :=
  Json.noReturn_renderIndented _ (Json.plain_sortKeys _ (plain_record lawful readable now)) 0

theorem get?_record (subject : Subject) (now : Text) :
    (record subject.request subject.times now).sortKeys.get? "version".toList =
        some (.int version) ∧
      (record subject.request subject.times now).sortKeys.get?
        "file_modification_times".toList = some (timesObject subject.times).sortKeys := by
  have under := Json.get?_sortKeys (plain_record_names subject now)
  constructor
  · rw [record, under]
    simp [Json.look?, Json.sortKeys]
  · rw [record, under]
    simp [Json.look?]

/-- What makes a record agree with some times. -/
theorem isFresh_of_get? {found : Json} {recorded : List (Text × Json)} {times : Times}
    (versions : found.get? "version".toList = some (.int version))
    (entries : found.get? "file_modification_times".toList = some (.obj recorded))
    (agrees : ∀ entry ∈ recorded, entry.2.hasIntegerValue (recordedTime times entry.1) = true) :
    isFresh found times = true := by
  cases found with
  | obj members =>
      rw [Json.get?] at versions entries
      rw [isFresh, versions, entries]
      simpa [Json.hasIntegerValue] using agrees
  | null | bool | int | float | str | arr => cases versions

/-- The record of a subject agrees with the times of an alike one. -/
theorem isFresh_record (alike : subject.Alike other) (lawful : subject.Lawful) (now : Text) :
    isFresh (record subject.request subject.times now).sortKeys other.times = true := by
  obtain ⟨versions, entries⟩ := get?_record subject now
  rw [sortKeys_timesObject] at entries
  apply isFresh_of_get? versions entries
  intro member listed
  obtain ⟨⟨file, time⟩, present, rfl⟩ := List.mem_map.mp ((Json.inOrder_perm _).mem_iff.mp listed)
  obtain ⟨asked, sameTime⟩ := lawful.mem_times_iff.mp present
  rw [alike.2.2.2 file asked] at sameTime
  simp [Json.hasIntegerValue, sameTime]

end Cache
end Codemap
