import LedgerCapture.Proofs.Files.Standing

/-!
The contents of files. A directory that is made changes none of them, a document that is written changes one, and
with a tree only the files in it are taken away.
-/
namespace LedgerCapture.Files

variable {files after : Files} {place other : Place} {entry : FileEntry} {path : String}

def contentAt? (files : Files) (place : Place) : Option ByteArray :=
  match files.entry? place with
  | some (.file content) => some content
  | _ => none

theorem contentAt?_congr (same : after.entry? place = files.entry? place) :
    after.contentAt? place = files.contentAt? place := by
  simp only [contentAt?, same]

theorem contentAt?_put (nonempty : place ≠ []) (apart : other ≠ place) :
    (files.put place entry).contentAt? other = files.contentAt? other :=
  contentAt?_congr (by rw [entry_put nonempty, if_neg apart])

theorem contentAt?_putDirectory (absent : files.entry? place = none) :
    (files.put place .directory).contentAt? other = files.contentAt? other := by
  have free : files.Free place := .inl absent
  by_cases same : other = place
  · subst same
    simp only [contentAt?, entry_put free.ne_nil, if_pos, absent]
  · exact contentAt?_put free.ne_nil same

theorem contentAt?_makeDirectories (made : files.makeDirectories path = .ok after) :
    after.contentAt? other = files.contentAt? other := by
  let relation (files after : Files) : Prop := after.contentAt? other = files.contentAt? other
  have kept : relation files after := by
    refine makeDirectories_rel (fun _ => rfl) (fun left right => right.trans left) (fun done => ?_) made
    obtain ⟨place, vacant, -, rfl⟩ := exists_put_of_makeDirectory done
    exact contentAt?_putDirectory (entry_of_vacant vacant)
  exact kept

theorem contentAt?_write {content : ByteArray} (written : files.write path content = .ok after) :
    ∃ found, files.resolve true path = .ok found ∧ after.contentAt? found.place = some content ∧
      ∀ other, other ≠ found.place → after.contentAt? other = files.contentAt? other := by
  obtain ⟨found, resolved, free, rfl⟩ := exists_put_of_write written
  refine ⟨found, resolved, ?_, fun other apart => contentAt?_put free.ne_nil apart⟩
  simp only [contentAt?, entry_put free.ne_nil, if_pos]

theorem contentAt?_removeTreeBut {kept : Place → Bool} (nonempty : place ≠ []) (apart : ¬ place <+: other) :
    (files.removeTreeBut kept place).contentAt? other = files.contentAt? other :=
  contentAt?_congr (by rw [entry_removeTreeBut nonempty, if_neg fun taken => apart taken.1])

/-- A file with a text at the place that a path leads to is read as the text. -/
theorem readText_of_contentAt? {text : String} {entry : Option FileEntry}
    (there : files.contentAt? place = some text.toUTF8) (resolved : files.resolve true path = .ok ⟨place, entry⟩) :
    files.readText path = .ok text := by
  have content : entry = some (.file text.toUTF8) := by
    rw [show entry = files.entry? place from resolve_entry resolved]
    unfold contentAt? at there
    split at there
    · next content found =>
      cases there
      exact found
    · cases there
  have valid : String.fromUTF8? text.toUTF8 = some text := dif_pos text.isValidUTF8
  have reads : files.read path = .ok text.toUTF8 := by
    rw [read, find, resolved, content]
    rfl
  rw [readText, reads, ok_bind, valid]
  rfl

end LedgerCapture.Files
