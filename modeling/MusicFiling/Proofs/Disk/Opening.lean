import MusicFiling.Proofs.Disk.Growth

/-!
# Open files

Writing to an open file changes the content of one file. Opening a file creates the folders above
it, and the file itself where nothing stands.
-/

namespace MusicFiling

namespace OpenFile

open Disk

theorem modify_grows (f : OpenFile) (change : List UInt8 → List UInt8) (d : Disk) :
    Grows (fun _ => False) (fun q => f.place = some q) d (f.modify change d) := by
  unfold modify
  cases kept : f.place with
  | none => exact Grows.refl _ _ d
  | some place =>
    cases stands : d.file? place with
    | none =>
      simp only [stands]
      exact Grows.refl _ _ d
    | some content =>
      simp only [stands]
      have file := file?_eq_some_iff.mp stands
      have other : d.entry? place ≠ some .folder := by simp [file]
      refine ⟨rfl, fun tree => tree.put_over_file file _, ?_⟩
      intro q
      rw [entry?_put d (ne_nil_of_file file)]
      split_ifs with same
      · subst same
        exact .inr (.inr ⟨rfl, other, _, rfl⟩)
      · exact .inl rfl

theorem file?_modify {f : OpenFile} {place : Place} (kept : f.place = some place)
    (change : List UInt8 → List UInt8) (d : Disk) :
    (f.modify change d).file? place = (d.file? place).map change := by
  unfold modify
  cases stands : d.file? place with
  | none => simp [kept, stands]
  | some content =>
    have file := file?_eq_some_iff.mp stands
    simp only [kept, stands, Option.map_some]
    rw [file?_eq_some_iff, entry?_put d (ne_nil_of_file file), if_pos rfl]

end OpenFile

namespace Disk

theorem openForWriting_ok {d : Disk} {p : Path} {place : Place} :
    d.openForWriting p = .ok place ↔ d.reach p = .ok place ∧ d.entry? place ≠ some .folder := by
  unfold openForWriting
  cases d.reach p with
  | error cause => simp
  | ok q =>
    rcases d.entry?_cases q with vacant | folder | ⟨content, file⟩
    · simp only [vacant, Except.ok.injEq]
      constructor
      · rintro rfl
        exact ⟨rfl, by simp [vacant]⟩
      · exact And.left
    · simp only [folder, reduceCtorEq, Except.ok.injEq, false_iff, not_and, not_not]
      rintro rfl
      exact folder
    · simp only [file, Except.ok.injEq]
      constructor
      · rintro rfl
        exact ⟨rfl, by simp [file]⟩
      · exact And.left

theorem openForReading_ok {d : Disk} {p : Path} {place : Place} {content : List UInt8} :
    d.openForReading p = .ok (place, content) ↔
      d.reach p = .ok place ∧ d.entry? place = some (.file content) := by
  unfold openForReading
  cases d.reach p with
  | error cause => simp
  | ok q =>
    rcases d.entry?_cases q with vacant | folder | ⟨old, file⟩
    · simp only [vacant, reduceCtorEq, Except.ok.injEq, false_iff, not_and]
      rintro rfl
      simp [vacant]
    · simp only [folder, reduceCtorEq, Except.ok.injEq, false_iff, not_and]
      rintro rfl
      simp [folder]
    · simp only [file, Except.ok.injEq, Prod.mk.injEq]
      constructor
      · rintro ⟨rfl, rfl⟩
        exact ⟨rfl, file⟩
      · rintro ⟨rfl, stands⟩
        exact ⟨rfl, by simpa [file] using stands⟩

theorem at?_of_opened {d : Disk} {p : Path} {place : Place} {content : List UInt8}
    (opened : d.openForReading p = .ok (place, content)) :
    d.at? p = .ok (some (.file content)) := by
  obtain ⟨led, stands⟩ := openForReading_ok.mp opened
  simp [at?, led, stands]

/-- The places of the folders that opening a file may create. -/
def AboveFile (d : Disk) (p : Path) : Place → Prop :=
  d.OnWay p.parent p.parent.parts.length

theorem Grows.aboveFile {made written : Place → Prop} {d d' : Disk}
    (grown : Grows made written d d') (p : Path) : d'.AboveFile p = d.AboveFile p := by
  funext q
  simp only [AboveFile, OnWay, grown.nominal]

theorem aboveFile_grows (d : Disk) (p : Path) :
    Grows (d.AboveFile p) (fun _ => False) d (d.makeFolders p.parent).disk :=
  makeFolders_grows d p.parent

/-- Opening a file creates the folders above it and goes no further, or it writes to the file what is
    kept of its content. -/
theorem openKeeping_cases (keep : List UInt8 → List UInt8) (d : Disk) (p : Path) :
    (∃ fault, d.openKeeping keep p = .failed (d.makeFolders p.parent).disk fault) ∨
      (d.makeFolders p.parent).fault = none ∧
      (d.makeFolders p.parent).disk.reach p = .ok (d.nominal p) ∧
      entry? (d.makeFolders p.parent).disk (d.nominal p) ≠ some .folder ∧
      d.openKeeping keep p =
        .opened ((d.makeFolders p.parent).disk.put (d.nominal p)
          (.file (keep ((d.file? (d.nominal p)).getD [])))) ⟨some (d.nominal p)⟩ := by
  have made := makeFolders_grows d p.parent
  unfold openKeeping
  cases stopped : (d.makeFolders p.parent).fault with
  | some fault => exact .inl ⟨fault, by simp [stopped]⟩
  | none =>
    simp only [stopped]
    generalize (d.makeFolders p.parent).disk = middle at made ⊢
    cases writable : middle.openForWriting p with
    | error fault => exact .inl ⟨fault, rfl⟩
    | ok place =>
      right
      obtain ⟨led, other⟩ := openForWriting_ok.mp writable
      obtain rfl : place = d.nominal p := made.nominal p ▸ reach_eq_nominal led
      exact ⟨trivial, led, other, by simp only [made.file?_eq id]⟩

/-- An opened file stands where its path says, with what was kept of its content. -/
theorem openKeeping_opened {keep : List UInt8 → List UInt8} {d d' : Disk} {p : Path}
    {file : OpenFile} (opened : d.openKeeping keep p = .opened d' file) :
    Grows (d.AboveFile p) (· = d.nominal p) d d' ∧ file = ⟨some (d.nominal p)⟩ ∧
      d'.reach p = .ok (d.nominal p) ∧
      d'.file? (d.nominal p) = some (keep ((d.file? (d.nominal p)).getD [])) := by
  have made := aboveFile_grows d p
  rcases openKeeping_cases keep d p with ⟨fault, failed⟩ | ⟨-, led, other, written⟩
  · rw [failed] at opened
    cases opened
  · rw [written] at opened
    cases opened
    have grown := put_file_grows led other (keep ((d.file? (d.nominal p)).getD []))
    refine ⟨(made.mono (fun _ => id) fun _ => False.elim).trans
      (grown.mono (fun _ => False.elim) fun _ => id), rfl, grown.reach led, ?_⟩
    rw [file?_eq_some_iff, entry?_put _ (ne_nil_of_ne_folder other), if_pos rfl]

theorem openKeeping_isFolder_parent {keep : List UInt8 → List UInt8} {d d' : Disk} {p : Path}
    {file : OpenFile} (opened : d.openKeeping keep p = .opened d' file) :
    d'.isFolder p.parent = true := by
  rcases openKeeping_cases keep d p with ⟨fault, failed⟩ | ⟨stopped, led, other, written⟩
  · rw [failed] at opened
    cases opened
  · rw [written] at opened
    cases opened
    exact (put_file_grows led other _).isFolder (makeFolders_isFolder stopped)

/-- A file that cannot be opened leaves new folders at most. -/
theorem openKeeping_failed {keep : List UInt8 → List UInt8} {d d' : Disk} {p : Path}
    {fault : Fault} (failed : d.openKeeping keep p = .failed d' fault) :
    Grows (d.AboveFile p) (fun _ => False) d d' := by
  rcases openKeeping_cases keep d p with ⟨fault', stopped⟩ | ⟨-, -, -, written⟩
  · rw [stopped] at failed
    cases failed
    exact aboveFile_grows d p
  · rw [written] at failed
    cases failed

end Disk

end MusicFiling
