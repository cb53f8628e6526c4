import MusicFiling.Disk.OpenFile
import MusicFiling.Proofs.Disk.Reach

/-!
# Disks that only grow

Creating folders, opening files and writing to them add entries and contents but remove nothing.
`Grows` says so, with the places where folders may be new and those where files may be written.
-/

namespace MusicFiling

namespace Disk

/-- A disk after folders were created at some places and files written at others. -/
structure Grows (made written : Place → Prop) (d d' : Disk) : Prop where
  working : d'.workingFolder = d.workingFolder
  tree : d.WellFormed → d'.WellFormed
  entries : ∀ q, d'.entry? q = d.entry? q ∨
    made q ∧ d.entry? q = none ∧ d'.entry? q = some .folder ∨
    written q ∧ d.entry? q ≠ some .folder ∧ ∃ content, d'.entry? q = some (.file content)

namespace Grows

theorem refl (made written : Place → Prop) (d : Disk) : Grows made written d d :=
  ⟨rfl, id, fun _ => .inl rfl⟩

theorem mono {made made' written written' : Place → Prop} {d d' : Disk}
    (grown : Grows made written d d') (more : ∀ q, made q → made' q)
    (further : ∀ q, written q → written' q) : Grows made' written' d d' := by
  refine ⟨grown.working, grown.tree, ?_⟩
  intro q
  rcases grown.entries q with same | ⟨new, change⟩ | ⟨new, change⟩
  · exact .inl same
  · exact .inr (.inl ⟨more q new, change⟩)
  · exact .inr (.inr ⟨further q new, change⟩)

variable {made written : Place → Prop} {d d' d'' : Disk}

theorem folder (grown : Grows made written d d') {q : Place}
    (folder : d.entry? q = some .folder) : d'.entry? q = some .folder := by
  rcases grown.entries q with same | ⟨-, vacant, -⟩ | ⟨-, other, -⟩
  · rw [same, folder]
  · simp [folder] at vacant
  · exact absurd folder other

theorem file (grown : Grows made written d d') {q : Place} {content : List UInt8}
    (file : d.file? q = some content) : ∃ content', d'.file? q = some content' := by
  rw [file?_eq_some_iff] at file
  simp only [file?_eq_some_iff]
  rcases grown.entries q with same | ⟨-, vacant, -⟩ | ⟨-, -, now⟩
  · exact ⟨content, same.trans file⟩
  · simp [file] at vacant
  · exact now

theorem file?_eq (grown : Grows made written d d') {q : Place} (unwritten : ¬written q) :
    d'.file? q = d.file? q := by
  rcases grown.entries q with same | ⟨-, vacant, folder⟩ | ⟨new, -⟩
  · exact file?_congr same
  · rw [file?_eq_none_of_vacant vacant, file?_eq_none_of_folder folder]
  · exact absurd new unwritten

theorem vacant (grown : Grows made written d d') {q : Place} (vacant : d.entry? q = none)
    (unmade : ¬made q) (unwritten : ¬written q) : d'.entry? q = none := by
  rcases grown.entries q with same | ⟨new, -⟩ | ⟨new, -⟩
  · rw [same, vacant]
  · exact absurd new unmade
  · exact absurd new unwritten

theorem trans (first : Grows made written d d') (second : Grows made written d' d'') :
    Grows made written d d'' := by
  refine ⟨second.working.trans first.working, fun tree => second.tree (first.tree tree), ?_⟩
  intro q
  rcases second.entries q with same | ⟨new, vacant, folder⟩ | ⟨new, other, now⟩
  · rw [same]
    exact first.entries q
  · rcases first.entries q with before | ⟨-, -, stands⟩ | ⟨-, -, content, stands⟩
    · exact .inr (.inl ⟨new, before ▸ vacant, folder⟩)
    · simp [stands] at vacant
    · simp [stands] at vacant
  · exact .inr (.inr ⟨new, fun stands => other (first.folder stands), now⟩)

theorem reach (grown : Grows made written d d') {p : Path} {q : Place}
    (led : d.reach p = .ok q) : d'.reach p = .ok q :=
  reach_mono grown.working (fun _ => grown.folder) led

theorem nominal (grown : Grows made written d d') (p : Path) : d'.nominal p = d.nominal p :=
  nominal_congr grown.working p

end Grows

/-- A later state of a disk: a tree in which all folders still stand. -/
structure Later (d d' : Disk) : Prop where
  tree : d'.WellFormed
  working : d'.workingFolder = d.workingFolder
  folder : ∀ q, d.entry? q = some .folder → d'.entry? q = some .folder

namespace Later

variable {d d' d'' : Disk}

theorem refl (tree : d.WellFormed) : d.Later d :=
  ⟨tree, rfl, fun _ => id⟩

theorem trans (first : d.Later d') (second : d'.Later d'') : d.Later d'' :=
  ⟨second.tree, second.working.trans first.working,
    fun q folder => second.folder q (first.folder q folder)⟩

theorem reach (later : d.Later d') {p : Path} {q : Place} (led : d.reach p = .ok q) :
    d'.reach p = .ok q :=
  reach_mono later.working later.folder led

theorem nominal (later : d.Later d') : d'.nominal = d.nominal :=
  funext (nominal_congr later.working)

end Later

theorem Grows.later {made written : Place → Prop} {d d' : Disk} (grown : Grows made written d d')
    (tree : d.WellFormed) : d.Later d' :=
  ⟨grown.tree tree, grown.working, fun _ => grown.folder⟩

/-- A name that is too long stays too long: the folders that lead to it still stand. -/
theorem follow_nameTooLong_mono {d d' : Disk}
    (kept : ∀ q, d.entry? q = some .folder → d'.entry? q = some .folder) {cs : List Component}
    {place : Place} (long : d.follow place cs = .error .nameTooLong) :
    d'.follow place cs = .error .nameTooLong := by
  induction cs generalizing place with
  | nil => simp [follow] at long
  | cons c rest ih =>
    rcases d.entry?_cases place with vacant | folder | ⟨content, file⟩
    · simp [follow, vacant] at long
    · simp only [follow, folder, kept place folder] at long ⊢
      split_ifs at long ⊢ with up tooLong
      · exact ih long
      · rfl
      · exact ih long
    · simp [follow, file] at long

theorem reach_nameTooLong_mono {d d' : Disk} (later : d.Later d') {p : Path}
    (long : d.reach p = .error .nameTooLong) : d'.reach p = .error .nameTooLong := by
  unfold reach at long ⊢
  split_ifs at long ⊢ with null tooLong
  · exact long
  · rfl
  · rw [startOf_congr later.working]
    exact follow_nameTooLong_mono later.folder long

theorem WellFormed.put_reached {d : Disk} (tree : d.WellFormed) {p : Path} {place : Place}
    (led : d.reach p = .ok place) (other : d.entry? place ≠ some .folder) (entry : Entry) :
    (d.put place entry).WellFormed := by
  obtain ⟨init, c, parent, -, proper, folder, rfl⟩ := tree.reach_ne_folder led other
  exact tree.put folder proper other entry

theorem ne_nil_of_ne_folder {d : Disk} {place : Place} (other : d.entry? place ≠ some .folder) :
    place ≠ [] := by
  rintro rfl
  exact other rfl

theorem put_file_grows {d : Disk} {p : Path} {place : Place} (led : d.reach p = .ok place)
    (other : d.entry? place ≠ some .folder) (content : List UInt8) :
    Grows (fun _ => False) (· = place) d (d.put place (.file content)) := by
  refine ⟨rfl, fun tree => tree.put_reached led other _, ?_⟩
  intro q
  rw [entry?_put d (ne_nil_of_ne_folder other)]
  split_ifs with same
  · subst same
    exact .inr (.inr ⟨rfl, other, content, rfl⟩)
  · exact .inl rfl

theorem isFolder_iff {d : Disk} {p : Path} :
    d.isFolder p = true ↔ ∃ q, d.reach p = .ok q ∧ d.entry? q = some .folder := by
  unfold isFolder find?
  cases d.reach p with
  | error cause => simp
  | ok q =>
    rcases d.entry?_cases q with vacant | folder | ⟨content, file⟩
    · simp [vacant]
    · simp [folder, Entry.isFolder]
    · simp [file, Entry.isFolder]

theorem WellFormed.isFolder_direct {d : Disk} (tree : d.WellFormed) {p : Path} (direct : p.Direct)
    (usable : p.Usable) (folder : d.entry? (d.nominal p) = some .folder) : d.isFolder p = true := by
  have above := tree.nominal_parent_of_present direct (by simp [folder])
  exact isFolder_iff.mpr ⟨_, tree.reach_direct direct usable above, folder⟩

theorem Grows.isFolder {made written : Place → Prop} {d d' : Disk}
    (grown : Grows made written d d') {p : Path} (folder : d.isFolder p = true) :
    d'.isFolder p = true := by
  obtain ⟨place, led, stands⟩ := isFolder_iff.mp folder
  exact isFolder_iff.mpr ⟨place, grown.reach led, grown.folder stands⟩

private theorem makeFolder_ok {d d' : Disk} {p : Path} (made : d.makeFolder p = .ok d') :
    ∃ place, d.reach p = .ok place ∧ d.entry? place = none ∧ d' = d.put place .folder := by
  unfold makeFolder at made
  cases led : d.reach p with
  | error cause => simp [led] at made
  | ok place =>
    cases stands : d.entry? place with
    | some entry => simp [led, stands] at made
    | none => exact ⟨place, rfl, stands, by simpa [led, stands, eq_comm] using made⟩

theorem makeFolder_grows {d d' : Disk} {p : Path} (made : d.makeFolder p = .ok d') :
    Grows (· = d.nominal p) (fun _ => False) d d' := by
  obtain ⟨place, led, vacant, rfl⟩ := makeFolder_ok made
  have other : d.entry? place ≠ some .folder := by simp [vacant]
  refine ⟨rfl, fun tree => tree.put_reached led other _, ?_⟩
  intro q
  rw [entry?_put d (ne_nil_of_ne_folder other)]
  split_ifs with same
  · subst same
    exact .inr (.inl ⟨reach_eq_nominal led, vacant, rfl⟩)
  · exact .inl rfl

private theorem makeFolder_isFolder {d d' : Disk} {p : Path} (made : d.makeFolder p = .ok d') :
    d'.isFolder p = true := by
  have grown := makeFolder_grows made
  obtain ⟨place, led, vacant, rfl⟩ := makeFolder_ok made
  have other : d.entry? place ≠ some .folder := by simp [vacant]
  refine isFolder_iff.mpr ⟨place, grown.reach led, ?_⟩
  rw [entry?_put d (ne_nil_of_ne_folder other), if_pos rfl]

theorem makeFolder_of_folder {d : Disk} {p : Path} (folder : d.isFolder p = true) :
    d.makeFolder p = .error .exists := by
  obtain ⟨place, led, stands⟩ := isFolder_iff.mp folder
  simp [makeFolder, led, stands]

theorem acceptFolder_of_folder {d : Disk} {p : Path} (folder : d.isFolder p = true) :
    d.acceptFolder p .exists = .done d := by
  simp [acceptFolder, folder]

theorem acceptFolder_disk (d : Disk) (p : Path) (cause : Cause) :
    (d.acceptFolder p cause).disk = d := by
  unfold acceptFolder
  split_ifs <;> rfl

private theorem acceptFolder_isFolder {d : Disk} {p : Path} {cause : Cause}
    (accepted : (d.acceptFolder p cause).fault = none) : d.isFolder p = true := by
  unfold acceptFolder at accepted
  split_ifs at accepted with folder
  · exact folder.2.2
  · simp [Attempt.stopped] at accepted

private theorem acceptFolder_spec (d : Disk) (p : Path) (cause : Cause) :
    Grows (· = d.nominal p) (fun _ => False) d (d.acceptFolder p cause).disk ∧
      ((d.acceptFolder p cause).fault = none →
        (d.acceptFolder p cause).disk.isFolder p = true) := by
  rw [acceptFolder_disk]
  exact ⟨Grows.refl _ _ d, acceptFolder_isFolder⟩

/-- Creating one folder, or accepting the one that stands there. -/
private theorem makeOrAccept_spec (d : Disk) (p : Path) :
    let attempt : Attempt := match d.makeFolder p with
      | .ok d' => .done d'
      | .error cause => d.acceptFolder p cause
    Grows (· = d.nominal p) (fun _ => False) d attempt.disk ∧
      (attempt.fault = none → attempt.disk.isFolder p = true) := by
  cases made : d.makeFolder p with
  | ok d' => exact ⟨makeFolder_grows made, fun _ => makeFolder_isFolder made⟩
  | error cause => exact acceptFolder_spec d p cause

/-- The places of the folders on the way of a path. -/
def OnWay (d : Disk) (p : Path) (n : Nat) (q : Place) : Prop :=
  ∃ k ≤ n, q = d.nominal (p.upTo k)

theorem makeFoldersUpTo_spec (d : Disk) (p : Path) (n : Nat) :
    Grows (d.OnWay p n) (fun _ => False) d (d.makeFoldersUpTo p n).disk ∧
      ((d.makeFoldersUpTo p n).fault = none →
        (d.makeFoldersUpTo p n).disk.isFolder (p.upTo n) = true) := by
  induction n generalizing d with
  | zero =>
    obtain ⟨grown, folder⟩ := makeOrAccept_spec d (p.upTo 0)
    exact ⟨grown.mono (fun q same => ⟨0, Nat.le_refl 0, same⟩) fun _ => id, folder⟩
  | succ n ih =>
    have here : ∀ q, q = d.nominal (p.upTo (n + 1)) → d.OnWay p (n + 1) q :=
      fun q same => ⟨n + 1, Nat.le_refl _, same⟩
    have above : ∀ q, d.OnWay p n q → d.OnWay p (n + 1) q :=
      fun q ⟨k, least, same⟩ => ⟨k, Nat.le_succ_of_le least, same⟩
    cases made : d.makeFolder (p.upTo (n + 1)) with
    | ok d' =>
      simp only [makeFoldersUpTo, made]
      exact ⟨(makeFolder_grows made).mono here fun _ => id, fun _ => makeFolder_isFolder made⟩
    | error cause =>
      by_cases missing : cause = .notFound
      · -- the folders above come first, then this one is tried again
        subst missing
        obtain ⟨grown, -⟩ := ih d
        simp only [makeFoldersUpTo, made, Attempt.next]
        cases stopped : (d.makeFoldersUpTo p n).fault with
        | some fault =>
          simp only [stopped]
          exact ⟨grown.mono above fun _ => id, by simp⟩
        | none =>
          simp only
          generalize (d.makeFoldersUpTo p n).disk = d' at grown ⊢
          obtain ⟨again, folder⟩ := makeOrAccept_spec d' (p.upTo (n + 1))
          rw [grown.nominal] at again
          exact ⟨(grown.mono above fun _ => id).trans (again.mono here fun _ => id), folder⟩
      · have accepted : d.makeFoldersUpTo p (n + 1) = d.acceptFolder (p.upTo (n + 1)) cause := by
          cases cause <;> simp_all [makeFoldersUpTo]
        obtain ⟨grown, folder⟩ := acceptFolder_spec d (p.upTo (n + 1)) cause
        rw [accepted]
        exact ⟨grown.mono here fun _ => id, folder⟩

theorem upTo_length (p : Path) : p.upTo p.parts.length = p := by
  simp [Path.upTo]

/-- Creating folders adds nothing but folders on the way of the path. -/
theorem makeFolders_grows (d : Disk) (p : Path) :
    Grows (d.OnWay p p.parts.length) (fun _ => False) d (d.makeFolders p).disk :=
  (makeFoldersUpTo_spec d p p.parts.length).1

theorem makeFolders_isFolder {d : Disk} {p : Path} (made : (d.makeFolders p).fault = none) :
    (d.makeFolders p).disk.isFolder p = true := by
  have folder := (makeFoldersUpTo_spec d p p.parts.length).2 made
  rwa [upTo_length] at folder

theorem makeFolders_of_folder {d : Disk} {p : Path} (folder : d.isFolder p = true) :
    d.makeFolders p = .done d := by
  unfold makeFolders
  have stands := makeFolder_of_folder folder
  have accepted := acceptFolder_of_folder folder
  cases length : p.parts.length with
  | zero =>
    have whole : p.upTo 0 = p := length ▸ upTo_length p
    simp [makeFoldersUpTo, whole, stands, accepted]
  | succ n =>
    have whole : p.upTo (n + 1) = p := length ▸ upTo_length p
    simp [makeFoldersUpTo, whole, stands, accepted]

end Disk

end MusicFiling
