import MusicFiling.Proofs.Disk.Walk

/-!
# The files that are found

In a tree, discovery finds files that stand at their paths' places, each at a place of its own.
-/

namespace MusicFiling

namespace Disk

namespace WellFormed

variable {d : Disk} (tree : d.WellFormed)
include tree

private theorem proper_of_present {place rest : Place} (present : d.entry? (place ++ rest) ≠ none) :
    ∀ c ∈ rest, c.isParent = false := by
  induction rest using List.reverseRecOn with
  | nil => simp
  | append_singleton init c ih =>
    rw [← List.append_assoc] at present
    have above : d.entry? (place ++ init) ≠ none := by simp [tree.above _ c present]
    intro c' member
    rcases List.mem_append.mp member with inInit | same
    · exact ih above c' inInit
    · obtain rfl : c' = c := by simpa using same
      exact tree.named _ c' present

theorem nominal_descend {source : Path} {place rest : Place} (led : d.reach source = .ok place)
    (present : d.entry? (place ++ rest) ≠ none) :
    d.nominal (source.descend rest) = place ++ rest := by
  rw [nominal_descend_direct d source (tree.proper_of_present present), ← reach_eq_nominal led]

end WellFormed

section

variable {d : Disk} {selection : Selection} {source : Path} {files : List Path}

/-- Discovery stops only at a path that the disk cannot be asked about. -/
theorem filesAt_error_iff {fault : Fault} :
    d.filesAt source = .error fault ↔
      ∃ cause, d.reach source = .error cause ∧ (cause = .nullByte ∨ cause = .nameTooLong) ∧
        fault = .refused cause source := by
  unfold filesAt at?
  cases led : d.reach source with
  | ok place =>
    rcases d.entry?_cases place with vacant | folder | ⟨content, file⟩ <;>
      simp_all [bind, Except.bind]
  | error cause => cases cause <;> simp [bind, Except.bind, eq_comm]

/-- A walk can open the folder at which it starts. -/
theorem opens_of_reach {place : Place} (led : d.reach source = .ok place) :
    opens source.text = true :=
  decide_eq_true (usable_of_reach led).short

/-- Nothing is found where the source leads nowhere, the source alone if it is a file, and otherwise
    the files below it that a walk finds. -/
theorem filesAt_cases (found : d.filesAt source = .ok files) :
    (∃ cause, d.reach source = .error cause ∧ files = []) ∨
      ∃ place, d.reach source = .ok place ∧
        ((∃ content, d.entry? place = some (.file content)) ∧ files = [source] ∨
          d.file? place = none ∧ files = (d.filesWalked source.text place).map source.descend) := by
  unfold filesAt at? at found
  cases led : d.reach source with
  | error cause =>
    refine .inl ⟨cause, rfl, ?_⟩
    cases cause <;> simp_all [bind, Except.bind]
  | ok place =>
    refine .inr ⟨place, rfl, ?_⟩
    simp only [led, bind, Except.bind] at found
    rcases d.entry?_cases place with vacant | folder | ⟨content, file⟩
    · exact .inr ⟨file?_eq_none_of_vacant vacant, by simpa [vacant] using found.symm⟩
    · exact .inr ⟨file?_eq_none_of_folder folder, by simpa [folder] using found.symm⟩
    · exact .inl ⟨⟨content, file⟩, by simpa [file] using found.symm⟩

theorem discover_ok_iff :
    discover d selection source = .ok files ↔
      ∃ all, d.filesAt source = .ok all ∧ files = all.filter selection.admits := by
  unfold discover
  cases d.filesAt source <;> simp [Functor.map, Except.map, eq_comm]

theorem discover_error_iff {fault : Fault} :
    discover d selection source = .error fault ↔ d.filesAt source = .error fault := by
  unfold discover
  cases d.filesAt source <;> simp [Functor.map, Except.map]

/-- Where a source leads nowhere, nothing is found. -/
theorem discover_eq_nil {cause : Cause} (nowhere : d.reach source = .error cause)
    (clean : cause ≠ .nullByte) (short : cause ≠ .nameTooLong) :
    discover d selection source = .ok [] := by
  refine discover_ok_iff.mpr ⟨[], ?_, rfl⟩
  unfold filesAt at?
  cases cause <;> simp_all [bind, Except.bind]

/-- In a folder without subfolders its own files are found, by name. -/
theorem discover_of_flat {place : Place} (led : d.reach source = .ok place)
    (folder : d.entry? place = some .folder) (flat : d.namesIn Entry.isFolder place = []) :
    discover d selection source =
      .ok (((d.namesIn (!·.isFolder) place).map fun c => source.descend [c]).filter
        selection.admits) := by
  have walked : d.filesWalked source.text place = (d.namesIn (!·.isFolder) place).map ([·]) := by
    rw [filesWalked_eq, if_pos (opens_of_reach led), flat, List.flatMap_nil, List.append_nil]
  refine discover_ok_iff.mpr
    ⟨(d.namesIn (!·.isFolder) place).map fun c => source.descend [c], ?_, rfl⟩
  unfold filesAt at?
  simp [led, folder, bind, Except.bind, walked, Function.comp_def]

end

namespace WellFormed

variable {d : Disk} (tree : d.WellFormed) {selection : Selection} {source : Path}
  {files : List Path}
include tree

/-- What is found at or below a path: every file that stands there in a folder that a walk can
    open. -/
theorem mem_filesAt (found : d.filesAt source = .ok files) {path : Path} :
    path ∈ files ↔ ∃ place rest, d.reach source = .ok place ∧ path = source.descend rest ∧
      d.file? (place ++ rest) ≠ none ∧ opens (walkedText source.text rest.dropLast) = true := by
  have whole : source.descend [] = source := by simp [Path.descend]
  rcases filesAt_cases found with ⟨cause, led, rfl⟩ |
    ⟨place, led, ⟨⟨content, file⟩, rfl⟩ | ⟨noFile, rfl⟩⟩
  · simp [led]
  · -- Nothing stands below a file, so it is the only one.
    simp only [List.mem_singleton, led, Except.ok.injEq]
    constructor
    · rintro rfl
      refine ⟨place, [], rfl, whole.symm, ?_, opens_of_reach led⟩
      simp [file?_eq_some_iff.mpr file]
    · rintro ⟨_, rest, rfl, rfl, stands, -⟩
      have present : d.entry? (place ++ rest) ≠ none := present_of_file? stands
      have same := tree.eq_of_prefix_of_file file (List.prefix_append place rest) present
      obtain rfl : rest = [] := by simpa using same
      exact whole
  · simp only [List.mem_map, tree.mem_filesWalked, ← Option.ne_none_iff_exists', led,
      Except.ok.injEq]
    constructor
    · rintro ⟨rest, ⟨-, stands, opened⟩, rfl⟩
      exact ⟨place, rest, rfl, rfl, stands, opened⟩
    · rintro ⟨_, rest, rfl, rfl, stands, opened⟩
      refine ⟨rest, ⟨?_, stands, opened⟩, rfl⟩
      rintro rfl
      exact stands (by simpa using noFile)

theorem mem_discover (found : discover d selection source = .ok files) {path : Path} :
    path ∈ files ↔ selection.admits path = true ∧
      ∃ place rest, d.reach source = .ok place ∧ path = source.descend rest ∧
        d.file? (place ++ rest) ≠ none ∧ opens (walkedText source.text rest.dropLast) = true := by
  obtain ⟨all, listed, rfl⟩ := discover_ok_iff.mp found
  rw [List.mem_filter, tree.mem_filesAt listed, and_comm]

/-- No two files that are found stand at one place. -/
theorem nodup_filesAt (found : d.filesAt source = .ok files) : (files.map d.nominal).Nodup := by
  rcases filesAt_cases found with ⟨cause, led, rfl⟩ | ⟨place, led, ⟨-, rfl⟩ | ⟨-, rfl⟩⟩
  · exact List.nodup_nil
  · exact List.nodup_singleton _
  · have same : ((d.filesWalked source.text place).map source.descend).map d.nominal =
        (d.filesWalked source.text place).map (place ++ ·) := by
      rw [List.map_map]
      refine List.map_congr_left fun rest member => ?_
      obtain ⟨-, ⟨content, file⟩, -⟩ := tree.mem_filesWalked.mp member
      exact tree.nominal_descend led (by simp [file?_eq_some_iff.mp file])
    rw [same]
    exact (tree.nodup_filesWalked source.text place).map (List.append_right_injective place)

/-- Every file that a batch handles stands at the place that its path names, and nowhere twice. -/
theorem discover_spec (found : discover d selection source = .ok files) :
    (∀ path ∈ files, (∃ content, d.file? (d.nominal path) = some content) ∧
      (source.Direct → path.Direct)) ∧
    (files.map d.nominal).Nodup := by
  constructor
  · intro path member
    obtain ⟨-, place, rest, led, rfl, stands, -⟩ := (tree.mem_discover found).mp member
    have present : d.entry? (place ++ rest) ≠ none := present_of_file? stands
    rw [tree.nominal_descend led present]
    exact ⟨Option.ne_none_iff_exists'.mp stands,
      fun direct => direct.descend (tree.proper_of_present present)⟩
  · obtain ⟨all, listed, rfl⟩ := discover_ok_iff.mp found
    exact (tree.nodup_filesAt listed).sublist (List.filter_sublist.map _)

/-- What is found lies at or below the source. -/
theorem isPrefix_nominal_of_discover (found : discover d selection source = .ok files)
    {path : Path} (member : path ∈ files) : d.nominal source <+: d.nominal path := by
  obtain ⟨-, place, rest, led, rfl, stands, -⟩ := (tree.mem_discover found).mp member
  have present : d.entry? (place ++ rest) ≠ none := present_of_file? stands
  rw [tree.nominal_descend led present, ← reach_eq_nominal led]
  exact List.prefix_append place rest

end WellFormed

end Disk

end MusicFiling
