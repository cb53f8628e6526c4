import MusicFiling.Disk.Basic
import MusicFiling.Proofs.Lookup
import Mathlib.Data.List.Induction
import Mathlib.Data.List.Nodup
import Mathlib.Tactic.SplitIfs

/-!
# Disks as trees

What a disk must satisfy to be a tree: every entry stands in a folder, under a name that does not
lead up, and the working folder exists. The views of a disk after each basic change, and the trees
that stay trees.
-/

namespace MusicFiling

namespace Disk

/-- A disk whose entries form a tree. -/
structure WellFormed (d : Disk) : Prop where
  distinct : (d.entries.map Prod.fst).Nodup
  rootless : [] ∉ d.entries.map Prod.fst
  above : ∀ place c, d.entry? (place ++ [c]) ≠ none → d.entry? place = some .folder
  named : ∀ place c, d.entry? (place ++ [c]) ≠ none → c.isParent = false
  working : d.entry? d.workingFolder = some .folder

/-- A disk whose entries stand at places of their own, none of them at the root. -/
structure Keyed (d : Disk) : Prop where
  distinct : (d.entries.map Prod.fst).Nodup
  rootless : [] ∉ d.entries.map Prod.fst

theorem WellFormed.keyed {d : Disk} (tree : d.WellFormed) : d.Keyed :=
  ⟨tree.distinct, tree.rootless⟩

@[simp] theorem entry?_nil (d : Disk) : d.entry? [] = some .folder := rfl

theorem entry?_of_ne_nil (d : Disk) {place : Place} (nonempty : place ≠ []) :
    d.entry? place = d.entries.lookup place := by
  cases place with
  | nil => exact absurd rfl nonempty
  | cons c rest => rfl

theorem Keyed.entry?_of_mem {d : Disk} (keyed : d.Keyed) {place : Place} {entry : Entry}
    (member : (place, entry) ∈ d.entries) : d.entry? place = some entry := by
  have nonempty : place ≠ [] := by
    rintro rfl
    exact keyed.rootless (List.mem_map_of_mem member)
  rw [entry?_of_ne_nil d nonempty]
  exact lookup_of_mem keyed.distinct member

theorem file?_eq_some_iff {d : Disk} {place : Place} {content : List UInt8} :
    d.file? place = some content ↔ d.entry? place = some (.file content) := by
  unfold file?
  cases d.entry? place with
  | none => simp
  | some entry => cases entry <;> simp [Entry.content?]

theorem file?_eq_none_of_vacant {d : Disk} {place : Place} (vacant : d.entry? place = none) :
    d.file? place = none := by
  simp [file?, vacant]

theorem present_of_file? {d : Disk} {q : Place} (stands : d.file? q ≠ none) : d.entry? q ≠ none :=
  mt file?_eq_none_of_vacant stands

theorem file?_eq_none_of_folder {d : Disk} {place : Place}
    (folder : d.entry? place = some .folder) : d.file? place = none := by
  simp [file?, folder, Entry.content?]

theorem file?_congr {d d' : Disk} {place : Place} (same : d'.entry? place = d.entry? place) :
    d'.file? place = d.file? place := by
  simp [file?, same]

theorem ne_nil_of_file {d : Disk} {place : Place} {content : List UInt8}
    (file : d.entry? place = some (.file content)) : place ≠ [] := by
  rintro rfl
  cases file

/-- What stands at a place: nothing, a folder, or a file. -/
theorem entry?_cases (d : Disk) (place : Place) :
    d.entry? place = none ∨ d.entry? place = some .folder ∨
      ∃ content, d.entry? place = some (.file content) := by
  cases d.entry? place with
  | none => exact .inl rfl
  | some entry =>
    cases entry with
    | folder => exact .inr (.inl rfl)
    | file content => exact .inr (.inr ⟨content, rfl⟩)

theorem entry?_put (d : Disk) {place : Place} (nonempty : place ≠ []) (entry : Entry) (q : Place) :
    entry? (d.put place entry) q = if q = place then some entry else d.entry? q := by
  by_cases root : q = []
  · subst root
    simp [Ne.symm nonempty]
  · rw [entry?_of_ne_nil _ root, entry?_of_ne_nil _ root]
    by_cases same : q = place
    · simp [put, same]
    · have different : (q == place) = false := beq_eq_false_iff_ne.mpr same
      have kept := lookup_filter_key (fun key => decide (key ≠ place)) q d.entries
      simp only [put, List.lookup_cons, different, if_neg same]
      simpa [same] using kept

theorem entry?_clear (d : Disk) {place : Place} (nonempty : place ≠ []) (q : Place) :
    entry? (d.clear place) q = if place <+: q then none else d.entry? q := by
  by_cases root : q = []
  · subst root
    simp [nonempty]
  · rw [entry?_of_ne_nil _ root, entry?_of_ne_nil _ root]
    have kept := lookup_filter_key (fun key => !place.isPrefixOf key) q d.entries
    simp only [clear]
    rw [kept]
    by_cases below : place <+: q
    · simp only [List.isPrefixOf_iff_prefix.mpr below, Bool.not_true, Bool.false_eq_true, if_false,
        if_pos below]
    · simp [below]

/-- Emptying the folder at a place removes what is strictly below it. -/
theorem entry?_emptied (d : Disk) (place q : Place) :
    entry? { d with entries := d.entries.filter fun e => e.1 == place || !place.isPrefixOf e.1 } q =
      if place <+: q ∧ q ≠ place then none else d.entry? q := by
  by_cases root : q = []
  · subst root
    have whole : ¬(place <+: [] ∧ [] ≠ place) := fun ⟨above, other⟩ =>
      other (List.prefix_nil.mp above).symm
    simp only [entry?_nil, if_neg whole]
  · have kept := lookup_filter_key (fun key => key == place || !place.isPrefixOf key) q d.entries
    rw [entry?_of_ne_nil _ root, entry?_of_ne_nil _ root, kept]
    by_cases same : q = place
    · simp [same]
    · by_cases below : place <+: q
      · have inside := List.isPrefixOf_iff_prefix.mpr below
        simp only [beq_eq_false_iff_ne.mpr same, inside, Bool.not_true, Bool.or_self,
          Bool.false_eq_true, if_false, if_pos (And.intro below same)]
      · simp [below]

@[simp] theorem workingFolder_put (d : Disk) (place : Place) (entry : Entry) :
    (d.put place entry).workingFolder = d.workingFolder := rfl

@[simp] theorem workingFolder_clear (d : Disk) (place : Place) :
    (d.clear place).workingFolder = d.workingFolder := rfl

theorem workingFolder_relocate (d : Disk) (source destination : Place) (entry : Entry) :
    (d.relocate source destination entry).workingFolder =
      if entry.isFolder && source.isPrefixOf d.workingFolder then
        destination ++ d.workingFolder.drop source.length
      else d.workingFolder :=
  rfl

namespace WellFormed

variable {d : Disk} (tree : d.WellFormed)
include tree

/-- Everything stands in folders all the way up. -/
theorem folder_of_append {place rest : Place} (proper : rest ≠ [])
    (present : d.entry? (place ++ rest) ≠ none) : d.entry? place = some .folder := by
  induction rest using List.reverseRecOn with
  | nil => exact absurd rfl proper
  | append_singleton init c ih =>
    rw [← List.append_assoc] at present
    have parent := tree.above _ _ present
    by_cases last : init = []
    · simpa [last] using parent
    · exact ih last (by simp [parent])

theorem folder_of_prefix {place q : Place} (below : place <+: q) (proper : q ≠ place)
    (present : d.entry? q ≠ none) : d.entry? place = some .folder := by
  obtain ⟨rest, rfl⟩ := below
  refine tree.folder_of_append ?_ present
  rintro rfl
  exact proper (List.append_nil place)

/-- Nothing stands below a file. -/
theorem eq_of_prefix_of_file {place q : Place} {content : List UInt8}
    (file : d.entry? place = some (.file content)) (below : place <+: q)
    (present : d.entry? q ≠ none) : q = place := by
  by_contra proper
  have folder := tree.folder_of_prefix below proper present
  rw [file] at folder
  cases folder

theorem entry?_dropLast {place : Place} (present : d.entry? place ≠ none) :
    d.entry? place.dropLast = some .folder := by
  rcases List.eq_nil_or_concat' place with rfl | ⟨init, c, rfl⟩
  · rfl
  · simpa using tree.above init c (by simpa using present)

omit tree in
theorem mem_of_present {place : Place} {entry : Entry} (nonempty : place ≠ [])
    (present : d.entry? place = some entry) : (place, entry) ∈ d.entries := by
  rw [entry?_of_ne_nil d nonempty] at present
  obtain ⟨before, after, split, -⟩ := List.lookup_eq_some_iff.mp present
  simp [split]

theorem mem_entries_iff {place : Place} {entry : Entry} :
    (place, entry) ∈ d.entries ↔ place ≠ [] ∧ d.entry? place = some entry := by
  constructor
  · intro member
    have nonempty : place ≠ [] := by
      rintro rfl
      exact tree.rootless (List.mem_map_of_mem member)
    exact ⟨nonempty, tree.keyed.entry?_of_mem member⟩
  · rintro ⟨nonempty, present⟩
    exact mem_of_present nonempty present

omit tree in
/-- Whether a disk is a tree can be seen from its entries, one by one. -/
theorem iff_entries :
    d.WellFormed ↔ (d.entries.map Prod.fst).Nodup ∧
      (∀ e ∈ d.entries, e.1 ≠ [] ∧ d.entry? e.1.dropLast = some .folder ∧
        ∀ c ∈ e.1.getLast?, c.isParent = false) ∧
      d.entry? d.workingFolder = some .folder := by
  constructor
  · intro tree
    refine ⟨tree.distinct, ?_, tree.working⟩
    rintro ⟨place, entry⟩ member
    obtain ⟨nonempty, present⟩ := tree.mem_entries_iff.mp member
    obtain ⟨init, c, rfl⟩ := (List.eq_nil_or_concat' place).resolve_left nonempty
    have stands : d.entry? (init ++ [c]) ≠ none := by simp [present]
    refine ⟨nonempty, by simpa using tree.above init c stands, ?_⟩
    simpa using tree.named init c stands
  · rintro ⟨distinct, each, working⟩
    have inside : ∀ place c, d.entry? (place ++ [c]) ≠ none →
        d.entry? place = some .folder ∧ c.isParent = false := by
      intro place c present
      obtain ⟨entry, stands⟩ := Option.ne_none_iff_exists'.mp present
      obtain ⟨-, above, named⟩ := each _ (mem_of_present (by simp) stands)
      exact ⟨by simpa using above, by simpa using named⟩
    refine ⟨distinct, ?_, fun place c present => (inside place c present).1,
      fun place c present => (inside place c present).2, working⟩
    intro root
    obtain ⟨e, member, same⟩ := List.mem_map.mp root
    exact (each e member).1 same

omit tree in
instance : Decidable d.WellFormed :=
  decidable_of_iff _ iff_entries.symm

omit tree in
private theorem keys_put (place : Place) (entry : Entry) :
    ((d.put place entry).entries.map Prod.fst).Sublist (place :: d.entries.map Prod.fst) := by
  simp only [Disk.put, List.map_cons]
  exact (List.filter_sublist.map Prod.fst).cons_cons place

/-- A new entry, or one in place of a file, under a proper name in a folder. -/
theorem put {place : Place} {c : Component} (folder : d.entry? place = some .folder)
    (proper : c.isParent = false) (replaceable : d.entry? (place ++ [c]) ≠ some .folder)
    (entry : Entry) : (d.put (place ++ [c]) entry).WellFormed := by
  have nonempty : place ++ [c] ≠ [] := by simp
  have apart : ∀ q, d.entry? q = some .folder → q ≠ place ++ [c] := by
    rintro q stands rfl
    exact replaceable stands
  refine ⟨?_, ?_, ?_, ?_, ?_⟩
  · refine List.nodup_cons.mpr ⟨?_, ?_⟩
    · simp
    · exact tree.distinct.sublist (List.filter_sublist.map Prod.fst)
  · intro root
    rcases List.mem_cons.mp ((keys_put _ _).subset root) with same | inRest
    · exact nonempty same.symm
    · exact tree.rootless inRest
  · intro q c' present
    rw [entry?_put d nonempty] at present ⊢
    by_cases same : q ++ [c'] = place ++ [c]
    · obtain ⟨rfl, -⟩ := List.append_inj' same rfl
      rwa [if_neg (apart q folder)]
    · rw [if_neg same] at present
      have above := tree.above q c' present
      rwa [if_neg (apart q above)]
  · intro q c' present
    rw [entry?_put d nonempty] at present
    by_cases same : q ++ [c'] = place ++ [c]
    · obtain ⟨-, last⟩ := List.append_inj' same rfl
      obtain rfl : c' = c := by simpa using last
      exact proper
    · rw [if_neg same] at present
      exact tree.named q c' present
  · rw [entry?_put d nonempty]
    simpa [apart _ tree.working] using tree.working

/-- A file in place of another. -/
theorem put_over_file {place : Place} {old : List UInt8}
    (file : d.entry? place = some (.file old)) (entry : Entry) :
    (d.put place entry).WellFormed := by
  rcases List.eq_nil_or_concat' place with rfl | ⟨init, c, rfl⟩
  · cases file
  · have present : d.entry? (init ++ [c]) ≠ none := by simp [file]
    exact tree.put (tree.above init c present) (tree.named init c present) (by simp [file]) entry

/-- Removing a file removes nothing else. -/
theorem entry?_clear_file {place : Place} {content : List UInt8}
    (file : d.entry? place = some (.file content)) (q : Place) :
    entry? (d.clear place) q = if q = place then none else d.entry? q := by
  rw [entry?_clear d (ne_nil_of_file file)]
  by_cases below : place <+: q
  · rw [if_pos below]
    by_cases same : q = place
    · rw [if_pos same]
    · rw [if_neg same]
      by_contra present
      exact same (tree.eq_of_prefix_of_file file below (Ne.symm present))
  · have different : q ≠ place := by
      rintro rfl
      exact below List.prefix_rfl
    rw [if_neg below, if_neg different]

theorem file?_clear_file {place : Place} {content : List UInt8}
    (file : d.entry? place = some (.file content)) (q : Place) :
    file? (d.clear place) q = if q = place then none else d.file? q := by
  unfold file?
  rw [tree.entry?_clear_file file]
  split_ifs <;> rfl

theorem clear_file {place : Place} {content : List UInt8}
    (file : d.entry? place = some (.file content)) : (d.clear place).WellFormed := by
  have keys : ((d.clear place).entries.map Prod.fst).Sublist (d.entries.map Prod.fst) :=
    List.filter_sublist.map Prod.fst
  have apart : ∀ q, d.entry? q = some .folder → q ≠ place := by
    rintro q folder rfl
    rw [file] at folder
    cases folder
  have stays : ∀ q, entry? (d.clear place) q ≠ none → d.entry? q ≠ none := by
    intro q present
    rw [tree.entry?_clear_file file] at present
    split_ifs at present
    · exact absurd rfl present
    · exact present
  refine ⟨tree.distinct.sublist keys, fun root => tree.rootless (keys.subset root), ?_, ?_, ?_⟩
  · intro q c present
    have above := tree.above q c (stays _ present)
    rw [tree.entry?_clear_file file, if_neg (apart q above)]
    exact above
  · intro q c present
    exact tree.named q c (stays _ present)
  · rw [workingFolder_clear, tree.entry?_clear_file file, if_neg (apart _ tree.working)]
    exact tree.working

private theorem below_file {place : Place} {content : List UInt8}
    (file : d.entry? place = some (.file content)) : d.below place = [] := by
  simp only [below, List.map_eq_nil_iff, List.filter_eq_nil_iff]
  rintro ⟨q, entry⟩ member
  obtain ⟨-, stands⟩ := tree.mem_entries_iff.mp member
  simp only [Bool.and_eq_true, List.isPrefixOf_iff_prefix, bne_iff_ne, not_and, not_not]
  intro below
  exact tree.eq_of_prefix_of_file file below (by simp [stands])

/-- A file that takes another place leaves everything else as it was. -/
theorem relocate_file {source : Place} {content : List UInt8}
    (file : d.entry? source = some (.file content)) (destination : Place) :
    d.relocate source destination (.file content) =
      (d.clear source).put destination (.file content) := by
  simp only [relocate, tree.below_file file]
  rfl

end WellFormed

end Disk

end MusicFiling
