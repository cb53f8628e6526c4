import MusicFiling.Proofs.Disk.Tree
import Mathlib.Data.List.Perm.Basic

/-!
# The contents of all files

A disk has a content for each of its files. Files may change their places without a change of the
contents, and a file that is removed takes exactly one content with it.
-/

namespace MusicFiling

namespace Disk

/-- The files of a disk with their places. -/
def placedFiles (d : Disk) : List (Place × List UInt8) :=
  d.entries.filterMap fun e => e.2.content?.map fun content => (e.1, content)

/-- The contents of all files, each as often as there are files that have it. -/
def contents (d : Disk) : List (List UInt8) :=
  d.placedFiles.map Prod.snd

section

variable {d : Disk} (keyed : d.Keyed)
include keyed

private theorem Keyed.mem_placedFiles {q : Place} {content : List UInt8} :
    (q, content) ∈ d.placedFiles ↔ d.file? q = some content := by
  simp only [placedFiles, List.mem_filterMap, Option.map_eq_some_iff, Prod.mk.injEq]
  constructor
  · rintro ⟨⟨q', entry⟩, member, content', file, rfl, rfl⟩
    rw [file?, keyed.entry?_of_mem member]
    exact file
  · intro file
    have stands := file?_eq_some_iff.mp file
    exact ⟨_, WellFormed.mem_of_present (ne_nil_of_file stands) stands, content, rfl, rfl, rfl⟩

private theorem Keyed.nodup_placedFiles : d.placedFiles.Nodup := by
  have keys : (d.placedFiles.map Prod.fst).Sublist (d.entries.map Prod.fst) := by
    unfold placedFiles
    induction d.entries with
    | nil => exact .slnil
    | cons e rest ih =>
      cases content : e.2.content? with
      | none => simpa [content] using ih.cons e.1
      | some _ => simpa [content] using ih.cons_cons e.1
  exact .of_map Prod.fst (keyed.distinct.sublist keys)

end

variable {d d' : Disk} (keyed : d.Keyed) (keyed' : d'.Keyed)
include keyed keyed'

/-- Files that go to places of their own, where they are all the files there are, keep the contents
    as they are. -/
theorem contents_perm (place : Place → Place)
    (there : ∀ q content, d.file? q = some content → d'.file? (place q) = some content)
    (back : ∀ q' content, d'.file? q' = some content →
      ∃ q, d.file? q = some content ∧ place q = q')
    (apart : ∀ p q, d.file? p ≠ none → d.file? q ≠ none → place p = place q → p = q) :
    d.contents.Perm d'.contents := by
  have moved : (d.placedFiles.map fun f => (place f.1, f.2)).Nodup := by
    refine List.Nodup.map_on ?_ keyed.nodup_placedFiles
    rintro ⟨p, content⟩ memberP ⟨q, content'⟩ memberQ same
    obtain ⟨here, rfl⟩ := Prod.mk.inj same
    have fileP := keyed.mem_placedFiles.mp memberP
    have fileQ := keyed.mem_placedFiles.mp memberQ
    rw [apart p q (by simp [fileP]) (by simp [fileQ]) here]
  have perm : (d.placedFiles.map fun f => (place f.1, f.2)).Perm d'.placedFiles := by
    refine (List.perm_ext_iff_of_nodup moved keyed'.nodup_placedFiles).mpr ?_
    rintro ⟨q', content⟩
    rw [keyed'.mem_placedFiles, List.mem_map]
    constructor
    · rintro ⟨⟨q, content'⟩, member, same⟩
      obtain ⟨rfl, rfl⟩ := Prod.mk.inj same
      exact there q content' (keyed.mem_placedFiles.mp member)
    · intro file
      obtain ⟨q, before, rfl⟩ := back q' content file
      exact ⟨(q, content), keyed.mem_placedFiles.mpr before, rfl⟩
  have contents := perm.map Prod.snd
  rwa [List.map_map] at contents

theorem contents_perm_of_file?_eq (same : d'.file? = d.file?) : d.contents.Perm d'.contents := by
  refine contents_perm keyed keyed' id ?_ ?_ fun _ _ _ _ => id
  · intro q content file
    rwa [same]
  · intro q content file
    exact ⟨q, by rwa [same] at file, rfl⟩

/-- A file that is removed takes its content with it. -/
theorem contents_perm_of_removed {a : Place} {content : List UInt8}
    (file : d.file? a = some content)
    (removed : ∀ q, d'.file? q = if q = a then none else d.file? q) :
    d.contents.Perm (content :: d'.contents) := by
  have fresh : (a, content) ∉ d'.placedFiles := by
    rw [keyed'.mem_placedFiles, removed, if_pos rfl]
    exact fun impossible => nomatch impossible
  have perm : d.placedFiles.Perm ((a, content) :: d'.placedFiles) := by
    refine (List.perm_ext_iff_of_nodup keyed.nodup_placedFiles
      (List.nodup_cons.mpr ⟨fresh, keyed'.nodup_placedFiles⟩)).mpr ?_
    rintro ⟨q, content'⟩
    rw [List.mem_cons, keyed.mem_placedFiles, keyed'.mem_placedFiles, removed]
    by_cases here : q = a
    · subst here
      simp [file, eq_comm]
    · simp [here]
  exact perm.map Prod.snd

end Disk

end MusicFiling
