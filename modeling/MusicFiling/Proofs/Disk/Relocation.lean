import MusicFiling.Proofs.Disk.Contents
import MusicFiling.Proofs.Disk.Listing

/-!
# Entries that take another place

An entry that goes to a vacant place takes all that stands below it along, and everything else stays
where it is. What was a tree stays one, and the files keep their contents.
-/

namespace MusicFiling

namespace Disk

theorem entry?_putAll_off (d : Disk) {place q : Place} (off : ¬place <+: q)
    (entries : List (Place × Entry)) : entry? (d.putAll place entries) q = d.entry? q := by
  induction entries generalizing d with
  | nil => rfl
  | cons e rest ih =>
    have other : q ≠ place ++ e.1 := by
      rintro rfl
      exact off (List.prefix_append _ _)
    have nonempty : place ++ e.1 ≠ [] := by
      intro empty
      exact off ((List.append_eq_nil_iff.mp empty).1 ▸ List.nil_prefix)
    have first : d.putAll place (e :: rest) = (d.put (place ++ e.1) e.2).putAll place rest := rfl
    rw [first, ih, entry?_put d nonempty, if_neg other]

theorem entry?_putAll (d : Disk) {place : Place} (nonempty : place ≠ [])
    {entries : List (Place × Entry)} (distinct : (entries.map Prod.fst).Nodup) (rest : Place) :
    entry? (d.putAll place entries) (place ++ rest) =
      (entries.lookup rest).or (d.entry? (place ++ rest)) := by
  induction entries generalizing d with
  | nil => rfl
  | cons e more ih =>
    obtain ⟨absent, later⟩ := List.nodup_cons.mp distinct
    have below : place ++ e.1 ≠ [] := by simp [nonempty]
    have first : d.putAll place (e :: more) = (d.put (place ++ e.1) e.2).putAll place more := rfl
    rw [first, ih _ later, entry?_put d below, List.lookup_cons]
    by_cases here : rest = e.1
    · subst here
      have gone : more.lookup e.1 = none := by
        refine List.lookup_eq_none_iff.mpr fun other member => bne_iff_ne.mpr fun same => ?_
        exact absent (same ▸ List.mem_map_of_mem member)
      simp [gone]
    · rw [if_neg fun same => here (List.append_cancel_left same), beq_eq_false_iff_ne.mpr here]

theorem WellFormed.lookup_below {d : Disk} (tree : d.WellFormed) (place : Place) {rest : Place}
    (proper : rest ≠ []) : (d.below place).lookup rest = d.entry? (place ++ rest) := by
  cases found : d.entry? (place ++ rest) with
  | some entry =>
    exact lookup_of_mem (tree.nodup_below place) (tree.mem_below.mpr ⟨proper, found⟩)
  | none =>
    refine List.lookup_eq_none_iff.mpr fun e member => bne_iff_ne.mpr ?_
    rintro rfl
    have stands := (tree.mem_below.mp member).2
    rw [found] at stands
    cases stands

theorem WellFormed.lookup_below_nil {d : Disk} (tree : d.WellFormed) (place : Place) :
    (d.below place).lookup [] = none := by
  refine List.lookup_eq_none_iff.mpr fun e member => bne_iff_ne.mpr fun same => ?_
  exact (tree.mem_below.mp member).1 same.symm

namespace Keyed

variable {d : Disk} (keyed : d.Keyed)
include keyed

theorem filter (keep : Place × Entry → Bool) (working : Place) :
    Keyed ⟨d.entries.filter keep, working⟩ := by
  have fewer : ((d.entries.filter keep).map Prod.fst).Sublist (d.entries.map Prod.fst) :=
    List.filter_sublist.map Prod.fst
  exact ⟨keyed.distinct.sublist fewer, fun root => keyed.rootless (fewer.subset root)⟩

private theorem put {place : Place} (nonempty : place ≠ []) (entry : Entry) :
    (d.put place entry).Keyed := by
  have others := keyed.filter (fun e => e.1 ≠ place) d.workingFolder
  refine ⟨List.nodup_cons.mpr ⟨by simp, others.distinct⟩, ?_⟩
  intro root
  rcases List.mem_cons.mp root with same | inRest
  · exact nonempty same.symm
  · exact others.rootless inRest

theorem putAll {place : Place} (nonempty : place ≠ []) (entries : List (Place × Entry)) :
    (d.putAll place entries).Keyed := by
  induction entries generalizing d with
  | nil => exact keyed
  | cons e rest ih => exact ih (keyed.put (by simp [nonempty]) e.2)

end Keyed

section Relocation

variable {d : Disk} (tree : d.WellFormed) {a b : Place} {entry : Entry}
  (stands : d.entry? a = some entry)
include tree

theorem WellFormed.vacant_append {place : Place} (vacant : d.entry? place = none) (rest : Place) :
    d.entry? (place ++ rest) = none := by
  by_cases whole : rest = []
  · rwa [whole, List.append_nil]
  · by_contra present
    have folder := tree.folder_of_append whole present
    rw [vacant] at folder
    cases folder

include stands

/-- What stood at or below the one place stands at and below the other. -/
theorem entry?_relocate (origin : a ≠ []) (vacant : d.entry? b = none) (q : Place) :
    entry? (d.relocate a b entry) q =
      if b <+: q then d.entry? (a ++ q.drop b.length)
      else if a <+: q then none else d.entry? q := by
  have goal : b ≠ [] := by
    rintro rfl
    cases vacant
  have same : entry? (d.relocate a b entry) q =
      entry? (((d.clear a).put b entry).putAll b (d.below a)) q := by
    cases q <;> rfl
  rw [same]
  split_ifs with atGoal atOrigin
  · obtain ⟨rest, rfl⟩ := atGoal
    rw [entry?_putAll _ goal (tree.nodup_below a), List.drop_left, entry?_put _ goal]
    by_cases whole : rest = []
    · subst whole
      simp [tree.lookup_below_nil, stands]
    · have free : entry? (d.clear a) (b ++ rest) = none := by
        rw [entry?_clear d origin, tree.vacant_append vacant, ite_self]
      simp [tree.lookup_below a whole, whole, free]
  · have other : q ≠ b := by
      rintro rfl
      exact atGoal List.prefix_rfl
    rw [entry?_putAll_off _ atGoal, entry?_put _ goal, if_neg other, entry?_clear d origin,
      if_pos atOrigin]
  · have other : q ≠ b := by
      rintro rfl
      exact atGoal List.prefix_rfl
    rw [entry?_putAll_off _ atGoal, entry?_put _ goal, if_neg other, entry?_clear d origin,
      if_neg atOrigin]

/-- What stands after a relocation stands at the goal, stood below the origin, or stood elsewhere. -/
theorem relocate_cases (origin : a ≠ []) (vacant : d.entry? b = none) {place : Place}
    {c : Component} (present : entry? (d.relocate a b entry) (place ++ [c]) ≠ none) :
    place ++ [c] = b ∨ (∃ rest, place = b ++ rest ∧ d.entry? (a ++ rest ++ [c]) ≠ none) ∨
      ¬b <+: place ++ [c] ∧ ¬a <+: place ++ [c] ∧ d.entry? (place ++ [c]) ≠ none := by
  rw [entry?_relocate tree stands origin vacant] at present
  split_ifs at present with atGoal atOrigin
  · rcases List.prefix_concat_iff.mp atGoal with same | ⟨rest, rfl⟩
    · exact .inl same.symm
    · rw [List.append_assoc b, List.drop_left, ← List.append_assoc] at present
      exact .inr (.inl ⟨rest, rfl, present⟩)
  · exact absurd rfl present
  · exact .inr (.inr ⟨atGoal, atOrigin, present⟩)

/-- A tree stays a tree if an entry goes to a vacant place in a folder outside of it. -/
theorem WellFormed.relocate {parent : Place} {c : Component} (origin : a ≠ [])
    (folder : d.entry? parent = some .folder) (proper : c.isParent = false)
    (vacant : d.entry? (parent ++ [c]) = none) (outside : ¬a <+: parent ++ [c]) :
    (d.relocate a (parent ++ [c]) entry).WellFormed := by
  have view := entry?_relocate tree stands origin vacant
  have goal : parent ++ [c] ≠ [] := by simp
  have keyed : (d.relocate a (parent ++ [c]) entry).Keyed :=
    ⟨(((tree.keyed.filter _ _).put goal entry).putAll goal (d.below a)).distinct,
      (((tree.keyed.filter _ _).put goal entry).putAll goal (d.below a)).rootless⟩
  have home : entry? (d.relocate a (parent ++ [c]) entry) parent = some .folder := by
    rw [view, if_neg, if_neg, folder]
    · exact fun above => outside (above.trans (List.prefix_append _ _))
    · intro below
      have longer := below.length_le
      simp only [List.length_append, List.length_singleton] at longer
      omega
  refine ⟨keyed.distinct, keyed.rootless, ?_, ?_, ?_⟩
  · intro place c' present
    rcases relocate_cases tree stands origin vacant present with same | ⟨rest, rfl, stood⟩ |
      ⟨atGoal, atOrigin, stood⟩
    · obtain ⟨rfl, -⟩ := List.append_inj' same rfl
      exact home
    · rw [view, if_pos (List.prefix_append _ _), List.drop_left]
      exact tree.above _ c' stood
    · rw [view, if_neg, if_neg]
      · exact tree.above place c' stood
      · exact fun above => atOrigin (above.trans (List.prefix_append _ _))
      · exact fun above => atGoal (above.trans (List.prefix_append _ _))
  · intro place c' present
    rcases relocate_cases tree stands origin vacant present with same | ⟨rest, rfl, stood⟩ |
      ⟨-, -, stood⟩
    · obtain ⟨-, last⟩ := List.append_inj' same rfl
      obtain rfl : c' = c := by simpa using last
      exact proper
    · exact tree.named _ c' stood
    · exact tree.named place c' stood
  · rw [workingFolder_relocate]
    by_cases taken : (entry.isFolder && a.isPrefixOf d.workingFolder) = true
    · obtain ⟨-, inside⟩ := Bool.and_eq_true_iff.mp taken
      obtain ⟨rest, split⟩ := List.isPrefixOf_iff_prefix.mp inside
      rw [if_pos taken, view, if_pos (List.prefix_append _ _), List.drop_left, ← split,
        List.drop_left, split]
      exact tree.working
    · have notGoal : ¬parent ++ [c] <+: d.workingFolder := by
        rintro ⟨rest, split⟩
        have working := tree.working
        rw [← split, tree.vacant_append vacant] at working
        cases working
      have notOrigin : ¬a <+: d.workingFolder := by
        intro above
        cases entry with
        | folder => simp [Entry.isFolder, above] at taken
        | file content =>
          have same := tree.eq_of_prefix_of_file stands above (by simp [tree.working])
          rw [← same, tree.working] at stands
          cases stands
      rw [if_neg taken, view, if_neg notGoal, if_neg notOrigin]
      exact tree.working

end Relocation

/-- The files at and below one place went along to another place, where there were none, and all
    others stayed. -/
structure Shifted (a b : Place) (d d' : Disk) : Prop where
  free : ∀ rest, d.file? (b ++ rest) = none
  files : ∀ q, d'.file? q =
    if b <+: q then d.file? (a ++ q.drop b.length) else if a <+: q then none else d.file? q

namespace Shifted

variable {a b : Place} {d d' : Disk} (shifted : Shifted a b d d')
include shifted

private theorem file?_goal (rest : Place) : d'.file? (b ++ rest) = d.file? (a ++ rest) := by
  rw [shifted.files, if_pos (List.prefix_append b rest), List.drop_left]

private theorem not_goal {q : Place} {content : List UInt8} (file : d.file? q = some content) :
    ¬b <+: q := by
  rintro ⟨rest, rfl⟩
  rw [shifted.free] at file
  cases file

theorem of_file?_eq {before : Disk} (same : d.file? = before.file?) : Shifted a b before d' := by
  obtain ⟨free, files⟩ := shifted
  rw [same] at free files
  exact ⟨free, files⟩

/-- No content is lost, and none is new. -/
theorem contents_perm (keyed : d.Keyed) (keyed' : d'.Keyed) : d.contents.Perm d'.contents := by
  -- A file is followed along: below the first place to the second, elsewhere nowhere.
  refine Disk.contents_perm keyed keyed'
    (fun q => if a <+: q then b ++ q.drop a.length else q) ?_ ?_ ?_
  · intro q content file
    by_cases along : a <+: q
    · obtain ⟨rest, rfl⟩ := along
      rw [if_pos (List.prefix_append a rest), List.drop_left, shifted.file?_goal]
      exact file
    · rw [if_neg along, shifted.files, if_neg (shifted.not_goal file), if_neg along]
      exact file
  · intro q' content file
    by_cases atGoal : b <+: q'
    · obtain ⟨rest, rfl⟩ := atGoal
      rw [shifted.file?_goal] at file
      exact ⟨a ++ rest, file, by simp⟩
    · rw [shifted.files, if_neg atGoal] at file
      split_ifs at file with along
      exact ⟨q', file, if_neg along⟩
  · intro p q fileP fileQ same
    obtain ⟨_, fileP⟩ := Option.ne_none_iff_exists'.mp fileP
    obtain ⟨_, fileQ⟩ := Option.ne_none_iff_exists'.mp fileQ
    by_cases alongP : a <+: p <;> by_cases alongQ : a <+: q
    · obtain ⟨rest, rfl⟩ := alongP
      obtain ⟨rest', rfl⟩ := alongQ
      simpa using same
    · simp only [if_pos alongP, if_neg alongQ] at same
      exact absurd (same ▸ List.prefix_append _ _) (shifted.not_goal fileQ)
    · simp only [if_neg alongP, if_pos alongQ] at same
      exact absurd (same ▸ List.prefix_append _ _) (shifted.not_goal fileP)
    · simpa only [if_neg alongP, if_neg alongQ] using same

end Shifted

theorem WellFormed.shifted_relocate {d : Disk} (tree : d.WellFormed) {a b : Place} {entry : Entry}
    (stands : d.entry? a = some entry) (origin : a ≠ []) (vacant : d.entry? b = none) :
    Shifted a b d (d.relocate a b entry) := by
  refine ⟨fun rest => file?_eq_none_of_vacant (tree.vacant_append vacant rest), ?_⟩
  intro q
  unfold file?
  rw [entry?_relocate tree stands origin vacant]
  split_ifs <;> rfl

end Disk

end MusicFiling
