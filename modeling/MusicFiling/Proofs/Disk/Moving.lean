import MusicFiling.Proofs.Disk.Delivery
import MusicFiling.Proofs.Disk.Relocation

/-!
# Moves of files and folders

A move leaves everything where it is, or what stood at its source goes with all below it to a place
at which nothing stood; unless a file is moved to the path of another one, which it replaces. A
folder whose path ends in dots cannot be removed once its files were copied, which stops the move.
-/

namespace MusicFiling

namespace Disk

/-- Two paths lead to two files. -/
def Replaces (d : Disk) (source destination : Path) : Prop :=
  ∃ a b content content', d.reach source = .ok a ∧ d.entry? a = some (.file content) ∧
    d.reach destination = .ok b ∧ d.entry? b = some (.file content') ∧ a ≠ b

/-- How a move ends that replaces no file. -/
inductive Moving (d : Disk) (source destination : Path) : Attempt → Prop where
  | unmoved {attempt : Attempt} (same : attempt.disk = d) : Moving d source destination attempt
  | moved {a b : Place} {d' : Disk} (led : d.reach source = .ok a) (shifted : Shifted a b d d')
    (tree : d'.WellFormed) : Moving d source destination (.done d')
  | torn {a b : Place} {attempt : Attempt} (led : d.reach source = .ok a)
    (shifted : Shifted a b d attempt.disk) (keyed : attempt.disk.Keyed)
    (stopped : attempt.fault ≠ none) : Moving d source destination attempt

/-- A file that is moved to the path of another one takes its place. -/
theorem Replaces.delivery {d : Disk} (tree : d.WellFormed) {source destination : Path}
    (replaces : d.Replaces source destination) :
    ∃ a b content lost d', d.move source destination = .done d' ∧
      d.Delivery .move source destination a b content d' ∧ d.file? b = some lost := by
  obtain ⟨a, b, content, lost, led, stands, arrived, file, apart⟩ := replaces
  obtain ⟨d', moved, delivery⟩ := tree.move_file led stands arrived (by simp [file]) apart.symm
  exact ⟨a, b, content, lost, d', moved, delivery, file?_eq_some_iff.mpr file⟩

/-- The content of a file that is replaced is lost. -/
theorem Delivery.contents_perm {d d' : Disk} {source destination : Path} {a b : Place}
    {content lost : List UInt8}
    (delivery : d.Delivery .move source destination a b content d') (tree : d.WellFormed)
    (replaced : d.file? b = some lost) : d.contents.Perm (lost :: d'.contents) := by
  have file := file?_eq_some_iff.mp replaced
  have moved : d.file? a = some content := file?_eq_some_iff.mpr delivery.present
  have cleared := tree.clear_file file
  have removed := tree.file?_clear_file file
  have after := delivery.file? tree
  have keyed := (delivery.wellFormed tree).keyed
  refine (contents_perm_of_removed tree.keyed cleared.keyed replaced removed).trans (.cons _ ?_)
  refine Disk.contents_perm cleared.keyed keyed (fun q => if q = a then b else q) ?_ ?_ ?_
  · intro q content' stands
    rw [removed] at stands
    split_ifs at stands with gone
    by_cases here : q = a
    · subst here
      obtain rfl : content = content' := Option.some.inj (moved.symm.trans stands)
      simp [after]
    · simp [after, here, gone, stands]
  · intro q' content' stands
    rw [after] at stands
    split_ifs at stands with here gone
    · subst here
      refine ⟨a, ?_, if_pos rfl⟩
      rw [removed, if_neg (Ne.symm delivery.apart), moved, stands]
    · have other : q' ≠ a := fun same => gone ⟨rfl, same⟩
      exact ⟨q', by rw [removed, if_neg here, stands], if_neg other⟩
  · intro p q standsP standsQ same
    rw [removed] at standsP standsQ
    split_ifs at standsP with goneP
    · exact absurd rfl standsP
    split_ifs at standsQ with goneQ
    · exact absurd rfl standsQ
    split_ifs at same with hereP hereQ hereQ
    · exact hereP.trans hereQ.symm
    · exact absurd same.symm goneQ
    · exact absurd same goneP
    · exact same

namespace WellFormed

variable {d : Disk} (tree : d.WellFormed) {source destination : Path}
include tree

/-- An entry goes to where nothing stands. -/
theorem moving_relocate {a b : Place} {entry : Entry} (led : d.reach source = .ok a)
    (stands : d.entry? a = some entry) {p : Path} (arrived : d.reach p = .ok b)
    (vacant : d.entry? b = none) (outside : ¬a <+: b) :
    Moving d source destination (.done (d.relocate a b entry)) := by
  have origin : a ≠ [] := by
    rintro rfl
    exact outside List.nil_prefix
  obtain ⟨init, c, parent, -, proper, folder, rfl⟩ :=
    tree.reach_ne_folder arrived (by simp [vacant])
  exact .moved led (tree.shifted_relocate stands origin vacant)
    (tree.relocate stands origin folder proper vacant outside)

private theorem moving_rename {d' : Disk} {p : Path} (renamed : d.rename source p = .ok d')
    (noFolder : d.isFolder p = false) (noFile : ¬d.Replaces source p) :
    Moving d source destination (.done d') := by
  obtain ⟨a, b, entry, led, arrived, stands, ⟨-, rfl⟩ | ⟨apart, outside, rfl, goal⟩⟩ :=
    rename_relocates renamed
  · exact .unmoved rfl
  · rcases goal with vacant | ⟨-, folder⟩ | ⟨content, content', rfl, file⟩
    · exact tree.moving_relocate led stands arrived vacant outside
    · simp [(isFolder_of_reach arrived).mpr folder] at noFolder
    · exact absurd ⟨a, b, content, content', led, stands, arrived, file, apart⟩ noFile

/-- An entry whose path ends in a name can be renamed to where nothing stands, outside of it. -/
theorem rename_vacant {a b : Place} {entry : Entry} (led : d.reach source = .ok a)
    (stands : d.entry? a = some entry) (arrived : d.reach destination = .ok b)
    (vacant : d.entry? b = none) (outside : ¬a <+: b)
    (named : (innerPath? source source).isSome) :
    d.rename source destination = .ok (d.relocate a b entry) := by
  have named' := tree.innerPath?_isSome arrived (by simp [vacant]) destination
  have apart : a ≠ b := by
    rintro rfl
    exact outside List.prefix_rfl
  have apart' : a.isPrefixOf b = false := by
    rw [← Bool.not_eq_true, List.isPrefixOf_iff_prefix]
    exact outside
  unfold rename
  simp only [led, arrived, Option.isNone_eq_false_iff.mpr named,
    Option.isNone_eq_false_iff.mpr named', stands, apart, apart', vacant, Bool.false_eq_true,
    or_self, if_false]

omit tree in
private theorem makeFolders_of_vacant {p : Path} {b : Place} (led : d.reach p = .ok b)
    (vacant : d.entry? b = none) : d.makeFolders p = .done (d.put b .folder) := by
  have made : d.makeFolder p = .ok (d.put b .folder) := by simp [makeFolder, led, vacant]
  unfold makeFolders
  cases length : p.parts.length with
  | zero =>
    have whole : p.upTo 0 = p := length ▸ upTo_length p
    simp [makeFoldersUpTo, whole, made]
  | succ n =>
    have whole : p.upTo (n + 1) = p := length ▸ upTo_length p
    simp [makeFoldersUpTo, whole, made]

omit tree in
private theorem makeFolders_of_refused {p : Path} {cause : Cause}
    (refused : d.reach p = .error cause)
    (other : cause ≠ .notFound) : (d.makeFolders p).disk = d := by
  have made : d.makeFolder p = .error cause := by simp [makeFolder, refused]
  unfold makeFolders
  cases length : p.parts.length with
  | zero =>
    have whole : p.upTo 0 = p := length ▸ upTo_length p
    simp [makeFoldersUpTo, whole, made, acceptFolder_disk]
  | succ n =>
    have whole : p.upTo (n + 1) = p := length ▸ upTo_length p
    cases cause <;> simp_all [makeFoldersUpTo, acceptFolder_disk]

omit tree in
/-- From a folder on, only a path that cannot be asked about leads nowhere. -/
theorem reach_error_in_folder {p : Path} (parent : d.isFolder p.parent = true) {cause : Cause}
    (refused : d.reach p = .error cause) : cause ≠ .notFound := by
  rintro rfl
  obtain ⟨q, led, folder⟩ := isFolder_iff.mp parent
  obtain ⟨-, -, followed⟩ := reach_ok_iff.mp led
  unfold reach at refused
  split_ifs at refused
  · cases refused
  · cases refused
  · rcases List.eq_nil_or_concat' p.parts with empty | ⟨init, c, split⟩
    · simp [empty, follow] at refused
    · have start : d.startOf p.parent = d.startOf p := rfl
      rw [start, Path.parent, split, List.dropLast_concat] at followed
      rw [split, follow_append, followed] at refused
      simp only [Except.bind, follow, folder] at refused
      split_ifs at refused
      cases refused

/-- Copying a folder away takes its files to where nothing stood. -/
theorem shifted_copyFolder {a b : Place} (folder : d.entry? a = some .folder) {p : Path}
    (arrived : d.reach p = .ok b) (vacant : d.entry? b = none) (outside : ¬a <+: b)
    (named : innerPath? source source = none) :
    let moved := ((d.put b .folder).putAll b ((d.put b .folder).below a)).removeFolderAt a source
    Shifted a b d moved.disk ∧ moved.disk.Keyed ∧ moved.fault ≠ none := by
  have grown := tree.put_reached arrived (by simp [vacant]) .folder
  have goal : b ≠ [] := by
    rintro rfl
    cases vacant
  have beyond : ¬b <+: a := by
    rintro ⟨rest, rfl⟩
    rw [tree.vacant_append vacant] at folder
    cases folder
  simp only [removeFolderAt, named, Attempt.stopped]
  refine ⟨⟨?_, ?_⟩, (grown.keyed.putAll goal _).filter _ _, by simp⟩
  · exact fun rest => file?_eq_none_of_vacant (tree.vacant_append vacant rest)
  · intro q
    unfold file?
    rw [entry?_emptied]
    by_cases atGoal : b <+: q
    · obtain ⟨rest, rfl⟩ := atGoal
      have elsewhere : ¬(a <+: b ++ rest ∧ b ++ rest ≠ a) := by
        rintro ⟨above, -⟩
        exact (List.prefix_or_prefix_of_prefix above (List.prefix_append b rest)).elim outside
          beyond
      rw [if_neg elsewhere, if_pos (List.prefix_append b rest), List.drop_left,
        entry?_putAll _ goal (grown.nodup_below a), entry?_put d goal]
      by_cases whole : rest = []
      · subst whole
        simp [grown.lookup_below_nil, folder]
      · have other : a ++ rest ≠ b := by
          rintro rfl
          exact outside (List.prefix_append a rest)
        rw [grown.lookup_below a whole, entry?_put d goal, if_neg other,
          if_neg (by simpa using whole), tree.vacant_append vacant, Option.or_none]
    · have other : q ≠ b := by
        rintro rfl
        exact atGoal List.prefix_rfl
      rw [if_neg atGoal, entry?_putAll_off _ atGoal, entry?_put d goal, if_neg other]
      by_cases along : a <+: q
      · rw [if_pos along]
        by_cases same : q = a
        · subst same
          simp [folder, Entry.content?]
        · simp [along, same]
      · rw [if_neg along, if_neg fun inner => along inner.1]

private theorem moving_copyFolderAway {p : Path} (parent : d.isFolder p.parent = true)
    (vacant : d.find? p = none) (folder : d.isFolder source = true) {cause : Cause}
    (refused : d.rename source p = .error cause)
    (outside : d.nominal p ≠ d.nominal source → ¬d.nominal source <+: d.nominal p) :
    Moving d source destination (d.copyFolderAway source p) := by
  obtain ⟨a, led, stands⟩ := isFolder_iff.mp folder
  cases arrived : d.reach p with
  | error cause =>
    refine .unmoved ?_
    have made := makeFolders_of_refused arrived (reach_error_in_folder parent arrived)
    simp only [copyFolderAway, led, Attempt.next]
    cases (d.makeFolders p).fault with
    | some fault => exact made
    | none => simp only [made, arrived, Attempt.stopped]
  | ok b =>
    have free : d.entry? b = none := by simpa [find?, arrived] using vacant
    have apart : b ≠ a := by
      rintro rfl
      rw [free] at stands
      cases stands
    rw [← reach_eq_nominal led, ← reach_eq_nominal arrived] at outside
    have named : innerPath? source source = none := by
      by_contra some
      have renamed := tree.rename_vacant led stands arrived free (outside apart)
        (Option.isSome_iff_ne_none.mpr some)
      rw [renamed] at refused
      cases refused
    obtain ⟨shifted, keyed, stopped⟩ :=
      tree.shifted_copyFolder stands arrived free (outside apart) named
    have made : d.makeFolder p = .ok (d.put b .folder) := by simp [makeFolder, arrived, free]
    have led' := (makeFolder_grows made).reach arrived
    have copied : d.copyFolderAway source p =
        ((d.put b .folder).putAll b ((d.put b .folder).below a)).removeFolderAt a source := by
      simp only [copyFolderAway, led, makeFolders_of_vacant arrived free, Attempt.done,
        Attempt.next, led']
    rw [copied]
    exact .torn led shifted keyed stopped

/-- A move to a path at which no folder stands. The destination that was asked for is the path
    itself or the folder above it. -/
theorem moving_moveOnto {p named : Path} (parent : d.isFolder p.parent = true)
    (noFolder : d.isFolder p = false) (noFile : ¬d.Replaces source p)
    (way : d.nominal p = d.nominal named ∨ ∃ c, d.nominal p = d.nominal named ++ [c]) :
    Moving d source destination (d.moveOnto source p named) := by
  unfold moveOnto
  split
  case h_1 d' renamed => exact tree.moving_rename renamed noFolder noFile
  · exact .unmoved rfl
  case h_3 cause _ renamed =>
    split_ifs with folder into taken
    · exact .unmoved rfl
    · exact .unmoved rfl
    · refine tree.moving_copyFolderAway parent (by simpa using taken) folder renamed ?_
      rw [List.isPrefixOf_iff_prefix] at into
      intro apart below
      rcases way with same | ⟨c, same⟩
      · exact into (same ▸ below)
      · rw [same] at below apart
        exact (List.prefix_concat_iff.mp below).elim (fun whole => apart whole.symm) into
    · obtain ⟨fault, stopped⟩ := tree.copyOnto_of_rename_error renamed
      exact .unmoved (by simp [stopped, Attempt.stopped, Attempt.next])

/-- A move to a path in a folder that replaces no file. -/
theorem moving_move (parent : d.isFolder destination.parent = true)
    (noFile : ¬d.Replaces source destination) :
    Moving d source destination (d.move source destination) := by
  unfold move
  by_cases folder : d.isFolder destination = true
  · rw [if_pos folder]
    by_cases same : d.samePlace source destination = true
    · rw [if_pos same]
      cases renamed : d.rename source destination with
      | error cause => exact .unmoved rfl
      | ok d' =>
        obtain ⟨a, b, entry, led, arrived, stands, ⟨-, rfl⟩ | ⟨apart, -⟩⟩ :=
          rename_relocates renamed
        · exact .unmoved rfl
        · simp [samePlace, led, arrived, apart] at same
    · rw [if_neg same]
      cases landed : innerPath? source destination with
      | none => exact .unmoved rfl
      | some inner =>
        by_cases taken : (d.find? inner).isSome = true
        · simp only [if_pos taken]
          exact .unmoved rfl
        · simp only [if_neg taken]
          have vacant : d.find? inner = none := by simpa using taken
          obtain ⟨c, up, rfl⟩ := innerPath?_eq_some landed
          have down := @nominal_descend_direct d destination [c] (by simpa using up)
          have above : d.isFolder (destination.descend [c]).parent = true := by
            simpa [Path.descend, Path.parent] using folder
          refine tree.moving_moveOnto above (by simp [isFolder, vacant]) ?_ (.inr ⟨c, down⟩)
          rintro ⟨a, b, content, content', -, -, arrived, file, -⟩
          simp [find?, arrived, file] at vacant
  · rw [if_neg folder]
    exact tree.moving_moveOnto parent (by simpa using folder) noFile (.inl rfl)

end WellFormed

end Disk

end MusicFiling
