import MusicFiling.Disk.Transfer
import MusicFiling.Journal
import MusicFiling.Proofs.Disk.Opening

/-!
# Files delivered by copying and moving

A transfer of a file either stops and leaves the disk alone, or delivers the file: its content
stands at the place of arrival and, after a move, nothing stands at the place it came from.
-/

namespace MusicFiling

namespace Disk

/-- A file was copied or moved from one place to another. -/
structure Delivery (d : Disk) (action : Action) (source destination : Path) (origin goal : Place)
    (content : List UInt8) (d' : Disk) : Prop where
  led : d.reach source = .ok origin
  present : d.entry? origin = some (.file content)
  arrival : ∃ p, d.landing source destination = some p ∧ d.reach p = .ok goal
  free : d.entry? goal ≠ some .folder
  apart : goal ≠ origin
  after : d' = match action with
    | .copy => d.put goal (.file content)
    | .move => d.relocate origin goal (.file content)

namespace Delivery

variable {d d' : Disk} {action : Action} {source destination : Path} {origin goal : Place}
  {content : List UInt8} (delivery : d.Delivery action source destination origin goal content d')
include delivery

theorem origin_eq : origin = d.nominal source :=
  reach_eq_nominal delivery.led

theorem workingFolder : d'.workingFolder = d.workingFolder := by
  rw [delivery.after]
  cases action with
  | copy => rfl
  | move => simp [workingFolder_relocate, Entry.isFolder]

/-- What stands where after a delivery. -/
theorem entry? (tree : d.WellFormed) (q : Place) :
    d'.entry? q =
      if q = goal then some (.file content)
      else if action = .move ∧ q = origin then none
      else d.entry? q := by
  have nonempty := ne_nil_of_ne_folder delivery.free
  rw [delivery.after]
  cases action with
  | copy => simp [entry?_put d nonempty]
  | move =>
    simp only [tree.relocate_file delivery.present, entry?_put _ nonempty,
      tree.entry?_clear_file delivery.present, true_and]

theorem wellFormed (tree : d.WellFormed) : d'.WellFormed := by
  obtain ⟨p, -, led⟩ := delivery.arrival
  obtain ⟨init, c, parent, -, proper, folder, rfl⟩ := tree.reach_ne_folder led delivery.free
  rw [delivery.after]
  cases action with
  | copy => exact tree.put folder proper delivery.free _
  | move =>
    rw [tree.relocate_file delivery.present]
    refine (tree.clear_file delivery.present).put ?_ proper ?_ _
    · rw [tree.entry?_clear_file delivery.present, if_neg ?_]
      · exact folder
      · rintro rfl
        simp [delivery.present] at folder
    · rw [tree.entry?_clear_file delivery.present, if_neg delivery.apart]
      exact delivery.free

theorem folder (tree : d.WellFormed) {q : Place} (folder : d.entry? q = some .folder) :
    d'.entry? q = some .folder := by
  have notGoal : q ≠ goal := by
    rintro rfl
    exact delivery.free folder
  have notOrigin : q ≠ origin := by
    rintro rfl
    simp [delivery.present] at folder
  rw [delivery.entry? tree, if_neg notGoal, if_neg (fun moved => notOrigin moved.2), folder]

/-- Folders are neither created nor removed. -/
theorem folder_iff (tree : d.WellFormed) {q : Place} :
    d'.entry? q = some .folder ↔ d.entry? q = some .folder := by
  refine ⟨?_, delivery.folder tree⟩
  intro folder
  rw [delivery.entry? tree] at folder
  split_ifs at folder
  · simp at folder
  · exact folder

theorem file? (tree : d.WellFormed) (q : Place) :
    d'.file? q =
      if q = goal then some content
      else if action = .move ∧ q = origin then none
      else d.file? q := by
  unfold Disk.file?
  rw [delivery.entry? tree]
  split_ifs <;> rfl

end Delivery

/-- A copy that stops leaves the disk alone; one that does not delivers the file. -/
theorem copyOnto_cases (d : Disk) (source destination : Path) :
    (∃ fault, d.copyOnto source destination = .stopped d fault) ∨
      ∃ origin goal content, d.reach source = .ok origin ∧
        d.entry? origin = some (.file content) ∧ d.reach destination = .ok goal ∧
        d.entry? goal ≠ some .folder ∧ goal ≠ origin ∧
        d.copyOnto source destination = .done (d.put goal (.file content)) := by
  unfold copyOnto
  cases readable : d.openForReading source with
  | error fault => exact .inl ⟨fault, rfl⟩
  | ok file =>
    obtain ⟨origin, content⟩ := file
    cases writable : d.openForWriting destination with
    | error fault => exact .inl ⟨fault, rfl⟩
    | ok goal =>
      obtain ⟨led, present⟩ := openForReading_ok.mp readable
      obtain ⟨arrived, free⟩ := openForWriting_ok.mp writable
      by_cases same : goal = origin
      · exact .inl ⟨.sameFile source destination, by simp [same]⟩
      · exact .inr ⟨origin, goal, content, led, present, arrived, free, same, by simp [same]⟩

theorem copy_cases (d : Disk) (source destination : Path) :
    (∃ fault, d.copy source destination = .stopped d fault) ∨
      ∃ origin goal content d', d.copy source destination = .done d' ∧
        d.Delivery .copy source destination origin goal content d' := by
  unfold copy
  cases landed : d.landing source destination with
  | none => exact .inl ⟨_, rfl⟩
  | some p =>
    rcases d.copyOnto_cases source p with stopped | ⟨origin, goal, content, led, present, arrived,
      free, apart, done⟩
    · exact .inl stopped
    · exact .inr ⟨origin, goal, content, _, done, led, present, ⟨p, landed, arrived⟩, free, apart,
        rfl⟩

/-- A file can be copied to where nothing stands. -/
theorem copy_vacant {d : Disk} {source destination : Path} {origin goal : Place}
    {content : List UInt8} (led : d.reach source = .ok origin)
    (present : d.entry? origin = some (.file content)) (arrived : d.reach destination = .ok goal)
    (vacant : d.entry? goal = none) : ∃ d', d.copy source destination = .done d' := by
  have landed : d.landing source destination = some destination := by
    simp [landing, isFolder, find?, arrived, vacant]
  have readable : d.openForReading source = .ok (origin, content) :=
    openForReading_ok.mpr ⟨led, present⟩
  have writable : d.openForWriting destination = .ok goal :=
    openForWriting_ok.mpr ⟨arrived, by simp [vacant]⟩
  have apart : goal ≠ origin := by
    rintro rfl
    simp [present] at vacant
  exact ⟨_, by simp only [copy, landed, copyOnto, readable, writable, if_neg apart]; rfl⟩

private theorem innerPath?_of_proper {p : Path} {init : List Component} {c : Component}
    (parts : p.parts = init ++ [c]) (proper : c.isParent = false) (folder : Path) :
    innerPath? p folder = some (folder.child c) := by
  simp [innerPath?, parts, proper]

theorem innerPath?_eq_some {source folder inner : Path}
    (landed : innerPath? source folder = some inner) :
    ∃ c, c.isParent = false ∧ inner = folder.descend [c] := by
  unfold innerPath? at landed
  split at landed
  case h_1 c last =>
    split_ifs at landed with up
    exact ⟨c, by simpa using up, (Option.some.inj landed).symm⟩
  · cases landed

theorem isFolder_of_reach {d : Disk} {p : Path} {place : Place} (led : d.reach p = .ok place) :
    d.isFolder p = true ↔ d.entry? place = some .folder := by
  rw [isFolder_iff]
  constructor
  · rintro ⟨q, led', folder⟩
    obtain rfl : place = q := by simpa [led] using led'
    exact folder
  · intro folder
    exact ⟨place, led, folder⟩

namespace WellFormed

variable {d : Disk} (tree : d.WellFormed)
include tree

theorem innerPath?_isSome {p : Path} {place : Place} (led : d.reach p = .ok place)
    (other : d.entry? place ≠ some .folder) (folder : Path) : (innerPath? p folder).isSome := by
  obtain ⟨init, c, -, parts, proper, -, -⟩ := tree.reach_ne_folder led other
  simp [innerPath?_of_proper parts proper]

theorem not_below_file {p : Path} {origin goal : Place} {content : List UInt8}
    (present : d.entry? origin = some (.file content)) (led : d.reach p = .ok goal)
    (free : d.entry? goal ≠ some .folder) (apart : goal ≠ origin) : ¬origin <+: goal := by
  obtain ⟨init, c, parent, -, -, folder, rfl⟩ := tree.reach_ne_folder led free
  intro below
  rcases List.prefix_concat_iff.mp below with same | above
  · exact apart same.symm
  · have same := tree.eq_of_prefix_of_file present above (by simp [folder])
    rw [same, present] at folder
    cases folder

/-- A file can be renamed to wherever no folder stands. -/
theorem rename_file {source destination : Path} {origin goal : Place} {content : List UInt8}
    (led : d.reach source = .ok origin) (present : d.entry? origin = some (.file content))
    (arrived : d.reach destination = .ok goal) (free : d.entry? goal ≠ some .folder)
    (apart : goal ≠ origin) :
    d.rename source destination = .ok (d.relocate origin goal (.file content)) := by
  have named : (innerPath? source source).isNone = false :=
    Option.isNone_eq_false_iff.mpr (tree.innerPath?_isSome led (by simp [present]) source)
  have named' : (innerPath? destination destination).isNone = false :=
    Option.isNone_eq_false_iff.mpr (tree.innerPath?_isSome arrived free destination)
  have outside : origin.isPrefixOf goal = false := by
    rw [← Bool.not_eq_true, List.isPrefixOf_iff_prefix]
    exact tree.not_below_file present arrived free apart
  unfold rename
  simp only [led, arrived, named, named', present, Ne.symm apart, outside, Bool.false_eq_true,
    or_self, if_false]
  rcases d.entry?_cases goal with vacant | folder | ⟨old, file⟩
  · simp [vacant]
  · exact absurd folder free
  · simp [file]

/-- A file that cannot be renamed cannot be copied either. -/
theorem copyOnto_of_rename_error {source destination : Path} {cause : Cause}
    (refused : d.rename source destination = .error cause) :
    ∃ fault, d.copyOnto source destination = .stopped d fault := by
  rcases d.copyOnto_cases source destination with stopped | ⟨origin, goal, content, led,
    present, arrived, free, different, -⟩
  · exact stopped
  · simp [tree.rename_file led present arrived free different] at refused

end WellFormed

/-- What a rename does: nothing, or an entry goes to another place. -/
theorem rename_relocates {d d' : Disk} {source destination : Path}
    (renamed : d.rename source destination = .ok d') :
    ∃ a b entry, d.reach source = .ok a ∧ d.reach destination = .ok b ∧
      d.entry? a = some entry ∧
      (a = b ∧ d' = d ∨ a ≠ b ∧ ¬a <+: b ∧ d' = d.relocate a b entry ∧
        (d.entry? b = none ∨ entry = .folder ∧ d.entry? b = some .folder ∨
          ∃ content content', entry = .file content ∧ d.entry? b = some (.file content'))) := by
  unfold rename at renamed
  split at renamed
  · cases renamed
  · cases renamed
  case h_3 a b led led' =>
    split at renamed
    · cases renamed
    · split at renamed
      · cases renamed
      case h_2 entry stands =>
        refine ⟨a, b, entry, led, led', stands, ?_⟩
        split at renamed
        case isTrue same => exact .inl ⟨same, (Except.ok.inj renamed).symm⟩
        case isFalse apart =>
          split at renamed
          · cases renamed
          case isFalse outside =>
            rw [List.isPrefixOf_iff_prefix] at outside
            refine .inr ⟨apart, outside, ?_⟩
            rcases d.entry?_cases b with vacant | folder | ⟨content', file⟩
            · simp only [vacant] at renamed
              exact ⟨(Except.ok.inj renamed).symm, .inl vacant⟩
            · cases entry with
              | file content => simp [folder] at renamed
              | folder =>
                simp only [folder] at renamed
                split_ifs at renamed
                exact ⟨(Except.ok.inj renamed).symm, .inr (.inl ⟨rfl, folder⟩)⟩
            · cases entry with
              | folder => simp [file] at renamed
              | file content =>
                simp only [file] at renamed
                exact ⟨(Except.ok.inj renamed).symm, .inr (.inr ⟨content, content', rfl, file⟩)⟩

/-- A rename of something that is no folder moves a file to where no folder stands. -/
theorem rename_ok {d d' : Disk} {source destination : Path}
    (renamed : d.rename source destination = .ok d') (noFolder : d.isFolder source = false) :
    ∃ origin goal content, d.reach source = .ok origin ∧
      d.entry? origin = some (.file content) ∧ d.reach destination = .ok goal ∧
      (origin = goal ∨ d.entry? goal ≠ some .folder ∧ goal ≠ origin ∧
        d' = d.relocate origin goal (.file content)) := by
  obtain ⟨origin, goal, entry, led, arrived, stands, settled⟩ := rename_relocates renamed
  cases entry with
  | folder => simp [(isFolder_of_reach led).mpr stands] at noFolder
  | file content =>
    refine ⟨origin, goal, content, led, stands, arrived, settled.imp And.left ?_⟩
    rintro ⟨apart, -, rfl, vacant | ⟨folder, -⟩ | ⟨_, old, -, file⟩⟩
    · exact ⟨by simp [vacant], Ne.symm apart, rfl⟩
    · cases folder
    · exact ⟨by simp [file], Ne.symm apart, rfl⟩

/-- Two paths that do not lead to one file. -/
def Apart (d : Disk) (p q : Path) : Prop :=
  ∀ place content, d.reach p = .ok place → d.entry? place = some (.file content) →
    d.reach q ≠ .ok place

private theorem WellFormed.moveOnto_cases {d : Disk} (tree : d.WellFormed)
    {source destination : Path}
    (noFolder : d.isFolder source = false) (apart : d.Apart source destination) (named : Path) :
    (∃ fault, d.moveOnto source destination named = .stopped d fault) ∨
      ∃ origin goal content, d.reach source = .ok origin ∧
        d.entry? origin = some (.file content) ∧ d.reach destination = .ok goal ∧
        d.entry? goal ≠ some .folder ∧ goal ≠ origin ∧
        d.moveOnto source destination named = .done (d.relocate origin goal (.file content)) := by
  unfold moveOnto
  cases renamed : d.rename source destination with
  | ok d' =>
    obtain ⟨origin, goal, content, led, present, arrived, same | ⟨free, different, rfl⟩⟩ :=
      rename_ok renamed noFolder
    · exact absurd (same ▸ arrived) (apart origin content led present)
    · exact .inr ⟨origin, goal, content, led, present, arrived, free, different, rfl⟩
  | error cause =>
    obtain ⟨fault, stopped⟩ := tree.copyOnto_of_rename_error renamed
    left
    cases cause <;> simp [noFolder, stopped, Attempt.stopped, Attempt.next]

/-- A move of a file that stops leaves the disk alone; one that does not delivers the file. -/
theorem WellFormed.move_cases {d : Disk} (tree : d.WellFormed) {source destination : Path}
    (noFolder : d.isFolder source = false) (apart : d.Apart source destination) :
    (∃ fault, d.move source destination = .stopped d fault) ∨
      ∃ origin goal content d', d.move source destination = .done d' ∧
        d.Delivery .move source destination origin goal content d' := by
  have delivered : ∀ p, d.landing source destination = some p → d.Apart source p →
      d.move source destination = d.moveOnto source p destination →
      (∃ fault, d.move source destination = .stopped d fault) ∨
        ∃ origin goal content d', d.move source destination = .done d' ∧
          d.Delivery .move source destination origin goal content d' := by
    intro p landed apart same
    rcases tree.moveOnto_cases noFolder apart destination with stopped | ⟨origin, goal, content,
      led, present, arrived, free, different, done⟩
    · exact .inl (same ▸ stopped)
    · exact .inr ⟨origin, goal, content, _, same ▸ done, led, present, ⟨p, landed, arrived⟩, free,
        different, rfl⟩
  by_cases folder : d.isFolder destination = true
  · have notSame : d.samePlace source destination = false := by
      obtain ⟨place, led, stands⟩ := isFolder_iff.mp folder
      unfold samePlace
      cases led' : d.reach source with
      | error cause => simp
      | ok origin =>
        simp only [led, decide_eq_false_iff_not]
        rintro rfl
        simp [(isFolder_of_reach led').mpr stands] at noFolder
    cases inside : innerPath? source destination with
    | none => exact .inl ⟨.occupied (innerText source destination), by simp [move, *]⟩
    | some inner =>
      by_cases taken : (d.find? inner).isSome = true
      · exact .inl ⟨.occupied inner.text, by simp [move, *]⟩
      · have landed : d.landing source destination = some inner := by simp [landing, folder, inside]
        refine delivered inner landed ?_ (by simp [move, *])
        intro place content _ present led
        exact taken (by simp [find?, led, present])
  · have landed : d.landing source destination = some destination := by simp [landing, folder]
    exact delivered destination landed apart (by simp [move, folder])

/-- A file can be moved to wherever no folder stands. -/
theorem WellFormed.move_file {d : Disk} (tree : d.WellFormed) {source destination : Path}
    {origin goal : Place} {content : List UInt8} (led : d.reach source = .ok origin)
    (present : d.entry? origin = some (.file content)) (arrived : d.reach destination = .ok goal)
    (free : d.entry? goal ≠ some .folder) (apart : goal ≠ origin) :
    ∃ d', d.move source destination = .done d' ∧
      d.Delivery .move source destination origin goal content d' := by
  have noFolder : ¬d.isFolder destination = true := by
    rw [isFolder_of_reach arrived]
    exact free
  have renamed := tree.rename_file led present arrived free apart
  refine ⟨_, ?_, led, present, ⟨destination, ?_, arrived⟩, free, apart, rfl⟩
  · simp [move, noFolder, moveOnto, renamed]
  · simp [landing, noFolder]

theorem WellFormed.move_vacant {d : Disk} (tree : d.WellFormed) {source destination : Path}
    {origin goal : Place} {content : List UInt8} (led : d.reach source = .ok origin)
    (present : d.entry? origin = some (.file content)) (arrived : d.reach destination = .ok goal)
    (vacant : d.entry? goal = none) :
    ∃ d', d.move source destination = .done d' ∧
      d.Delivery .move source destination origin goal content d' := by
  refine tree.move_file led present arrived (by simp [vacant]) ?_
  rintro rfl
  simp [present] at vacant

theorem unlink_file {d : Disk} {p : Path} {place : Place} {content : List UInt8}
    (led : d.reach p = .ok place) (present : d.entry? place = some (.file content)) :
    d.unlink p = .done (d.clear place) := by
  simp [unlink, openForReading_ok.mpr ⟨led, present⟩]

end Disk

end MusicFiling
