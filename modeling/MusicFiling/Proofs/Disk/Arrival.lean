import MusicFiling.Proofs.Disk.Delivery

/-!
# Where transfers arrive

A destination is found vacant before the folders above it are created, and creating them may change
what its two dots lead to. It stays vacant where every two dots follow a folder that exists.
-/

namespace MusicFiling

namespace Disk

/-- Once the folders of its destination exist, a transfer arrives where nothing stands: a copy in
    the folder of that name, if there is one, a move at the destination itself. -/
def ArrivesFree (d : Disk) (action : Action) (source destination : Path) : Prop :=
  let made := (d.makeFolders destination.parent).disk
  match action with
  | .copy => ∀ p, made.landing source destination = some p → made.find? p = none
  | .move => made.find? destination = none

/-- Once the folders of its destination exist, a transfer arrives at a place. -/
def ArrivesAt (d : Disk) (source destination : Path) (goal : Place) : Prop :=
  let made := (d.makeFolders destination.parent).disk
  ∃ p, made.landing source destination = some p ∧ made.reach p = .ok goal

private theorem landing_of_vacant {d : Disk} {destination : Path}
    (vacant : d.find? destination = none)
    (source : Path) : d.landing source destination = some destination := by
  simp [landing, isFolder, vacant]

theorem arrivesFree_of_vacant {d : Disk} {destination : Path}
    (vacant : (d.makeFolders destination.parent).disk.find? destination = none) (action : Action)
    (source : Path) : d.ArrivesFree action source destination := by
  cases action with
  | copy =>
    intro p landed
    rw [landing_of_vacant vacant] at landed
    exact Option.some.inj landed ▸ vacant
  | move => exact vacant

/-- A delivery to a vacant destination arrives at the place that the destination names. -/
theorem Delivery.goal_eq {d d' : Disk} {action : Action} {source destination : Path}
    {origin goal : Place} {content : List UInt8}
    (delivery : d.Delivery action source destination origin goal content d')
    (vacant : d.find? destination = none) :
    d.reach destination = .ok goal ∧ goal = d.nominal destination ∧ d.entry? goal = none := by
  obtain ⟨p, landed, led⟩ := delivery.arrival
  rw [landing_of_vacant vacant] at landed
  obtain rfl := Option.some.inj landed
  refine ⟨led, reach_eq_nominal led, ?_⟩
  simpa [find?, led] using vacant

/-- All two dots of a path follow a folder that exists. -/
def Grounded (d : Disk) (p : Path) : Prop :=
  ∀ init c rest, p.parts = init ++ c :: rest → c.isParent = true →
    d.isFolder ⟨p.anchor, init⟩ = true

theorem grounded_of_direct (d : Disk) {p : Path} (direct : p.Direct) : d.Grounded p := by
  intro init c rest parts up
  have proper := direct c (by simp [parts])
  simp [up] at proper

theorem Grounded.mono {d d' : Disk} {p : Path} (grounded : d.Grounded p)
    (working : d'.workingFolder = d.workingFolder)
    (kept : ∀ q, d.entry? q = some .folder → d'.entry? q = some .folder) : d'.Grounded p := by
  intro init c rest parts up
  obtain ⟨q, led, folder⟩ := isFolder_iff.mp (grounded init c rest parts up)
  exact isFolder_iff.mpr ⟨q, reach_mono working kept led, kept q folder⟩

/-- Components split behind their last two dots. -/
theorem exists_split_direct (cs : List Component) :
    ∃ up rest, cs = up ++ rest ∧ (∀ c ∈ rest, c.isParent = false) ∧
      (up = [] ∨ ∃ init c, up = init ++ [c] ∧ c.isParent = true) := by
  induction cs using List.reverseRecOn with
  | nil => exact ⟨[], [], rfl, by simp, .inl rfl⟩
  | append_singleton init c ih =>
    cases dots : c.isParent with
    | true => exact ⟨init ++ [c], [], by simp, by simp, .inr ⟨init, c, rfl, dots⟩⟩
    | false =>
      obtain ⟨up, rest, rfl, proper, last⟩ := ih
      refine ⟨up, rest ++ [c], by simp, ?_, last⟩
      intro c' member
      rcases List.mem_append.mp member with inRest | same
      · exact proper c' inRest
      · obtain rfl : c' = c := by simpa using same
        exact dots

/-- Components that can be followed lead through folders. -/
theorem follow_prefix_folder {d : Disk} {place q : Place} {before after : List Component}
    (led : d.follow place (before ++ after) = .ok q) (folder : d.entry? q = some .folder) :
    ∃ middle, d.follow place before = .ok middle ∧ d.entry? middle = some .folder := by
  obtain ⟨middle, first, second⟩ := follow_append_ok.mp led
  refine ⟨middle, first, ?_⟩
  cases after with
  | nil =>
    obtain rfl : middle = q := by simpa [follow] using second
    exact folder
  | cons c rest =>
    have split : c :: rest = [c] ++ rest := rfl
    rw [split] at second
    obtain ⟨next, here, -⟩ := follow_append_ok.mp second
    exact (follow_single.mp here).1

/-- The part of a grounded path up to its last two dots leads to a folder. -/
theorem Grounded.follow_up {d : Disk} (tree : d.WellFormed) {p : Path} (grounded : d.Grounded p)
    {up rest : List Component} (parts : p.parts = up ++ rest)
    (last : up = [] ∨ ∃ init c, up = init ++ [c] ∧ c.isParent = true) :
    ∃ place, d.follow (d.startOf p) up = .ok place ∧ d.entry? place = some .folder := by
  rcases last with rfl | ⟨init, c, rfl, dots⟩
  · exact ⟨d.startOf p, rfl, tree.startOf p⟩
  · obtain ⟨place, led, folder⟩ := isFolder_iff.mp (grounded init c rest (by simp [parts]) dots)
    obtain ⟨-, -, followed⟩ := reach_ok_iff.mp led
    refine ⟨place.dropLast, follow_append_ok.mpr ⟨place, followed, ?_⟩, ?_⟩
    · exact follow_single.mpr ⟨folder, .inl ⟨dots, rfl⟩⟩
    · exact tree.entry?_dropLast (by simp [folder])

/-- A path whose first components lead to a folder that exists, and whose others go down from it. -/
structure Based (d : Disk) (p : Path) (up rest : List Component) (base : Place) : Prop where
  parts : p.parts = up ++ rest
  nonempty : rest ≠ []
  direct : ∀ c ∈ rest, c.isParent = false
  led : d.follow (d.startOf p) up = .ok base
  folder : d.entry? base = some .folder

private theorem Grounded.based {d : Disk} (tree : d.WellFormed) {target : Path}
    (grounded : d.Grounded target) {cs : List Component} (proper : ∀ c ∈ cs, c.isParent = false)
    (nonempty : cs ≠ []) : ∃ up rest base, d.Based (target.descend cs) up rest base := by
  obtain ⟨up, rest, parts, direct, last⟩ := exists_split_direct target.parts
  obtain ⟨base, led, folder⟩ := grounded.follow_up tree parts last
  refine ⟨up, rest ++ cs, base, by simp [Path.descend, parts], by simp [nonempty], ?_, led, folder⟩
  intro c member
  rcases List.mem_append.mp member with above | below
  · exact direct c above
  · exact proper c below

namespace Based

variable {d : Disk} {p : Path} {up rest : List Component} {base : Place}
  (based : d.Based p up rest base)
include based

private theorem nominal_eq : d.nominal p = base ++ rest := by
  rw [nominal, based.parts, spell_append, ← follow_eq_spell based.led, spell_direct based.direct]

/-- Had something stood at its place, the path would have led to it. -/
theorem vacant (tree : d.WellFormed) (usable : p.Usable) (asked : d.at? p = .ok none) :
    d.entry? (base ++ rest) = none := by
  by_contra present
  have names : ∀ c ∈ rest, Text.size c.text ≤ nameLimit := by
    intro c member
    refine usable.names c ?_
    rw [based.parts]
    exact List.mem_append_right up member
  have above : d.entry? (base ++ rest.dropLast) = some .folder := by
    rw [← List.dropLast_append_of_ne_nil based.nonempty]
    exact tree.entry?_dropLast present
  have followed : d.follow (d.startOf p) (up ++ rest) = .ok (base ++ rest) :=
    follow_append_ok.mpr ⟨base, based.led, tree.follow_direct based.direct names above⟩
  rw [← based.parts, ← reach_of_usable d usable] at followed
  simp [at?, followed] at asked
  exact present asked

/-- The folders above a path stand elsewhere: up to the base all of them exist, and below it their
    places are shorter. -/
theorem not_above (vacant : d.entry? (base ++ rest) = none) : ¬d.AboveFile p (base ++ rest) := by
  rintro ⟨k, least, same⟩
  have bound : k ≤ (up ++ rest).length - 1 := by simpa [Path.parent, based.parts] using least
  have cut : (p.parent.upTo k).parts = (up ++ rest).take k := by
    simp only [Path.upTo, Path.parent, based.parts, List.dropLast_eq_take, List.take_take]
    rw [Nat.min_eq_left bound]
  have named : d.nominal (p.parent.upTo k) = spell (d.startOf p) ((up ++ rest).take k) := by
    rw [nominal, cut]
    rfl
  rcases Nat.le_total k up.length with inUp | pastUp
  · rw [List.take_append_of_le_length inUp] at named
    have split : up.take k ++ up.drop k = up := List.take_append_drop k up
    obtain ⟨middle, reached, stands⟩ :=
      follow_prefix_folder (split.symm ▸ based.led) based.folder
    rw [same, named, ← follow_eq_spell reached, stands] at vacant
    cases vacant
  · obtain ⟨n, rfl⟩ := Nat.exists_eq_add_of_le pastUp
    rw [List.take_length_add_append, spell_append, ← follow_eq_spell based.led,
      spell_direct fun c member => based.direct c (List.mem_of_mem_take member)] at named
    have lengths := congrArg List.length (same.trans named)
    have positive : 0 < rest.length := List.length_pos_iff.mpr based.nonempty
    simp only [List.length_append, List.length_take] at lengths bound
    omega

end Based

/-- Below a grounded path, a destination that was vacant stays so when its folders are made. -/
theorem Grounded.find?_makeFolders {d : Disk} (tree : d.WellFormed) {target : Path}
    (grounded : d.Grounded target) {cs : List Component} (proper : ∀ c ∈ cs, c.isParent = false)
    (nonempty : cs ≠ []) (asked : d.at? (target.descend cs) = .ok none) :
    (d.makeFolders (target.descend cs).parent).disk.find? (target.descend cs) = none := by
  obtain ⟨up, rest, base, based⟩ := grounded.based tree proper nonempty
  have grown := aboveFile_grows d (target.descend cs)
  unfold find?
  cases arrived : (d.makeFolders (target.descend cs).parent).disk.reach (target.descend cs) with
  | error cause => rfl
  | ok q =>
    obtain rfl : q = base ++ rest := by
      rw [reach_eq_nominal arrived, grown.nominal, based.nominal_eq]
    have vacant := based.vacant tree (usable_of_reach arrived) asked
    exact grown.vacant vacant (based.not_above vacant) id

/-- Where nothing stands at a grounded path, nothing stands there once its folders are made. -/
theorem Grounded.find?_of_vacant {d : Disk} (tree : d.WellFormed) {p : Path}
    (grounded : d.Grounded p) (asked : d.at? p = .ok none) :
    (d.makeFolders p.parent).disk.find? p = none := by
  obtain ⟨anchor, parts⟩ := p
  rcases List.eq_nil_or_concat' parts with rfl | ⟨init, c, rfl⟩
  · -- Without a component the path leads to the folder it starts from.
    have start := tree.startOf ⟨anchor, []⟩
    unfold at? reach at asked
    split_ifs at asked with null tooLong
    · simp [find?, reach, null]
    · simp [follow, start] at asked
  · have above : d.Grounded ⟨anchor, init⟩ := by
      intro before c' rest parts up
      exact grounded before c' (rest ++ [c]) (by simp [show init = _ from parts]) up
    cases dots : c.isParent with
    | false =>
      have proper : ∀ c' ∈ [c], c'.isParent = false := by simpa using dots
      exact above.find?_makeFolders tree proper (by simp) asked
    | true =>
      obtain ⟨place, led, folder⟩ := isFolder_iff.mp (grounded init c [] rfl dots)
      obtain ⟨-, -, followed⟩ := reach_ok_iff.mp led
      have start : d.startOf ⟨anchor, init⟩ = d.startOf ⟨anchor, init ++ [c]⟩ := rfl
      have whole : d.follow (d.startOf ⟨anchor, init ++ [c]⟩) (init ++ [c]) =
          .ok place.dropLast :=
        follow_append_ok.mpr ⟨place, start ▸ followed, follow_single.mpr ⟨folder, .inl ⟨dots, rfl⟩⟩⟩
      have stands : d.entry? place.dropLast = some .folder :=
        tree.entry?_dropLast (by simp [folder])
      unfold at? reach at asked
      split_ifs at asked with null tooLong
      · simp [find?, reach, null]
      · simp [whole, stands] at asked

end Disk

end MusicFiling
