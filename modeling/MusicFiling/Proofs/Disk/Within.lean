import MusicFiling.Proofs.Disk.Delivery

/-!
# How far a move reaches

Moving an entry, whatever it is and whether or not the move succeeds, touches nothing that stands
elsewhere than at or below its source and its destination, though folders may be new.
-/

namespace MusicFiling

namespace Disk

/-- A disk on which everything still stands that stood neither at or below one place nor at or below
    another, and the working folder is still the same unless it was at or below the first. -/
structure Within (a b : Place) (d d' : Disk) : Prop where
  working : ¬a <+: d.workingFolder → d'.workingFolder = d.workingFolder
  entries : ∀ q, ¬a <+: q → ¬b <+: q → d.entry? q ≠ none → d'.entry? q = d.entry? q

namespace Within

variable {a b : Place} {d d' d'' : Disk}

theorem refl (a b : Place) (d : Disk) : Within a b d d :=
  ⟨fun _ => rfl, fun _ _ _ _ => rfl⟩

theorem trans (first : Within a b d d') (second : Within a b d' d'') : Within a b d d'' := by
  constructor
  · intro apart
    have same := first.working apart
    exact (second.working (same ▸ apart)).trans same
  intro q offA offB present
  have same := first.entries q offA offB present
  rw [second.entries q offA offB (same ▸ present), same]

theorem mono {b' : Place} (within : Within a b' d d') (below : b <+: b') : Within a b d d' :=
  ⟨within.working, fun q offA offB => within.entries q offA fun inside => offB (below.trans inside)⟩

theorem nominal (within : Within a b d d') (apart : ¬a <+: d.workingFolder) :
    d'.nominal = d.nominal :=
  funext (nominal_congr (within.working apart))

end Within

theorem Grows.within {made : Place → Prop} {d d' : Disk}
    (grown : Grows made (fun _ => False) d d') (a b : Place) : Within a b d d' := by
  refine ⟨fun _ => grown.working, ?_⟩
  intro q _ _ present
  rcases grown.entries q with same | ⟨-, vacant, -⟩ | ⟨written, -⟩
  · exact same
  · exact absurd vacant present
  · exact absurd written id

section

variable {a b place : Place} (inside : a <+: place ∨ b <+: place)
include inside

private theorem off_of_inside {q : Place} (offA : ¬a <+: q) (offB : ¬b <+: q) : ¬place <+: q := by
  intro below
  rcases inside with within | within
  · exact offA (within.trans below)
  · exact offB (within.trans below)

private theorem put_within (d : Disk) (entry : Entry) : Within a b d (d.put place entry) := by
  refine ⟨fun _ => rfl, ?_⟩
  intro q offA offB _
  have off := off_of_inside inside offA offB
  have nonempty : place ≠ [] := by
    rintro rfl
    exact off (List.nil_prefix)
  have other : q ≠ place := by
    rintro rfl
    exact off List.prefix_rfl
  rw [entry?_put d nonempty, if_neg other]

private theorem clear_within (d : Disk) : Within a b d (d.clear place) := by
  refine ⟨fun _ => rfl, ?_⟩
  intro q offA offB _
  have off := off_of_inside inside offA offB
  have nonempty : place ≠ [] := by
    rintro rfl
    exact off (List.nil_prefix)
  rw [entry?_clear d nonempty, if_neg off]

private theorem putAll_within (d : Disk) (entries : List (Place × Entry)) :
    Within a b d (d.putAll place entries) := by
  induction entries generalizing d with
  | nil => exact Within.refl a b d
  | cons e rest ih =>
    have below : a <+: place ++ e.1 ∨ b <+: place ++ e.1 :=
      inside.imp (fun within => within.trans (List.prefix_append _ _))
        fun within => within.trans (List.prefix_append _ _)
    exact (put_within below d e.2).trans (ih _)

private theorem removeFolderAt_within (d : Disk) (path : Path) :
    Within a b d (d.removeFolderAt place path).disk := by
  unfold removeFolderAt
  split
  · exact clear_within inside d
  · refine ⟨fun _ => rfl, ?_⟩
    intro q offA offB _
    have off := off_of_inside inside offA offB
    simp only [Attempt.stopped]
    rw [entry?_emptied, if_neg fun inner => off inner.1]

end

private theorem relocate_within (d : Disk) (source destination : Place) (entry : Entry) :
    Within source destination d (d.relocate source destination entry) := by
  have atSource : source <+: source ∨ destination <+: source := .inl List.prefix_rfl
  have atDestination : source <+: destination ∨ destination <+: destination :=
    .inr List.prefix_rfl
  have entries := (((clear_within atSource d).trans (put_within atDestination _ entry)).trans
    (putAll_within atDestination _ (d.below source))).entries
  refine ⟨?_, entries⟩
  intro apart
  have outside : source.isPrefixOf d.workingFolder = false := by
    rw [← Bool.not_eq_true, List.isPrefixOf_iff_prefix]
    exact apart
  simp [workingFolder_relocate, outside]

theorem unlink_within (d : Disk) (p : Path) {a b : Place}
    (inside : a <+: d.nominal p ∨ b <+: d.nominal p) : Within a b d (d.unlink p).disk := by
  unfold unlink
  split
  · exact Within.refl a b d
  case h_2 place content opened =>
    obtain rfl := reach_eq_nominal (openForReading_ok.mp opened).1
    exact clear_within inside d

theorem nominal_copyOnto (d : Disk) (source destination : Path) :
    (d.copyOnto source destination).disk.nominal = d.nominal := by
  rcases d.copyOnto_cases source destination with ⟨fault, stopped⟩ | ⟨origin, goal, content, -, -,
    -, -, -, done⟩
  · rw [stopped]
    rfl
  · rw [done]
    exact funext (nominal_congr rfl)

private theorem copyOnto_within (d : Disk) (source destination : Path) (a : Place) :
    Within a (d.nominal destination) d (d.copyOnto source destination).disk := by
  rcases d.copyOnto_cases source destination with ⟨fault, stopped⟩ | ⟨origin, goal, content, -, -,
    led, -, -, done⟩
  · rw [stopped]
    exact Within.refl _ _ d
  · rw [done, reach_eq_nominal led]
    exact put_within (.inr List.prefix_rfl) d _

/-- A step after another. -/
theorem next_within {a b : Place} {d : Disk} {attempt : Attempt} {f : Disk → Attempt}
    (first : Within a b d attempt.disk)
    (second : Within a b attempt.disk (f attempt.disk).disk) :
    Within a b d (attempt.next f).disk := by
  unfold Attempt.next
  split
  · exact first.trans second
  · exact first

private theorem rename_within {d d' : Disk} {source destination : Path}
    (renamed : d.rename source destination = .ok d') :
    Within (d.nominal source) (d.nominal destination) d d' := by
  obtain ⟨a, b, entry, led, led', -, ⟨-, rfl⟩ | ⟨-, -, rfl, -⟩⟩ := rename_relocates renamed
  · exact Within.refl _ _ d'
  · rw [← reach_eq_nominal led, ← reach_eq_nominal led']
    exact relocate_within d a b entry

private theorem copyFolderAway_within (d : Disk) (source destination : Path) :
    Within (d.nominal source) (d.nominal destination) d
      (d.copyFolderAway source destination).disk := by
  unfold copyFolderAway
  split
  · exact Within.refl _ _ d
  case h_2 place led =>
    have grown := makeFolders_grows d destination
    refine next_within (grown.within _ _) ?_
    generalize (d.makeFolders destination).disk = middle at grown ⊢
    split
    · exact Within.refl _ _ middle
    case h_2 place' led' =>
      have goal : place' = d.nominal destination :=
        (reach_eq_nominal led').trans (grown.nominal destination)
      have origin : place = d.nominal source := reach_eq_nominal led
      exact (putAll_within (.inr (goal ▸ List.prefix_rfl)) middle _).trans
        (removeFolderAt_within (.inl (origin ▸ List.prefix_rfl)) _ source)

private theorem moveOnto_within (d : Disk) (source destination named : Path) :
    Within (d.nominal source) (d.nominal destination) d
      (d.moveOnto source destination named).disk := by
  unfold moveOnto
  split
  case h_1 d' renamed => exact rename_within renamed
  · exact Within.refl _ _ d
  · split_ifs
    · exact Within.refl _ _ d
    · exact Within.refl _ _ d
    · exact copyFolderAway_within d source destination
    · have copied := copyOnto_within d source destination (d.nominal source)
      have atSource : d.nominal source <+: (d.copyOnto source destination).disk.nominal source :=
        (congrFun (nominal_copyOnto d source destination) source).symm ▸ List.prefix_rfl
      exact next_within copied (unlink_within _ source (.inl atSource))

theorem nominal_innerPath {source folder inner : Path}
    (landed : innerPath? source folder = some inner) (d : Disk) :
    d.nominal folder <+: d.nominal inner := by
  obtain ⟨c, up, rfl⟩ := innerPath?_eq_some landed
  rw [d.nominal_descend_direct folder (by simpa using up)]
  exact List.prefix_append _ _

/-- However a move ends, it reaches no further than its source and its destination. -/
theorem move_within (d : Disk) (source destination : Path) :
    Within (d.nominal source) (d.nominal destination) d (d.move source destination).disk := by
  unfold move
  split_ifs
  · split
    case h_1 d' renamed => exact rename_within renamed
    · exact Within.refl _ _ d
  · split
    · exact Within.refl _ _ d
    case h_2 inner landed =>
      split_ifs
      · exact Within.refl _ _ d
      · exact (moveOnto_within d source inner destination).mono (nominal_innerPath landed d)
  · exact moveOnto_within d source destination destination

end Disk

end MusicFiling
