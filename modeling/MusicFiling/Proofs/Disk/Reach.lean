import MusicFiling.Disk.Reach
import MusicFiling.Proofs.Disk.Tree
import MusicFiling.Proofs.Path

/-!
# What paths lead to

A path that leads somewhere leads to the place that it names as written. In a tree, a path without
two dots leads to its place as soon as the folders above it stand.
-/

namespace MusicFiling

namespace Path

/-- No component leads to the folder above. -/
def Direct (p : Path) : Prop :=
  ∀ c ∈ p.parts, c.isParent = false

instance (p : Path) : Decidable p.Direct :=
  inferInstanceAs (Decidable (∀ c ∈ p.parts, c.isParent = false))

/-- A path that a disk can be asked about. -/
structure Usable (p : Path) : Prop where
  clean : p.hasNull = false
  short : Text.size p.text ≤ Disk.pathLimit
  names : ∀ c ∈ p.parts, Text.size c.text ≤ Disk.nameLimit

instance (p : Path) : Decidable p.Usable :=
  decidable_of_iff (p.hasNull = false ∧ Text.size p.text ≤ Disk.pathLimit ∧
      ∀ c ∈ p.parts, Text.size c.text ≤ Disk.nameLimit)
    ⟨fun ⟨clean, short, names⟩ => ⟨clean, short, names⟩,
      fun ⟨clean, short, names⟩ => ⟨clean, short, names⟩⟩

theorem Direct.parent {p : Path} (direct : p.Direct) : p.parent.Direct :=
  fun c member => direct c (List.dropLast_subset _ member)

theorem Direct.descend {p : Path} (direct : p.Direct) {cs : List Component}
    (proper : ∀ c ∈ cs, c.isParent = false) : (p.descend cs).Direct := by
  intro c member
  rcases List.mem_append.mp member with above | below
  · exact direct c above
  · exact proper c below

private theorem prefix_intercalate (sep last : List Letter) (pieces : List (List Letter)) :
    List.intercalate sep pieces <+: List.intercalate sep (pieces ++ [last]) := by
  induction pieces with
  | nil => simp
  | cons first rest ih =>
    cases rest with
    | nil => simp [List.intercalate]
    | cons second rest =>
      obtain ⟨more, joined⟩ := ih
      refine ⟨more, ?_⟩
      simp only [List.intercalate, List.cons_append, List.intersperse_cons_cons,
        List.flatten_cons] at joined ⊢
      simp [← joined]

/-- The text of a path is no shorter than that of the path above. -/
theorem size_parent_le (p : Path) : Text.size p.parent.text ≤ Text.size p.text := by
  obtain ⟨anchor, parts⟩ := p
  rcases List.eq_nil_or_concat' parts with rfl | ⟨init, c, rfl⟩
  · exact Nat.le_refl _
  · simp only [parent, List.dropLast_concat]
    have whole : text ⟨anchor, init ++ [c]⟩ = anchor.text ++
        List.intercalate [.char '/'] ((init.map Component.text) ++ [c.text]) := by
      simp [text]
    rw [whole]
    by_cases dot : anchor = .relative ∧ init = []
    · obtain ⟨rfl, rfl⟩ := dot
      obtain ⟨first, rest, split⟩ := List.exists_cons_of_ne_nil c.isName.1
      have positive := first.size_pos
      have single : Text.size [.char '.'] = 1 := rfl
      simp only [text, Anchor.text, split, List.map_nil, List.nil_append, and_self, if_true,
        List.intercalate_singleton, Text.size_cons, single]
      omega
    · have above : text ⟨anchor, init⟩ =
          anchor.text ++ List.intercalate [.char '/'] (init.map Component.text) := by
        simp [text, dot]
      rw [above]
      exact Text.size_le_of_prefix
        ((List.prefix_append_right_inj _).mpr (prefix_intercalate _ _ _))

theorem Usable.parent {p : Path} (usable : p.Usable) : p.parent.Usable := by
  refine ⟨?_, Nat.le_trans p.size_parent_le usable.short, ?_⟩
  · have clean := usable.clean
    simp only [hasNull, List.any_eq_false] at clean ⊢
    intro c member
    exact clean c (List.dropLast_subset _ member)
  · intro c member
    exact usable.names c (List.dropLast_subset _ member)

end Path

namespace Disk

@[simp] theorem spell_nil (place : Place) : spell place [] = place := rfl

theorem spell_append (place : Place) (cs cs' : List Component) :
    spell place (cs ++ cs') = spell (spell place cs) cs' := by
  induction cs generalizing place with
  | nil => rfl
  | cons c rest ih => exact ih _

theorem spell_direct {cs : List Component} (direct : ∀ c ∈ cs, c.isParent = false)
    (place : Place) : spell place cs = place ++ cs := by
  induction cs generalizing place with
  | nil => simp
  | cons c rest ih =>
    have proper : c.isParent = false := direct c List.mem_cons_self
    rw [spell, proper, ih fun c' member => direct c' (List.mem_cons_of_mem c member)]
    simp

theorem nominal_direct (d : Disk) {p : Path} (direct : p.Direct) :
    d.nominal p = d.startOf p ++ p.parts :=
  spell_direct direct _

theorem nominal_descend_direct (d : Disk) (p : Path) {cs : List Component}
    (direct : ∀ c ∈ cs, c.isParent = false) : d.nominal (p.descend cs) = d.nominal p ++ cs := by
  have start : d.startOf (p.descend cs) = d.startOf p := rfl
  rw [nominal, start, Path.descend, spell_append, spell_direct direct, ← nominal]

/-- The first components of a path without two dots lead to a place on its way. -/
theorem isPrefix_nominal_upTo (d : Disk) {p : Path} (direct : p.Direct) (n : Nat) :
    d.nominal (p.upTo n) <+: d.nominal p := by
  have shorter : (p.upTo n).Direct := fun c member => direct c (List.mem_of_mem_take member)
  have start : d.startOf (p.upTo n) = d.startOf p := rfl
  rw [nominal_direct d direct, nominal_direct d shorter, start]
  exact (List.prefix_append_right_inj _).mpr (List.take_prefix n p.parts)

theorem isPrefix_nominal_parent (d : Disk) {p : Path} (direct : p.Direct) :
    d.nominal p.parent <+: d.nominal p := by
  have start : d.startOf p.parent = d.startOf p := rfl
  rw [nominal_direct d direct, nominal_direct d direct.parent, start]
  exact (List.prefix_append_right_inj _).mpr (List.dropLast_prefix p.parts)

theorem startOf_congr {d d' : Disk} (same : d'.workingFolder = d.workingFolder) (p : Path) :
    d'.startOf p = d.startOf p := by
  simp [startOf, same]

theorem nominal_congr {d d' : Disk} (same : d'.workingFolder = d.workingFolder) (p : Path) :
    d'.nominal p = d.nominal p := by
  simp [nominal, startOf_congr same]

theorem WellFormed.startOf {d : Disk} (tree : d.WellFormed) (p : Path) :
    d.entry? (d.startOf p) = some .folder := by
  unfold Disk.startOf
  split_ifs
  · exact tree.working
  · rfl

theorem follow_append (d : Disk) (place : Place) (cs cs' : List Component) :
    d.follow place (cs ++ cs') = (d.follow place cs).bind fun q => d.follow q cs' := by
  induction cs generalizing place with
  | nil => rfl
  | cons c rest ih =>
    simp only [List.cons_append, follow]
    rcases d.entry?_cases place with vacant | folder | ⟨content, file⟩
    · simp [vacant, Except.bind]
    · simp only [folder]
      split_ifs
      · exact ih _
      · rfl
      · exact ih _
    · simp [file, Except.bind]

/-- One component can be followed from a folder only. -/
theorem follow_single {d : Disk} {place q : Place} {c : Component} :
    d.follow place [c] = .ok q ↔
      d.entry? place = some .folder ∧
        (c.isParent = true ∧ q = place.dropLast ∨
          c.isParent = false ∧ Text.size c.text ≤ nameLimit ∧ q = place ++ [c]) := by
  simp only [follow]
  rcases d.entry?_cases place with vacant | folder | ⟨content, file⟩
  · simp [vacant]
  · simp only [folder, true_and]
    cases up : c.isParent with
    | true => simp [eq_comm]
    | false =>
      by_cases long : Text.size c.text > nameLimit
      · simp [long, Nat.not_le.mpr long]
      · simp [Nat.not_lt.mp long, Nat.not_lt.mpr (Nat.not_lt.mp long), eq_comm]
  · simp [file]

theorem follow_append_ok {d : Disk} {place q : Place} {cs cs' : List Component} :
    d.follow place (cs ++ cs') = .ok q ↔
      ∃ middle, d.follow place cs = .ok middle ∧ d.follow middle cs' = .ok q := by
  rw [follow_append]
  cases d.follow place cs <;> simp [Except.bind]

theorem follow_eq_spell {d : Disk} {place q : Place} {cs : List Component}
    (led : d.follow place cs = .ok q) : q = spell place cs := by
  induction cs using List.reverseRecOn generalizing q with
  | nil => simpa [follow, eq_comm] using led
  | append_singleton init c ih =>
    obtain ⟨middle, before, last⟩ := follow_append_ok.mp led
    obtain rfl := ih before
    rw [spell_append]
    obtain ⟨-, ⟨up, rfl⟩ | ⟨proper, -, rfl⟩⟩ := follow_single.mp last
    · simp [spell, up]
    · simp [spell, proper]

private theorem follow_names {d : Disk} {place q : Place} {cs : List Component}
    (led : d.follow place cs = .ok q) : ∀ c ∈ cs, Text.size c.text ≤ nameLimit := by
  induction cs using List.reverseRecOn generalizing q with
  | nil => simp
  | append_singleton init c ih =>
    obtain ⟨middle, before, last⟩ := follow_append_ok.mp led
    intro c' member
    rcases List.mem_append.mp member with inInit | same
    · exact ih before c' inInit
    · obtain rfl : c' = c := by simpa using same
      obtain ⟨-, ⟨up, -⟩ | ⟨-, short, -⟩⟩ := follow_single.mp last
      · have dots : c'.text = [.char '.', .char '.'] := by simpa [Component.isParent] using up
        rw [dots]
        decide
      · exact short

private theorem follow_congr {d d' : Disk} (same : d'.entry? = d.entry?) (place : Place)
    (cs : List Component) : d'.follow place cs = d.follow place cs := by
  induction cs generalizing place with
  | nil => rfl
  | cons c rest ih => simp only [follow, same, ih]

/-- What was reached is reached as long as the folders stand. -/
theorem follow_mono {d d' : Disk}
    (kept : ∀ q, d.entry? q = some .folder → d'.entry? q = some .folder) {place q : Place}
    {cs : List Component} (led : d.follow place cs = .ok q) : d'.follow place cs = .ok q := by
  induction cs using List.reverseRecOn generalizing q with
  | nil => simpa [follow] using led
  | append_singleton init c ih =>
    obtain ⟨middle, before, last⟩ := follow_append_ok.mp led
    refine follow_append_ok.mpr ⟨middle, ih before, ?_⟩
    obtain ⟨folder, way⟩ := follow_single.mp last
    exact follow_single.mpr ⟨kept middle folder, way⟩

/-- Without two dots only the folders on the way matter. -/
theorem follow_mono_way {d d' : Disk} {place q : Place} {cs : List Component}
    (direct : ∀ c ∈ cs, c.isParent = false)
    (kept : ∀ q, q <+: place ++ cs → d.entry? q = some .folder → d'.entry? q = some .folder)
    (led : d.follow place cs = .ok q) : d'.follow place cs = .ok q := by
  induction cs using List.reverseRecOn generalizing q with
  | nil => simpa [follow] using led
  | append_singleton init c ih =>
    obtain ⟨middle, before, last⟩ := follow_append_ok.mp led
    have inner : ∀ c' ∈ init, c'.isParent = false :=
      fun c' member => direct c' (List.mem_append_left _ member)
    have further : place ++ init <+: place ++ (init ++ [c]) :=
      (List.prefix_append_right_inj place).mpr (List.prefix_append init [c])
    refine follow_append_ok.mpr ⟨middle, ih inner ?_ before, ?_⟩
    · exact fun q above => kept q (above.trans further)
    · obtain ⟨folder, way⟩ := follow_single.mp last
      have here : middle = place ++ init := (follow_eq_spell before).trans (spell_direct inner place)
      exact follow_single.mpr ⟨kept middle (here ▸ further) folder, way⟩

/-- Only a name that is too long makes a path too long while it is followed. -/
theorem follow_ne_nameTooLong (d : Disk) {cs : List Component}
    (names : ∀ c ∈ cs, Text.size c.text ≤ nameLimit) (place : Place) :
    d.follow place cs ≠ .error .nameTooLong := by
  induction cs generalizing place with
  | nil => simp [follow]
  | cons c rest ih =>
    have short := names c List.mem_cons_self
    have later := ih fun c' member => names c' (List.mem_cons_of_mem c member)
    simp only [follow]
    rcases d.entry?_cases place with vacant | folder | ⟨content, file⟩
    · simp [vacant]
    · simp only [folder, Nat.not_lt.mpr short, if_false]
      split_ifs
      · exact later _
      · exact later _
    · simp [file]

namespace WellFormed

variable {d : Disk} (tree : d.WellFormed)
include tree

/-- Where no folder stands, a path ends in a proper name in a folder. -/
theorem follow_ne_folder {place q : Place} {cs : List Component}
    (start : d.entry? place = some .folder) (led : d.follow place cs = .ok q)
    (other : d.entry? q ≠ some .folder) :
    ∃ init c parent, cs = init ++ [c] ∧ c.isParent = false ∧ d.follow place init = .ok parent ∧
      d.entry? parent = some .folder ∧ q = parent ++ [c] := by
  rcases List.eq_nil_or_concat' cs with rfl | ⟨init, c, rfl⟩
  · obtain rfl : place = q := by simpa [follow] using led
    exact absurd start other
  · obtain ⟨parent, before, last⟩ := follow_append_ok.mp led
    obtain ⟨folder, ⟨up, rfl⟩ | ⟨proper, -, rfl⟩⟩ := follow_single.mp last
    · exact absurd (tree.entry?_dropLast (by simp [folder])) other
    · exact ⟨init, c, parent, rfl, proper, before, folder, rfl⟩

/-- Without two dots, components lead to their place if the folder above it stands. -/
theorem follow_direct {place : Place} {cs : List Component}
    (direct : ∀ c ∈ cs, c.isParent = false)
    (names : ∀ c ∈ cs, Text.size c.text ≤ nameLimit)
    (above : d.entry? (place ++ cs.dropLast) = some .folder) :
    d.follow place cs = .ok (place ++ cs) := by
  induction cs using List.reverseRecOn with
  | nil => simp [follow]
  | append_singleton init c ih =>
    rw [List.dropLast_concat] at above
    have proper := direct c (by simp)
    have short := names c (by simp)
    have higher : d.entry? (place ++ init.dropLast) = some .folder := by
      rcases List.eq_nil_or_concat' init with rfl | ⟨rest, c', rfl⟩
      · simpa using above
      · rw [List.dropLast_concat]
        rw [← List.append_assoc] at above
        exact tree.above _ c' (above ▸ Option.some_ne_none _)
    have before := ih (fun c' member => direct c' (List.mem_append_left _ member))
      (fun c' member => names c' (List.mem_append_left _ member)) higher
    refine follow_append_ok.mpr ⟨place ++ init, before, follow_single.mpr ⟨above, .inr ?_⟩⟩
    exact ⟨proper, short, by simp⟩

end WellFormed

theorem reach_ok_iff {d : Disk} {p : Path} {q : Place} :
    d.reach p = .ok q ↔
      p.hasNull = false ∧ Text.size p.text ≤ pathLimit ∧
        d.follow (d.startOf p) p.parts = .ok q := by
  unfold reach
  split_ifs with null long
  · simp [null]
  · simp [Nat.not_le.mpr long]
  · simp [null, Nat.not_lt.mp long]

theorem reach_eq_nominal {d : Disk} {p : Path} {q : Place} (led : d.reach p = .ok q) :
    q = d.nominal p :=
  follow_eq_spell (reach_ok_iff.mp led).2.2

theorem usable_of_reach {d : Disk} {p : Path} {q : Place} (led : d.reach p = .ok q) :
    p.Usable := by
  obtain ⟨clean, short, followed⟩ := reach_ok_iff.mp led
  exact ⟨clean, short, follow_names followed⟩

theorem reach_of_usable (d : Disk) {p : Path} (usable : p.Usable) :
    d.reach p = d.follow (d.startOf p) p.parts := by
  simp [reach, usable.clean, Nat.not_lt.mpr usable.short]

theorem reach_congr {d d' : Disk} (working : d'.workingFolder = d.workingFolder)
    (same : d'.entry? = d.entry?) (p : Path) : d'.reach p = d.reach p := by
  simp only [reach, startOf_congr working, follow_congr same]

theorem reach_mono {d d' : Disk} (working : d'.workingFolder = d.workingFolder)
    (kept : ∀ q, d.entry? q = some .folder → d'.entry? q = some .folder) {p : Path} {q : Place}
    (led : d.reach p = .ok q) : d'.reach p = .ok q := by
  obtain ⟨clean, short, followed⟩ := reach_ok_iff.mp led
  rw [← startOf_congr working] at followed
  exact reach_ok_iff.mpr ⟨clean, short, follow_mono kept followed⟩

theorem reach_mono_way {d d' : Disk} (working : d'.workingFolder = d.workingFolder) {p : Path}
    (direct : p.Direct)
    (kept : ∀ q, q <+: d.nominal p → d.entry? q = some .folder → d'.entry? q = some .folder)
    {q : Place} (led : d.reach p = .ok q) : d'.reach p = .ok q := by
  obtain ⟨clean, short, followed⟩ := reach_ok_iff.mp led
  rw [nominal_direct d direct] at kept
  have led' := follow_mono_way direct kept followed
  rw [← startOf_congr working] at led'
  exact reach_ok_iff.mpr ⟨clean, short, led'⟩

namespace WellFormed

variable {d : Disk} (tree : d.WellFormed)
include tree

theorem reach_ne_folder {p : Path} {q : Place} (led : d.reach p = .ok q)
    (other : d.entry? q ≠ some .folder) :
    ∃ init c parent, p.parts = init ++ [c] ∧ c.isParent = false ∧
      d.entry? parent = some .folder ∧ q = parent ++ [c] := by
  obtain ⟨-, -, followed⟩ := reach_ok_iff.mp led
  obtain ⟨init, c, parent, parts, proper, -, folder, place⟩ :=
    tree.follow_ne_folder (tree.startOf p) followed other
  exact ⟨init, c, parent, parts, proper, folder, place⟩

/-- A usable path without two dots leads to its place if the folder above it stands. -/
theorem reach_direct {p : Path} (direct : p.Direct) (usable : p.Usable)
    (above : d.entry? (d.nominal p.parent) = some .folder) : d.reach p = .ok (d.nominal p) := by
  rw [nominal_direct d direct.parent] at above
  rw [reach_of_usable d usable, nominal_direct d direct]
  exact tree.follow_direct direct usable.names above

theorem nominal_parent_of_present {p : Path} (direct : p.Direct)
    (present : d.entry? (d.nominal p) ≠ none) :
    d.entry? (d.nominal p.parent) = some .folder := by
  rw [nominal_direct d direct] at present
  rw [nominal_direct d direct.parent]
  simp only [Path.parent]
  rcases List.eq_nil_or_concat' p.parts with empty | ⟨init, c, split⟩
  · have start := tree.startOf p.parent
    simpa [empty, Path.parent] using start
  · rw [split, ← List.append_assoc] at present
    rw [split, List.dropLast_concat]
    exact tree.above _ c present

/-- What stands at a usable path without two dots stands at its place as written. -/
theorem at?_direct {p : Path} (direct : p.Direct) (usable : p.Usable) :
    d.at? p = .ok (d.entry? (d.nominal p)) := by
  by_cases present : d.entry? (d.nominal p) = none
  · unfold at?
    cases led : d.reach p with
    | ok q =>
      obtain rfl := reach_eq_nominal led
      rfl
    | error cause =>
      have notLong : cause ≠ .nameTooLong := by
        rintro rfl
        rw [reach_of_usable d usable] at led
        exact d.follow_ne_nameTooLong usable.names _ led
      cases cause <;> simp_all
  · have led := tree.reach_direct direct usable (tree.nominal_parent_of_present direct present)
    simp [at?, led]

end WellFormed

private theorem find?_eq_of_at? {d : Disk} {p : Path} {entry : Option Entry}
    (asked : d.at? p = .ok entry) :
    d.find? p = entry := by
  unfold at? at asked
  unfold find?
  cases led : d.reach p with
  | ok q => simpa [led] using asked
  | error cause => cases cause <;> simp_all

theorem at?_eq_error_iff {d : Disk} {p : Path} {fault : Fault} :
    d.at? p = .error fault ↔
      d.reach p = .error .nameTooLong ∧ fault = .refused .nameTooLong p := by
  unfold at?
  cases d.reach p with
  | ok place => simp
  | error cause => cases cause <;> simp [eq_comm]

theorem at?_eq_some_iff {d : Disk} {p : Path} {entry : Entry} :
    d.at? p = .ok (some entry) ↔ ∃ q, d.reach p = .ok q ∧ d.entry? q = some entry := by
  unfold at?
  cases d.reach p with
  | ok place => simp
  | error cause => cases cause <;> simp

theorem WellFormed.find?_direct {d : Disk} (tree : d.WellFormed) {p : Path} (direct : p.Direct)
    (usable : p.Usable) : d.find? p = d.entry? (d.nominal p) :=
  find?_eq_of_at? (tree.at?_direct direct usable)

end Disk

end MusicFiling
