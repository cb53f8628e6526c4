import MusicFiling.Proofs.Disk.Passable
import MusicFiling.Proofs.Organize.DryRun

/-!
# Files that are left behind

A file is left behind if it gets no destination, if its destination leads through a file, or if
something stands there. As long as the collection and the library lie apart, none of this changes
when other files are copied or moved, so the same becomes of the file whenever it is handled.
-/

namespace MusicFiling

open Disk

/-- The paths of a batch have no two dots, and the source lies apart from the target and from the
    journal. -/
structure Options.Separate (options : Options) (d : Disk) : Prop where
  source : options.source.Direct
  target : options.target.Direct
  journal : options.journal.Direct
  targetOff : ¬d.nominal options.source <+: d.nominal options.target
  sourceOff : ¬d.nominal options.target <+: d.nominal options.source
  journalOff : ¬d.nominal options.source <+: d.nominal options.journal

instance (options : Options) (d : Disk) : Decidable (options.Separate d) :=
  decidable_of_iff (options.source.Direct ∧ options.target.Direct ∧ options.journal.Direct ∧
      ¬d.nominal options.source <+: d.nominal options.target ∧
      ¬d.nominal options.target <+: d.nominal options.source ∧
      ¬d.nominal options.source <+: d.nominal options.journal)
    ⟨fun ⟨source, target, journal, targetOff, sourceOff, journalOff⟩ =>
        ⟨source, target, journal, targetOff, sourceOff, journalOff⟩,
      fun ⟨source, target, journal, targetOff, sourceOff, journalOff⟩ =>
        ⟨source, target, journal, targetOff, sourceOff, journalOff⟩⟩

/-- A prober that has read a file could open it. -/
def Prober.Opens (prober : Prober) : Prop :=
  ∀ (d : Disk) (path : Path) (stdout stderr : List UInt8), d.WellFormed → path.Direct →
    prober.run d path = .finished 0 stdout stderr → ∃ place, d.reach path = .ok place

section

variable {options : Options} {prober : Prober} {d d' : Disk} {path destination : Path}

theorem Options.Separate.congr (separate : options.Separate d) (same : d'.nominal = d.nominal) :
    options.Separate d' := by
  obtain ⟨source, target, journal, targetOff, sourceOff, journalOff⟩ := separate
  rw [← same] at targetOff sourceOff journalOff
  exact ⟨source, target, journal, targetOff, sourceOff, journalOff⟩

/-- No destination lies in the source. -/
theorem Options.Separate.destinationOff (separate : options.Separate d)
    (planned : planDestination options prober d' path = .ok destination) :
    ¬d.nominal options.source <+: d.nominal destination := by
  obtain ⟨cs, rfl, -, proper⟩ := Run.planDestination_ok planned
  rw [nominal_descend_direct d options.target proper]
  intro inside
  exact (List.prefix_or_prefix_of_prefix inside (List.prefix_append _ cs)).elim
    separate.targetOff separate.sourceOff

/-- A destination of a file, if it has one, names another place than the file's. -/
def Disk.Elsewhere (options : Options) (prober : Prober) (d : Disk) (path : Path) : Prop :=
  ∀ ⦃destination : Path⦄, planDestination options prober d path = .ok destination →
    d.nominal destination ≠ d.nominal path

/-- No file of the source is in its destination's place. -/
theorem Options.Separate.elsewhere (separate : options.Separate d)
    (inside : d.nominal options.source <+: d.nominal path) : d.Elsewhere options prober path := by
  intro destination planned same
  exact separate.destinationOff planned (same ▸ inside)

/-- Only a file that could be opened gets a destination. -/
theorem Prober.Opens.reach (opens : prober.Opens) (tree : d.WellFormed) (direct : path.Direct)
    (planned : planDestination options prober d path = .ok destination) :
    d.reach path = .ok (d.nominal path) := by
  unfold planDestination readTags at planned
  cases installed : prober.installed with
  | false => simp [installed] at planned
  | true =>
    cases ran : prober.run d path with
    | notStarted reason => simp [installed, ran] at planned
    | timedOut => simp [installed, ran] at planned
    | finished code stdout stderr =>
      by_cases success : code = 0
      · subst success
        obtain ⟨place, led⟩ := opens d path stdout stderr tree direct ran
        rwa [← reach_eq_nominal led]
      · simp [installed, ran, success] at planned

end

namespace Disk

section Deliver

variable {d : Disk} (tree : d.WellFormed) {destination : Path} (direct : destination.Direct)
  (nonempty : destination.parts ≠ []) (passable : d.Passable destination)
include direct nonempty passable

/-- Where a path leads through no file, nothing but a folder is in its way. -/
theorem blocks_of_passable : d.blocks destination = false := by
  refine Bool.eq_false_iff.mpr fun found => ?_
  unfold blocks find? at found
  cases above : d.reach destination.parent with
  | error cause => simp [above] at found
  | ok q =>
    obtain rfl := reach_eq_nominal above
    obtain ⟨init, c, split⟩ := (List.eq_nil_or_concat' destination.parts).resolve_left nonempty
    have concat := d.nominal_eq_concat direct split
    have none := passable.clear (d.nominal destination.parent)
      (concat ▸ List.prefix_append _ [c]) (by simp [concat])
    rcases d.entry?_cases (d.nominal destination.parent) with vacant | folder | ⟨content, file⟩
    · simp [above, vacant] at found
    · simp [above, folder, Entry.isFolder] at found
    · simp [file?_eq_some_iff.mpr file] at none

include tree

/-- A file is delivered to a vacant path that leads through no file. -/
theorem deliver_of_passable {path : Path} {content : List UInt8}
    (led : d.reach path = .ok (d.nominal path)) (stands : d.file? (d.nominal path) = some content)
    (asked : d.at? destination = .ok none) (action : Action) :
    (d.deliver action path destination).fault = none := by
  obtain ⟨made, arrived⟩ := tree.makeFolders_of_passable direct passable nonempty
  have grown := makeFolders_grows d destination.parent
  have vacant := (grounded_of_direct d direct).find?_of_vacant tree asked
  unfold deliver Attempt.next
  simp only [made]
  generalize (d.makeFolders destination.parent).disk = d' at arrived grown vacant ⊢
  have led' := grown.reach led
  have present : d'.entry? (d.nominal path) = some (.file content) := by
    rw [← file?_eq_some_iff, grown.file?_eq id, stands]
  have free : d'.entry? (d.nominal destination) = none := by
    simpa [find?, arrived] using vacant
  cases action with
  | copy =>
    obtain ⟨d'', done⟩ := copy_vacant led' present arrived free
    simp [done, Attempt.done]
  | move =>
    obtain ⟨d'', done, -⟩ := (grown.tree tree).move_vacant led' present arrived free
    simp [done, Attempt.done]

end Deliver

end Disk

/-- A file is left behind, with a status: it gets no destination, nothing can be put there, or
    something stands there. -/
inductive Stuck (options : Options) (prober : Prober) (d : Disk) (path : Path) : Status → Prop where
  | refused {refusal : Refusal} (planned : planDestination options prober d path = .error refusal) :
    Stuck options prober d path .failed
  | blocked {destination : Path} (planned : planDestination options prober d path = .ok destination)
    (blocked : ¬d.Passable destination) : Stuck options prober d path .failed
  | taken {destination : Path} (planned : planDestination options prober d path = .ok destination)
    (clean : path.hasNull = false) (usable : destination.Usable)
    (present : d.entry? (d.nominal destination) ≠ none) : Stuck options prober d path .existing

theorem Stuck.status_cases {options : Options} {prober : Prober} {d : Disk} {path : Path}
    {status : Status} (stuck : Stuck options prober d path status) :
    status = .failed ∨ status = .existing := by
  cases stuck with
  | refused => exact .inl rfl
  | blocked => exact .inl rfl
  | taken => exact .inr rfl

/-- What the disk tells of a file that is left behind: how it is settled, or that it cannot be asked
    about, or a destination to which nothing can be put. -/
theorem Stuck.prospect_cases {options : Options} {prober : Prober} {d : Disk} {path : Path}
    {status : Status} (stuck : Stuck options prober d path status) (tree : d.WellFormed)
    (target : options.target.Direct) (elsewhere : d.Elsewhere options prober path) :
    d.prospect options prober path = .ok (.settled status) ∨
      status = .failed ∧ ((∃ fault, d.prospect options prober path = .error fault) ∨
        ∃ destination, d.prospect options prober path = .ok (.vacant destination) ∧
          ¬d.Passable destination) := by
  unfold prospect
  cases stuck with
  | refused planned =>
    left
    simp only [planned]
  | @blocked destination planned blocked =>
    right
    simp only [planned]
    refine ⟨trivial, ?_⟩
    unfold weigh
    rw [if_neg (elsewhere planned)]
    split_ifs with null
    · exact .inl ⟨_, rfl⟩
    · cases asked : d.at? destination with
      | error fault => exact .inl ⟨_, rfl⟩
      | ok entry =>
        cases entry with
        | none => exact .inr ⟨_, rfl, blocked⟩
        | some entry =>
          obtain ⟨q, led, present⟩ := at?_eq_some_iff.mp asked
          obtain rfl := reach_eq_nominal led
          refine absurd ⟨usable_of_reach led, fun q above proper => ?_⟩ blocked
          have folder := tree.folder_of_prefix above (Ne.symm proper) (by simp [present])
          exact file?_eq_none_of_folder folder
  | @taken destination planned clean usable present =>
    left
    have direct := Run.direct_of_planDestination planned target
    obtain ⟨entry, found⟩ := Option.ne_none_iff_exists'.mp present
    have asked := tree.at?_direct direct usable
    simp only [planned]
    unfold weigh
    rw [if_neg (by simp [clean, usable.clean]), if_neg (elsewhere planned), asked, found]

/-- A file is delivered only to a path that leads through no file. -/
theorem Run.Delivered.passable {options : Options} {prober : Prober} {run : Run}
    {path destination : Path} {origin goal : Place} {content : List UInt8} {delivered : Disk}
    (arrived : Delivered options prober run path destination origin goal content delivered)
    (tree : run.disk.WellFormed) (target : options.target.Direct) :
    run.disk.Passable destination := by
  have direct := direct_of_planDestination arrived.planned target
  obtain ⟨-, -, usable⟩ := arrived.goal_of_grounded tree (grounded_of_direct run.disk target)
  obtain ⟨cs, rfl, nonempty, -⟩ := planDestination_ok arrived.planned
  exact tree.passable_of_makeFolders direct usable (by simp [Path.descend, nonempty]) arrived.made

section Handling

variable {options : Options} {prober : Prober} {run : Run} {path : Path}
  (tree : run.disk.WellFormed) (target : options.target.Direct)
  (elsewhere : run.disk.Elsewhere options prober path) (real : options.dryRun = false)
  {time : String} {op : Option Operation} {s : Stepped Status}
  (handling : Run.Handled time options prober run path op s)
include tree target elsewhere real handling

/-- For a file that is left behind no operation is carried out, and it gets its status unless
    telling of it is hindered. -/
theorem Stuck.handled {status : Status} (stuck : Stuck options prober run.disk path status) :
    op = none ∧ (s.run.console.Heard → run.Legible options prober path → s.status = status) := by
  have told := stuck.prospect_cases tree target elsewhere
  cases handling with
  | settled steady told' =>
    rw [told'] at told
    rcases told with same | ⟨-, ⟨fault, broken⟩ | ⟨destination, vacant, -⟩⟩
    · obtain rfl := Run.Decision.settled.inj (Except.ok.inj same)
      exact ⟨rfl, fun _ _ => rfl⟩
    · cases broken
    · cases vacant
  | broken steady told' =>
    rw [told'] at told
    rcases told with same | ⟨rfl, -⟩
    · cases same
    · exact ⟨rfl, fun _ _ => rfl⟩
  | previewed dry => simp [real] at dry
  | prevented _ steady told' cause =>
    rw [told'] at told
    rcases told with same | ⟨rfl, -⟩
    · cases same
    · exact ⟨rfl, fun _ _ => rfl⟩
  | carried told' free delivers carried yields =>
    rw [told'] at told
    rcases told with same | ⟨-, ⟨fault, broken⟩ | ⟨destination, vacant, blocked⟩⟩
    · cases same
    · cases broken
    · obtain rfl := Run.Decision.vacant.inj (Except.ok.inj vacant)
      exact absurd (carried.passable tree target) blocked
  | hindered steady refused => exact ⟨rfl, fun heard legible => absurd heard (refused legible)⟩

/-- A file for which no operation is carried out is left behind. -/
theorem stuck_of_none {content : List UInt8}
    (stands : run.disk.file? (run.disk.nominal path) = some content) (opens : prober.Opens)
    (direct : path.Direct) (none : op = none) (heard : s.run.console.Heard)
    (legible : run.Legible options prober path) :
    Stuck options prober run.disk path s.status := by
  have behind : ∀ status, Stuck options prober run.disk path status →
      Stuck options prober run.disk path s.status := by
    intro status stuck
    rwa [(stuck.handled tree target elsewhere real handling).2 heard legible]
  cases planned : planDestination options prober run.disk path with
  | error refusal => exact behind _ (.refused planned)
  | ok destination =>
    by_cases passable : run.disk.Passable destination
    · have usable := passable.usable
      have led := opens.reach tree direct planned
      have clean := (usable_of_reach led).clean
      have direct' := Run.direct_of_planDestination planned target
      have asked := tree.at?_direct direct' usable
      cases present : run.disk.entry? (run.disk.nominal destination) with
      | some entry => exact behind _ (.taken planned clean usable (by simp [present]))
      | none =>
        have nonempty : destination.parts ≠ [] := by
          obtain ⟨cs, rfl, nonempty, -⟩ := Run.planDestination_ok planned
          simp [Path.descend, nonempty]
        rw [present] at asked
        have vacant : run.disk.prospect options prober path = .ok (.vacant destination) := by
          simp only [prospect, planned, weigh, asked]
          rw [if_neg (by simp [clean, usable.clean]), if_neg (elsewhere planned)]
        have delivers := deliver_of_passable tree direct' nonempty passable led stands asked
          options.action
        have free := blocks_of_passable direct' nonempty passable
        subst none
        cases handling with
        | settled steady told => simp [vacant] at told
        | broken steady told => simp [vacant] at told
        | previewed dry => simp [real] at dry
        | prevented _ steady told cause =>
          obtain rfl := Run.Decision.vacant.inj (Except.ok.inj (vacant.symm.trans told))
          simp [free, delivers] at cause
        | hindered steady refused => exact absurd heard (refused legible)
    · exact behind _ (.blocked planned passable)

end Handling

end MusicFiling
