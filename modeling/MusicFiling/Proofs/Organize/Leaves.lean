import MusicFiling.Proofs.Organize.Stuck

/-!
# What a batch leaves

A batch whose source lies apart from its target and its journal goes on from the disk before it:
outside of the source all files still stand, and inside of it all but those that were moved away.
Of these, each is left behind, those that were copied because of their copies.
-/

namespace MusicFiling

open Disk

namespace Disk

/-- A later state of a disk. Outside of a place all files still stand, and inside of it all but those
    that operations moved away. -/
structure Onward (source : Place) (ops : List Operation) (d d' : Disk) : Prop where
  later : d.Later d'
  outside : ∀ q, ¬source <+: q → d.file? q ≠ none → d'.file? q ≠ none
  inside : ∀ q, source <+: q →
    d'.file? q = if ∃ op ∈ ops, op.action = .move ∧ d.nominal op.source = q then none else d.file? q

namespace Onward

variable {source : Place} {ops ops' : List Operation} {d d' d'' : Disk}

theorem refl (source : Place) (tree : d.WellFormed) : Onward source [] d d :=
  ⟨.refl tree, fun _ _ => id, by simp⟩

theorem trans (first : Onward source ops d d') (second : Onward source ops' d' d'') :
    Onward source (ops ++ ops') d d'' := by
  refine ⟨first.later.trans second.later,
    fun q off stands => second.outside q off (first.outside q off stands), ?_⟩
  intro q below
  have either : (∃ op ∈ ops ++ ops', op.action = .move ∧ d.nominal op.source = q) ↔
      (∃ op ∈ ops, op.action = .move ∧ d.nominal op.source = q) ∨
        ∃ op ∈ ops', op.action = .move ∧ d.nominal op.source = q := by
    simp only [List.mem_append, or_and_right, exists_or]
  rw [second.inside q below, first.inside q below, first.later.nominal, if_congr either rfl rfl]
  by_cases late : ∃ op ∈ ops', op.action = .move ∧ d.nominal op.source = q
  · rw [if_pos late, if_pos (.inr late)]
  · by_cases early : ∃ op ∈ ops, op.action = .move ∧ d.nominal op.source = q
    · rw [if_neg late, if_pos early, if_pos (.inl early)]
    · rw [if_neg late, if_neg early, if_neg (not_or.mpr ⟨early, late⟩)]

theorem of_file?_eq (later : d.Later d') (same : d'.file? = d.file?) : Onward source [] d d' :=
  ⟨later, fun q _ => by rw [same]; exact id, by simp [same]⟩

/-- A file that still stands inside the place is as it was. -/
theorem file?_eq (onward : Onward source ops d d') {q : Place} (below : source <+: q)
    (stands : d'.file? q ≠ none) : d'.file? q = d.file? q := by
  have after := onward.inside q below
  split_ifs at after with gone
  · exact absurd after stands
  · exact after

/-- What stands outside of the place still stands there. -/
theorem present (onward : Onward source ops d d') {q : Place} (off : ¬source <+: q)
    (present : d.entry? q ≠ none) : d'.entry? q ≠ none := by
  rcases d.entry?_cases q with vacant | folder | ⟨content, file⟩
  · exact absurd vacant present
  · simp [onward.later.folder q folder]
  · intro vacant
    have stands := file?_eq_some_iff.mpr file
    exact onward.outside q off (by simp [stands]) (file?_eq_none_of_vacant vacant)

end Onward

private theorem Grows.onward {made written : Place → Prop} {source : Place} {d d' : Disk}
    (grown : Grows made written d d') (tree : d.WellFormed)
    (off : ∀ q, written q → ¬source <+: q) : Onward source [] d d' := by
  refine ⟨grown.later tree, ?_, ?_⟩
  · intro q _ stands
    obtain ⟨content, file⟩ := Option.ne_none_iff_exists'.mp stands
    obtain ⟨content', file'⟩ := grown.file file
    simp [file']
  · intro q below
    simpa using grown.file?_eq fun new => off q new below

end Disk

section

variable {options : Options} {prober : Prober} {d d' : Disk} {path : Path}

theorem planDestination_congr (options : Options) (faithful : prober.Faithful)
    (direct : path.Direct)
    (working : d'.workingFolder = d.workingFolder) {content : List UInt8}
    (stands : d.file? (d.nominal path) = some content)
    (stands' : d'.file? (d.nominal path) = some content) :
    planDestination options prober d' path = planDestination options prober d path := by
  have same : prober.run d' path = prober.run d path :=
    faithful d d' path content direct working stands stands'
  simp only [planDestination, same]

/-- A file that was left behind and still stands stays behind. -/
theorem Stuck.onward {status : Status} {ops : List Operation}
    (stuck : Stuck options prober d path status) (separate : options.Separate d)
    (onward : Onward (d.nominal options.source) ops d d') (faithful : prober.Faithful)
    (direct : path.Direct) {content : List UInt8}
    (stands : d.file? (d.nominal path) = some content)
    (stands' : d'.file? (d.nominal path) = some content) :
    Stuck options prober d' path status := by
  have plan := planDestination_congr options faithful direct onward.later.working stands stands'
  cases stuck with
  | refused planned => exact .refused (plan.trans planned)
  | @blocked destination planned blocked =>
    refine .blocked (plan.trans planned) fun passable => blocked ⟨passable.usable, ?_⟩
    intro q above proper
    by_contra file
    have off : ¬d.nominal options.source <+: q :=
      fun inside => separate.destinationOff planned (inside.trans above)
    have clear := passable.clear q
    rw [onward.later.nominal] at clear
    exact onward.outside q off file (clear above proper)
  | @taken destination planned clean usable present =>
    refine .taken (plan.trans planned) clean usable ?_
    rw [onward.later.nominal]
    exact onward.present (separate.destinationOff planned) present

end

/-- What becomes of a file that is handled again. -/
def Status.again : Status → Status
  | .copied => .existing
  | status => status

private theorem Stuck.again_eq {options : Options} {prober : Prober} {d : Disk} {path : Path}
    {status : Status} (stuck : Stuck options prober d path status) : status.again = status := by
  cases stuck <;> rfl

namespace Run

/-- A run halfway through the files of a source that lies apart from the target and the journal. -/
structure Sorting (options : Options) (run : Run) (files : List Path) : Prop where
  ready : run.Ready files
  separate : options.Separate run.disk
  only : run.OnlyJournal (run.disk.nominal options.journal)
  opened : run.disk.file? (run.disk.nominal options.journal) ≠ none
  inside : ∀ path ∈ files,
    run.disk.nominal options.source <+: run.disk.nominal path ∧ path.Direct

namespace Sorting

variable {time : String} {options : Options} {prober : Prober} {run run' : Run} {path : Path}
  {rest : List Path} {op : Option Operation}

private theorem performed (sorting : run.Sorting options (path :: rest)) {destination : Path}
    {origin goal : Place} {content : List UInt8} {delivered : Disk}
    (carried : Carried time options prober run path destination origin goal content delivered run') :
    Performed (run.disk.nominal options.journal) ⟨options.action, path, destination⟩ run run' := by
  obtain ⟨below, -⟩ := sorting.inside path List.mem_cons_self
  refine carried.performed sorting.only sorting.ready.tree sorting.separate.target sorting.opened ?_
  exact fun same => sorting.separate.journalOff (same ▸ below)

/-- A turn goes on from the disk before it. -/
theorem onward (sorting : run.Sorting options (path :: rest))
    (turn : Turn time options prober run path op run') :
    Onward (run.disk.nominal options.source) op.toList run.disk run'.disk ∧
      run'.OnlyJournal (run.disk.nominal options.journal) ∧
      run'.disk.file? (run.disk.nominal options.journal) ≠ none := by
  obtain ⟨below, -⟩ := sorting.inside path List.mem_cons_self
  cases turn with
  | still steady =>
    obtain ⟨ready, -, only, opened, -⟩ := sorting
    refine ⟨steady.disk.onward ready.tree fun q new => absurd new (only.not_reporting q),
      only.of_steady steady, ?_⟩
    rwa [steady.disk.file?_eq (only.not_reporting _)]
  | @carried destination origin goal content delivered _ carried =>
    have performed := sorting.performed carried
    obtain ⟨ready, separate, -, -, -⟩ := sorting
    have later := (Turn.carried carried).later ready.tree
    refine ⟨⟨later, ?_, ?_⟩, performed.only, performed.opened⟩
    · intro q off stands
      by_cases here : q = run.disk.nominal options.journal
      · rw [here]
        exact performed.opened
      · rw [← filesOff_of_ne _ here, performed.carried, Operation.carry]
        rw [← filesOff_of_ne _ here] at stands
        split_ifs with goal taken
        · exact performed.present
        · exact absurd (taken.2 ▸ below) off
        · exact stands
    · intro q within
      have here : q ≠ run.disk.nominal options.journal := by
        rintro rfl
        exact separate.journalOff within
      have notGoal : q ≠ run.disk.nominal destination := by
        rintro rfl
        exact separate.destinationOff carried.planned within
      rw [← filesOff_of_ne _ here, ← filesOff_of_ne run.disk here, performed.carried,
        Operation.carry, if_neg notGoal]
      simp [eq_comm]

theorem next (sorting : run.Sorting options (path :: rest))
    (turn : Turn time options prober run path op run') : run'.Sorting options rest := by
  obtain ⟨onward, only, opened⟩ := sorting.onward turn
  have nominal := onward.later.nominal
  rw [← nominal] at only opened
  refine ⟨sorting.ready.next turn, sorting.separate.congr nominal, only, opened, ?_⟩
  rw [nominal]
  exact (List.forall_mem_cons.mp sorting.inside).2

section Behind

variable (faithful : prober.Faithful) (opens : prober.Opens) (real : options.dryRun = false)
include faithful opens real

omit opens real in
/-- A file that was copied is left behind: its destination is taken. -/
private theorem stuck_of_copied (sorting : run.Sorting options (path :: rest))
    {destination : Path} {origin goal : Place} {content delivered : List UInt8} {disk : Disk}
    (carried : Carried time options prober run path destination origin goal delivered disk run')
    {ops : List Operation} {d : Disk}
    (after : Onward (run.disk.nominal options.source) ops run'.disk d)
    (before : run.disk.file? (run.disk.nominal path) = some content)
    (stands : d.file? (run.disk.nominal path) = some content) :
    Stuck options prober d path .existing := by
  obtain ⟨-, direct⟩ := sorting.inside path List.mem_cons_self
  obtain ⟨first, -, -⟩ := sorting.onward (Turn.carried carried)
  obtain ⟨-, -, usable⟩ :=
    carried.goal_of_grounded sorting.ready.tree (grounded_of_direct _ sorting.separate.target)
  have later := (first.trans after).later
  have performed := sorting.performed carried
  have off := sorting.separate.destinationOff carried.planned
  have arrived : run'.disk.file? (run.disk.nominal destination) ≠ none := by
    rw [← filesOff_of_ne _ performed.destinationOff, performed.carried, Operation.carry,
      if_pos rfl]
    exact performed.present
  have plan := planDestination_congr options faithful direct later.working before stands
  refine .taken (plan.trans carried.planned) carried.source_usable.clean usable ?_
  rw [later.nominal]
  exact present_of_file? (after.outside _ off arrived)

/-- Once a file was handled, it has been moved away or is left behind. -/
theorem stuck_after (sorting : run.Sorting options (path :: rest))
    (turn : Turn time options prober run path (run.operation? options prober path) run')
    {ops : List Operation} {d : Disk}
    (after : Onward (run.disk.nominal options.source) ops run'.disk d)
    (stands : d.file? (run.disk.nominal path) ≠ none)
    (heard : (run.handle time options prober path).run.console.Heard)
    (text : Textual options prober run.disk path) :
    Stuck options prober d path (run.status time options prober path).again := by
  obtain ⟨first, -, -⟩ := sorting.onward turn
  have whole := first.trans after
  obtain ⟨below, direct⟩ := sorting.inside path List.mem_cons_self
  obtain ⟨content, before⟩ := sorting.ready.standing path List.mem_cons_self
  have stands' := (whole.file?_eq below stands).trans before
  have handled := handle_handled time options prober sorting.ready.tree before
  have done := handled.isSome_iff real heard text
  generalize run.operation? options prober path = op at turn first whole handled done
  cases turn with
  | still steady =>
    have stuck := stuck_of_none sorting.ready.tree sorting.separate.target
      (sorting.separate.elsewhere below) real handled before opens direct rfl heard (.inr text)
    rw [status, stuck.again_eq]
    exact stuck.onward sorting.separate whole faithful direct before stands'
  | @carried destination _ _ _ _ _ carried =>
    have done : run.status time options prober path = options.action.done := done.mp rfl
    cases action : options.action with
    | move =>
      -- Then the file stands no longer.
      have gone := whole.inside _ below
      rw [if_pos ⟨⟨options.action, path, destination⟩, by simp, action, rfl⟩] at gone
      exact absurd gone stands
    | copy =>
      rw [done, action]
      exact sorting.stuck_of_copied faithful carried after before stands'

/-- All turns together; the induction is on the files that are still to be handled. -/
theorem handleAll (clock : Nat → String) (text : options.target.IsText) {files : List Path}
    (sorting : run.Sorting options files) (texts : ∀ path ∈ files, path.IsText)
    {total index : Nat}
    (heard : (run.handleAll clock options prober total index files).run.console.Heard) :
    (run.handleAll clock options prober total index files).run.Sorting options [] ∧
      Onward (run.disk.nominal options.source)
        ((run.logged clock options prober total index files).map Prod.snd) run.disk
        (run.handleAll clock options prober total index files).run.disk ∧
      ∀ visit ∈ run.turns clock options prober total index files,
        (run.handleAll clock options prober total index files).run.disk.file?
          (run.disk.nominal visit.path) ≠ none →
        Stuck options prober (run.handleAll clock options prober total index files).run.disk
          visit.path (outcome clock options prober visit).2.again := by
  induction files generalizing run index with
  | nil => exact ⟨sorting, .refl _ sorting.ready.tree, by simp [turns]⟩
  | cons path rest ih =>
    obtain ⟨here, later⟩ := List.forall_mem_cons.mp texts
    have told := heard_handleNext heard
    have ended := handleNext_outcome clock options prober told
    have turn : Turn (clock index) options prober run path (run.operation? options prober path)
        (run.handleNext clock options prober total index path).run := sorting.ready.turn total index
    obtain ⟨first, -, -⟩ := sorting.onward turn
    rw [Run.handleAll, Stepped.next_of_ok ended] at heard ⊢
    obtain ⟨sorted, after, behind⟩ := ih (sorting.next turn) later heard
    rw [first.later.nominal] at after behind
    simp only [logged_cons, turns, ended, List.map_append, map_snd_logged?]
    refine ⟨sorted, first.trans after, List.forall_mem_cons.mpr ⟨fun stands => ?_, behind⟩⟩
    have before := (handleNext_steady clock options prober total index run path).console
    exact sorting.stuck_after faithful opens real turn after stands (before.heard told)
      (textual prober run.disk text here)

end Behind

end Sorting

theorem Begun.sorting {options : Options} {d : Disk} {run : Run} {files : List Path}
    (begun : Begun options d run files) (tree : d.WellFormed) (separate : options.Separate d)
    (real : options.dryRun = false) (unreported : options.report = none) :
    run.Sorting options files ∧ Onward (d.nominal options.source) [] d run.disk := by
  have nominal : run.disk.nominal = d.nominal := funext begun.grown.nominal
  obtain ⟨stand, -⟩ := tree.discover_spec begun.found
  have telling := begun.telling real unreported
  have text := begun.recorded real (by simp [unreported])
  constructor
  · refine ⟨begun.ready tree, separate.congr nominal, ?_, ?_, ?_⟩
    · rw [nominal]
      exact telling.only
    · rw [nominal, text]
      exact Option.some_ne_none _
    · intro path member
      rw [nominal]
      exact ⟨tree.isPrefix_nominal_of_discover begun.found member,
        (stand path member).2 separate.source⟩
  · refine begun.grown.onward tree ?_
    rintro q (rfl | ⟨report, wanted, -⟩)
    · exact separate.journalOff
    · simp [unreported] at wanted

end Run

section

variable {clock : Nat → String} {options : Options} {prober : Prober} {printer : Printer} {d : Disk}
  (tree : d.WellFormed) (real : options.dryRun = false)
  (unhindered : Unhindered clock options prober printer d)
include tree real unhindered

variable (traversed : discover d options.selection options.source =
    .ok ((batchTurns clock options prober printer d).map Visit.path)) {visit : Visit}
  (member : visit ∈ batchTurns clock options prober printer d)
include traversed member

end

end MusicFiling
