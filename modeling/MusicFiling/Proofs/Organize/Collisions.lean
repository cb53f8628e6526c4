import MusicFiling.Proofs.Organize.Copying
import MusicFiling.Proofs.Organize.Repeat

/-!
# Files with one destination

Several files of a batch may claim one destination. If the batch copies, the first of them has it:
its copy stands in the way of all others. If the first one is not copied, something stands at the
destination or a file stands on the way to it, and since nothing vanishes while files are copied,
none of the others is copied either.
-/

namespace MusicFiling

open Disk

namespace Run

/-- A path through a file stays one. -/
theorem Filled.blocked {run run' : Run} (filled : Filled run run') {destination : Path}
    (blocked : ¬run.disk.Passable destination) : ¬run'.disk.Passable destination := by
  rintro ⟨usable, clear⟩
  refine blocked ⟨usable, fun q above proper => ?_⟩
  by_contra stands
  rw [filled.later.nominal] at clear
  exact filled.file q stands (clear q above proper)

/-- A file that is copied to a destination is there afterwards. -/
theorem taken_of_copied {time : String} {options : Options} {prober : Prober}
    (copies : options.action = .copy) (target : options.target.Direct) {run run' : Run}
    {path destination : Path} {op : Operation} (tree : run.disk.WellFormed)
    (planned : planDestination options prober run.disk path = .ok destination)
    (turn : Turn time options prober run path (some op) run') :
    destination.Usable ∧ run'.disk.file? (run.disk.nominal destination) ≠ none ∧
      (¬run.Writing (run.disk.nominal destination) →
        run'.disk.file? (run.disk.nominal destination) =
          run.disk.file? (run.disk.nominal path)) := by
  have filled := turn.filled copies target tree
  cases turn with
  | @carried destination' origin goal content delivered _ carried =>
    obtain rfl : destination' = destination := Except.ok.inj (carried.planned.symm.trans planned)
    obtain ⟨rfl, -, usable⟩ := carried.goal_of_grounded tree (grounded_of_direct run.disk target)
    have arrived : delivered.file? (run.disk.nominal destination') = some content := by
      rw [carried.file_delivered tree, if_pos rfl]
    obtain ⟨content', stands⟩ := carried.settled.file arrived
    refine ⟨usable, by simp [stands], ?_⟩
    intro unwritten
    rw [carried.stands, carried.settled.file?_eq (filled.writing ▸ unwritten), arrived]

end Run

/-- What keeps a file from its destination keeps later ones from it too. -/
theorem Stuck.filled {options : Options} {prober : Prober} {run run' : Run}
    {path path' destination : Path} {status : Status}
    (stuck : Stuck options prober run.disk path status) (filled : Run.Filled run run')
    (planned : planDestination options prober run.disk path = .ok destination)
    (planned' : planDestination options prober run'.disk path' = .ok destination)
    (clean : path'.hasNull = false) : Stuck options prober run'.disk path' status := by
  cases stuck with
  | refused refused => simp [planned] at refused
  | blocked same blocked =>
    obtain rfl := Except.ok.inj (same.symm.trans planned)
    exact .blocked planned' (filled.blocked blocked)
  | taken same _ usable present =>
    obtain rfl := Except.ok.inj (same.symm.trans planned)
    refine .taken planned' clean usable ?_
    rw [filled.later.nominal]
    exact filled.present present

/-- Whether a turn is on a file that goes to a destination. -/
def Visit.Claims (options : Options) (prober : Prober) (destination : Path) (visit : Visit) :
    Bool :=
  (planDestination options prober visit.run.disk visit.path).toOption = some destination

private theorem Visit.claims_iff {options : Options} {prober : Prober} {destination : Path}
    {visit : Visit} : visit.Claims options prober destination = true ↔
      planDestination options prober visit.run.disk visit.path = .ok destination := by
  unfold Claims
  cases planDestination options prober visit.run.disk visit.path with
  | error refusal => simp [Except.toOption]
  | ok other => simp [Except.toOption]

namespace Run

/-- The operation on a file whose destination is known. -/
theorem operation?_of_planned {options : Options} {prober : Prober} {run : Run}
    {path destination : Path} {rest : List Path} (ready : run.Ready (path :: rest))
    (planned : planDestination options prober run.disk path = .ok destination)
    (carried : (run.operation? options prober path).isSome) :
    run.operation? options prober path = some ⟨options.action, path, destination⟩ := by
  obtain ⟨content, stands⟩ := ready.standing path List.mem_cons_self
  have turn := handle_turn "" options prober ready.tree stands
  generalize run.operation? options prober path = op at carried turn
  cases turn with
  | still => cases carried
  | carried carried => rw [Except.ok.inj (carried.planned.symm.trans planned)]

/-- What becomes of the files of some turns that all go to one destination: none is copied, or the
    first one is, and then the others find it there. -/
inductive Served (clock : Nat → String) (options : Options) (prober : Prober) :
    List Visit → Prop where
  | none {claims : List Visit}
    (idle : ∀ visit ∈ claims, visit.run.operation? options prober visit.path = none) :
    Served clock options prober claims
  | first {first : Visit} {rest : List Visit}
    (copied : (first.run.operation? options prober first.path).isSome)
    (others : ∀ visit ∈ rest, visit.run.operation? options prober visit.path = none ∧
      (outcome clock options prober visit).2 = .existing) :
    Served clock options prober (first :: rest)

private theorem elsewhere_of_planned {options : Options} {prober : Prober} {d : Disk}
    {path destination : Path} (apart : d.nominal destination ≠ d.nominal path)
    (planned : planDestination options prober d path = .ok destination) :
    d.Elsewhere options prober path := by
  intro other planned'
  obtain rfl := Except.ok.inj (planned'.symm.trans planned)
  exact apart

/-- A run over files in which one destination may be claimed: none of them stands there, and the
    report, if there is one, can be told of each. -/
structure Claimed (options : Options) (destination : Path) (run : Run) (files : List Path) :
    Prop where
  ready : run.Ready files
  direct : ∀ path ∈ files, path.Direct
  apart : ∀ path ∈ files, run.disk.nominal destination ≠ run.disk.nominal path
  legible : run.reportFile = none ∨ options.target.IsText ∧ ∀ path ∈ files, path.IsText

namespace Claimed

variable {clock : Nat → String} {options : Options} {prober : Prober} {destination : Path}
  {run run' : Run} {path : Path} {rest files : List Path} {total index : Nat}

private theorem legible_of_mem (claimed : run.Claimed options destination files)
    (member : path ∈ files)
    {later : Run} (same : later.reportFile = run.reportFile) :
    later.Legible options prober path := by
  rcases claimed.legible with unreported | ⟨text, texts⟩
  · exact .inl (same.trans unreported)
  · exact .inr (textual prober later.disk text (texts path member))

private theorem next {time : String} {op : Option Operation}
    (claimed : run.Claimed options destination (path :: rest))
    (turn : Turn time options prober run path op run') (filled : Filled run run') :
    run'.Claimed options destination rest := by
  refine ⟨claimed.ready.next turn, (List.forall_mem_cons.mp claimed.direct).2, ?_, ?_⟩
  · rw [filled.later.nominal]
    exact (List.forall_mem_cons.mp claimed.apart).2
  · rw [filled.reportFile]
    exact claimed.legible.imp id fun ⟨text, texts⟩ => ⟨text, (List.forall_mem_cons.mp texts).2⟩

section

variable (copies : options.action = .copy) (target : options.target.Direct) (opens : prober.Opens)
  (real : options.dryRun = false)
include copies target opens real

/-- What keeps the files from a destination settles what becomes of those that claim it. -/
theorem outcome_eq (claimed : run.Claimed options destination files)
    (heard : (run.handleAll clock options prober total index files).run.console.Heard)
    {status : Status}
    (stuck : ∀ visit : Visit, Filled run visit.run →
      planDestination options prober visit.run.disk visit.path = .ok destination →
      visit.path.hasNull = false → Stuck options prober visit.run.disk visit.path status) :
    ∀ visit ∈ (run.turns clock options prober total index files).filter
        (Visit.Claims options prober destination),
      visit.run.operation? options prober visit.path = none ∧
        (outcome clock options prober visit).2 = status := by
  intro visit member
  obtain ⟨among, claims⟩ := List.mem_filter.mp member
  have planned := Visit.claims_iff.mp claims
  obtain ⟨⟨rest, ready⟩, filled, selected⟩ :=
    filled_of_mem_turns copies target claimed.ready among
  obtain ⟨content, stands⟩ := ready.standing visit.path List.mem_cons_self
  have led := opens.reach ready.tree (claimed.direct _ selected) planned
  have apart : visit.run.disk.nominal destination ≠ visit.run.disk.nominal visit.path := by
    rw [filled.later.nominal]
    exact claimed.apart _ selected
  obtain ⟨none, told⟩ := (stuck visit filled planned (usable_of_reach led).clean).handled
    ready.tree target (elsewhere_of_planned apart planned) real
    (handle_handled (clock visit.index) options prober ready.tree stands)
  exact ⟨none, told (heard_of_mem_turns heard among)
    (claimed.legible_of_mem selected filled.reportFile)⟩

/-- Once a file was copied to a destination, it stands in the way of the others that claim it. -/
theorem outcome_of_copied {time : String} {op : Operation}
    (claimed : run.Claimed options destination (path :: rest))
    (planned : planDestination options prober run.disk path = .ok destination)
    (turn : Turn time options prober run path (some op) run')
    (heard : (run'.handleAll clock options prober total index rest).run.console.Heard) :
    ∀ visit ∈ (run'.turns clock options prober total index rest).filter
        (Visit.Claims options prober destination),
      visit.run.operation? options prober visit.path = none ∧
        (outcome clock options prober visit).2 = .existing := by
  have filled := turn.filled copies target claimed.ready.tree
  obtain ⟨usable, arrived, -⟩ := taken_of_copied copies target claimed.ready.tree planned turn
  refine (claimed.next turn filled).outcome_eq copies target opens real heard ?_
  intro visit later planned' clean
  refine .taken planned' clean usable (later.present ?_)
  rw [later.later.nominal, filled.later.nominal]
  exact present_of_file? arrived

/-- What keeps a file from its destination keeps all others from it that claim it. -/
theorem outcome_of_idle
    (claimed : run.Claimed options destination (path :: rest))
    (planned : planDestination options prober run.disk path = .ok destination)
    (turn : Turn (clock index) options prober run path none run')
    (idle : run.operation? options prober path = none)
    (told : (run.handle (clock index) options prober path).run.console.Heard)
    (heard : (run'.handleAll clock options prober total (index + 1) rest).run.console.Heard) :
    ∀ visit ∈ (run'.turns clock options prober total (index + 1) rest).filter
        (Visit.Claims options prober destination),
      visit.run.operation? options prober visit.path = none := by
  have filled := turn.filled copies target claimed.ready.tree
  obtain ⟨content, stands⟩ := claimed.ready.standing path List.mem_cons_self
  have stuck := stuck_of_none claimed.ready.tree target
    (elsewhere_of_planned (claimed.apart path List.mem_cons_self) planned) real
    (handle_handled (clock index) options prober claimed.ready.tree stands) stands opens
    (claimed.direct path List.mem_cons_self) idle told
    (claimed.legible_of_mem List.mem_cons_self rfl)
  have all := (claimed.next turn filled).outcome_eq copies target opens real heard
    fun visit later planned' clean => stuck.filled (filled.trans later) planned planned' clean
  exact fun visit member => (all visit member).1

/-- The first of the files that claim a destination is copied, and the others find it there, or none
    of them is copied. The induction is on the files that are still to be handled. -/
theorem served (claimed : run.Claimed options destination files)
    (heard : (run.handleAll clock options prober total index files).run.console.Heard) :
    Served clock options prober ((run.turns clock options prober total index files).filter
      (Visit.Claims options prober destination)) := by
  induction files generalizing run index with
  | nil => exact .none (by simp [turns])
  | cons path rest ih =>
    have told := heard_handleNext heard
    have ended := handleNext_outcome clock options prober told
    have turn : Turn (clock index) options prober run path (run.operation? options prober path)
        (run.handleNext clock options prober total index path).run :=
      claimed.ready.turn total index
    rw [Run.handleAll, Stepped.next_of_ok ended] at heard
    simp only [turns, ended]
    by_cases claims : Visit.Claims options prober destination ⟨run, index, path⟩ = true
    · rw [List.filter_cons_of_pos claims]
      have planned := Visit.claims_iff.mp claims
      cases carried : run.operation? options prober path with
      | some op =>
        rw [carried] at turn
        exact .first (by simp [carried])
          (claimed.outcome_of_copied copies target opens real planned turn heard)
      | none =>
        rw [carried] at turn
        have before := (handleNext_steady clock options prober total index run path).console
        exact .none (List.forall_mem_cons.mpr ⟨carried, claimed.outcome_of_idle copies target opens
          real planned turn carried (before.heard told) heard⟩)
    · rw [List.filter_cons_of_neg claims]
      exact ih (claimed.next turn (turn.filled copies target claimed.ready.tree)) heard

end

end Claimed

/-- What was copied to a destination stands there when all files are handled; the induction is on the
    files that are still to be handled. -/
theorem file?_of_copied {clock : Nat → String} {options : Options} {prober : Prober}
    (copies : options.action = .copy) (target : options.target.Direct) {run : Run}
    {files : List Path} {destination : Path} {total index : Nat} (ready : run.Ready files)
    (unwritten : ¬run.Writing (run.disk.nominal destination)) {visit : Visit}
    (member : visit ∈ run.turns clock options prober total index files)
    (claims : visit.Claims options prober destination)
    (copied : (visit.run.operation? options prober visit.path).isSome) :
    destination.Usable ∧
      (run.handleAll clock options prober total index files).run.disk.file?
        (run.disk.nominal destination) =
          visit.run.disk.file? (visit.run.disk.nominal visit.path) := by
  induction files generalizing run index with
  | nil => cases member
  | cons path rest ih =>
    have turn : Turn (clock index) options prober run path (run.operation? options prober path)
        (run.handleNext clock options prober total index path).run := ready.turn total index
    have filled := turn.filled copies target ready.tree
    have ready' := ready.next turn
    have kept := filled.writing ▸ unwritten
    rw [turns] at member
    rw [Run.handleAll]
    rcases List.mem_cons.mp member with rfl | later
    · obtain ⟨op, carried⟩ := Option.isSome_iff_exists.mp copied
      rw [carried] at turn
      obtain ⟨usable, -, text⟩ :=
        taken_of_copied copies target ready.tree (Visit.claims_iff.mp claims) turn
      obtain ⟨content, stands⟩ := ready.standing path List.mem_cons_self
      have arrived := text unwritten
      refine ⟨usable, ?_⟩
      rw [stands] at arrived ⊢
      cases ended : (run.handleNext clock options prober total index path).outcome with
      | error mishap => rwa [Stepped.next_of_error ended]
      | ok _ =>
        rw [Stepped.next_of_ok ended]
        have after : Filled (run.handleNext clock options prober total index path).run
            ((run.handleNext clock options prober total index path).run.handleAll clock options
              prober total (index + 1) rest).run :=
          handleAll_filled copies target ready' total (index + 1)
        exact after.content _ content arrived kept
    · cases ended : (run.handleNext clock options prober total index path).outcome with
      | error mishap => simp [ended] at later
      | ok _ =>
        rw [Stepped.next_of_ok ended, ← filled.later.nominal]
        simp only [ended] at later
        exact ih ready' (by rwa [filled.later.nominal]) later

end Run

section

variable (clock : Nat → String) (options : Options) (prober : Prober) (printer : Printer) (d : Disk)
  (destination : Path)

/-- The turns of a batch on files that go to a destination, in order. -/
def claimants : List Visit :=
  (batchTurns clock options prober printer d).filter (Visit.Claims options prober destination)

/-- Of the files that go to one destination none is copied, or the first one is; then the others
    find it there, and it is there in the end. The first one is counted as copied if its path can be
    written to the journal. -/
inductive FirstServed : Prop where
  | none (idle : ∀ visit ∈ claimants clock options prober printer d destination,
      visit.run.operation? options prober visit.path = none ∧
        (Run.outcome clock options prober visit).2 ≠ .copied)
  | first {first : Visit} {rest : List Visit} {content : List UInt8}
    (claimed : claimants clock options prober printer d destination = first :: rest)
    (copied : first.run.operation? options prober first.path =
      some ⟨.copy, first.path, destination⟩)
    (counted : options.target.IsText → first.path.IsText →
      (Run.outcome clock options prober first).2 = .copied)
    (others : ∀ visit ∈ rest, visit.run.operation? options prober visit.path = none ∧
      (Run.outcome clock options prober visit).2 = .existing)
    (stands : d.file? (d.nominal first.path) = some content)
    (arrived : (organize clock options prober printer d).disk.find? destination =
      some (.file content))

end

section

variable {clock : Nat → String} {options : Options} {prober : Prober} {printer : Printer} {d : Disk}
  {destination : Path} {run : Run} {files : List Path}
  (finished : BatchFinished clock options prober printer d run files)
  (tree : d.WellFormed) (copies : options.action = .copy) (target : options.target.Direct)
include finished tree copies target

/-- The files of a batch that copies still have their contents when they are handled. -/
theorem BatchFinished.file?_turn
    (apart : ∀ path ∈ files, ¬Run.Reserved options d (d.nominal path)) {visit : Visit}
    (member : visit ∈ batchTurns clock options prober printer d) :
    visit.path ∈ files ∧ ∃ content, d.file? (d.nominal visit.path) = some content ∧
      visit.run.disk.file? (d.nominal visit.path) = some content := by
  have begun := finished.begun
  rw [finished.turns] at member
  obtain ⟨-, filled, among⟩ :=
    Run.filled_of_mem_turns copies target (begun.ready tree) member
  obtain ⟨⟨content, stands⟩, -⟩ := (tree.discover_spec begun.found).1 visit.path among
  have unreserved := apart visit.path among
  refine ⟨among, content, stands, filled.content _ content ?_ (begun.unwritten unreserved)⟩
  rw [begun.grown.file?_eq unreserved, stands]

/-- What was copied to a destination stands there in the end. -/
theorem BatchFinished.find?_of_copied
    (apart : ∀ path ∈ files, ¬Run.Reserved options d (d.nominal path))
    (unreserved : ¬Run.Reserved options d (d.nominal destination)) {visit : Visit}
    (member : visit ∈ claimants clock options prober printer d destination)
    (copied : (visit.run.operation? options prober visit.path).isSome) :
    ∃ content, d.file? (d.nominal visit.path) = some content ∧
      (organize clock options prober printer d).disk.find? destination = some (.file content) := by
  obtain ⟨among, claims⟩ := List.mem_filter.mp member
  obtain ⟨-, content, stands, stands'⟩ := finished.file?_turn tree copies target apart among
  have begun := finished.begun
  have nominal : run.disk.nominal = d.nominal := funext begun.grown.nominal
  have unwritten := begun.unwritten unreserved
  have filled : Run.Filled run
      (run.handleAll clock options prober files.length 1 files).run :=
    Run.handleAll_filled copies target (begun.ready tree) files.length 1
  have later := later_of_mem_batchTurns tree among
  have direct := Run.direct_of_planDestination (Visit.claims_iff.mp claims) target
  rw [finished.turns] at among
  obtain ⟨usable, arrived⟩ := Run.file?_of_copied copies target (begun.ready tree)
    (by rwa [nominal]) among claims copied
  rw [nominal, later.nominal, stands'] at arrived
  refine ⟨content, stands, ?_⟩
  have ended := organize_later clock options prober printer tree
  rw [ended.tree.find?_direct direct usable, ended.nominal, ← file?_eq_some_iff,
    finished.closed.file?_eq ?_, arrived]
  intro reporting
  refine unwritten ?_
  rw [← filled.writing]
  exact .inr reporting

end

/-- What the destination of a file is does not depend on when it is handled. -/
theorem planDestination_turn {clock : Nat → String} {options : Options} {prober : Prober}
    {printer : Printer} {d : Disk} (tree : d.WellFormed) (faithful : prober.Faithful)
    (copies : options.action = .copy) (source : options.source.Direct)
    (target : options.target.Direct)
    (apart : ∀ files, discover d options.selection options.source = .ok files →
      ∀ path ∈ files, ¬Run.Reserved options d (d.nominal path)) {visit : Visit}
    (member : visit ∈ batchTurns clock options prober printer d) :
    planDestination options prober visit.run.disk visit.path =
      planDestination options prober d visit.path := by
  rcases organize_cases clock options prober printer d with
    ⟨error, stopped⟩ | ⟨run, files, finished⟩
  · rw [stopped.turns] at member
    cases member
  · have found := finished.begun.found
    obtain ⟨selected, content, stands, stands'⟩ :=
      finished.file?_turn tree copies target (apart files found) member
    obtain ⟨-, direct⟩ := (tree.discover_spec found).1 visit.path selected
    exact planDestination_congr options faithful (direct source)
      (later_of_mem_batchTurns tree member).working stands stands'

section

variable {clock : Nat → String} {options : Options} {prober : Prober} {printer : Printer} {d : Disk}
  {destination : Path} (tree : d.WellFormed) (copies : options.action = .copy)
  (real : options.dryRun = false)
include tree copies real

omit copies in
/-- A file that is not copied is not counted as copied. -/
theorem outcome_of_none {visit : Visit}
    (member : visit ∈ batchTurns clock options prober printer d)
    (none : visit.run.operation? options prober visit.path = none) :
    (Run.outcome clock options prober visit).2 ≠ .copied := by
  obtain ⟨rest, ready⟩ := exists_ready_of_mem_batchTurns tree member
  obtain ⟨content, stands⟩ := ready.standing visit.path List.mem_cons_self
  have handled := Run.handle_handled (clock visit.index) options prober ready.tree stands
  have told := handled.status_of_none real none
  intro copied
  have same : (visit.run.handle (clock visit.index) options prober visit.path).status = .copied :=
    copied
  simp [same] at told

/-- A file that is copied is counted so if its path can be written to the journal. -/
theorem outcome_of_some (heard : (organize clock options prober printer d).console.Heard)
    {visit : Visit} (member : visit ∈ batchTurns clock options prober printer d)
    (copied : (visit.run.operation? options prober visit.path).isSome)
    (text : options.target.IsText) (text' : visit.path.IsText) :
    (Run.outcome clock options prober visit).2 = .copied := by
  obtain ⟨rest, ready⟩ := exists_ready_of_mem_batchTurns tree member
  have done := (ready.isSome_iff prober real text text'
    (heard_of_mem_batchTurns heard member)).mp copied
  rw [copies] at done
  exact done

omit copies real in
/-- None of the files stands at a vacant destination. -/
theorem BatchFinished.claimed {run : Run} {files : List Path}
    (finished : BatchFinished clock options prober printer d run files)
    (source : options.source.Direct) (usable : destination.Usable) (direct : destination.Direct)
    (vacant : d.find? destination = none)
    (legible : options.report = none ∨ options.target.IsText ∧ ∀ path ∈ files, path.IsText) :
    run.Claimed options destination files := by
  have begun := finished.begun
  have nominal : run.disk.nominal = d.nominal := funext begun.grown.nominal
  have stand := (tree.discover_spec begun.found).1
  rw [tree.find?_direct direct usable] at vacant
  refine ⟨begun.ready tree, fun path selected => (stand path selected).2 source, ?_, ?_⟩
  · intro path selected same
    obtain ⟨⟨content, stands⟩, -⟩ := stand path selected
    rw [nominal] at same
    rw [← same, file?_eq_none_of_vacant vacant] at stands
    cases stands
  · refine legible.imp (fun unreported => ?_) id
    rw [begun.reportFile, unreported, Option.map_none]

end

/-- A destination at which nothing stood goes to the first file that claims it. -/
theorem organize_firstServed (clock : Nat → String) {options : Options} {prober : Prober}
    {printer : Printer} {d : Disk} (tree : d.WellFormed) (opens : prober.Opens)
    (copies : options.action = .copy) (real : options.dryRun = false)
    (source : options.source.Direct) (target : options.target.Direct)
    (apart : ∀ files, discover d options.selection options.source = .ok files →
      ∀ path ∈ files, ¬Run.Reserved options d (d.nominal path))
    {destination : Path} (vacant : d.find? destination = none)
    (unreserved : ¬Run.Reserved options d (d.nominal destination))
    (heard : (organize clock options prober printer d).console.Heard)
    (legible : options.report = none ∨ options.target.IsText ∧
      ∀ files, discover d options.selection options.source = .ok files →
        ∀ path ∈ files, path.IsText) :
    FirstServed clock options prober printer d destination := by
  rcases organize_cases clock options prober printer d with
    ⟨error, stopped⟩ | ⟨run, files, finished⟩
  · refine .none ?_
    simp [claimants, stopped.turns]
  · have found := finished.begun.found
    have among : ∀ visit ∈ claimants clock options prober printer d destination,
        visit ∈ batchTurns clock options prober printer d :=
      fun visit member => (List.mem_filter.mp member).1
    have idle : (∀ visit ∈ claimants clock options prober printer d destination,
        visit.run.operation? options prober visit.path = none) →
        FirstServed clock options prober printer d destination :=
      fun none => .none fun visit member =>
        ⟨none visit member, outcome_of_none tree real (among visit member)
          (none visit member)⟩
    by_cases served : ∀ visit ∈ claimants clock options prober printer d destination,
        visit.run.operation? options prober visit.path = none
    · exact idle served
    · push Not at served
      obtain ⟨visit, member, carried⟩ := served
      have claims := (List.mem_filter.mp member).2
      have direct := Run.direct_of_planDestination (Visit.claims_iff.mp claims) target
      have within := among visit member
      rw [finished.turns] at within
      have unwritten : ¬run.Writing (run.disk.nominal destination) := by
        rw [finished.begun.grown.nominal]
        exact finished.begun.unwritten unreserved
      obtain ⟨usable, -⟩ := Run.file?_of_copied copies target (finished.begun.ready tree) unwritten
        within claims (Option.isSome_iff_ne_none.mpr carried)
      have claimed := finished.claimed tree source usable direct vacant
        (legible.imp id fun ⟨text, texts⟩ => ⟨text, texts files found⟩)
      have turns := claimed.served copies target opens real (finished.heard heard)
      rw [← finished.turns, ← claimants] at turns
      generalize claimed' : claimants clock options prober printer d destination = claims' at turns
      cases turns with
      | none none => exact idle (claimed' ▸ none)
      | @first first rest copied others =>
        have member' : first ∈ claimants clock options prober printer d destination := by
          simp [claimed']
        obtain ⟨content, stands, arrived⟩ := finished.find?_of_copied tree copies target
          (apart files found) unreserved member' copied
        obtain ⟨rest', ready⟩ := exists_ready_of_mem_batchTurns tree (among first member')
        have operation := Run.operation?_of_planned ready
          (Visit.claims_iff.mp (List.mem_filter.mp member').2) copied
        rw [copies] at operation
        exact .first claimed' operation (outcome_of_some tree copies real heard
          (among first member') copied) others stands arrived

theorem firstServed_twins :
    Twins.disk.WellFormed ∧ Prober.reader.Opens ∧ Twins.copying.action = .copy ∧
      Twins.copying.dryRun = false ∧ Twins.copying.source.Direct ∧ Twins.copying.target.Direct ∧
      discover Twins.disk Twins.copying.selection Twins.copying.source = .ok Twins.songs ∧
      (∀ path ∈ Twins.songs,
        ¬Run.Reserved Twins.copying Twins.disk (Twins.disk.nominal path)) ∧
      Twins.disk.find? (Path.ofString "lib/song.mp3") = none ∧
      ¬Run.Reserved Twins.copying Twins.disk
        (Twins.disk.nominal (Path.ofString "lib/song.mp3")) ∧
      (organize (fun _ => "") Twins.copying Prober.reader .patient Twins.disk).console.Heard ∧
      Twins.copying.report = none ∧
      (claimants (fun _ => "") Twins.copying Prober.reader .patient Twins.disk
          (Path.ofString "lib/song.mp3")).map
          (Run.outcome (fun _ => "") Twins.copying Prober.reader) =
        [(Path.ofString "music/a.mp3", .copied), (Path.ofString "music/b.mp3", .existing)] ∧
      FirstServed (fun _ => "") Twins.copying Prober.reader .patient Twins.disk
        (Path.ofString "lib/song.mp3") := by
  have tree : Twins.disk.WellFormed := by decide +kernel
  have source : Twins.copying.source.Direct := by decide +kernel
  have target : Twins.copying.target.Direct := by decide +kernel
  have found : discover Twins.disk Twins.copying.selection Twins.copying.source =
      .ok Twins.songs := Twins.discover_songs
  have unreserved : ∀ q, q ≠ Twins.disk.nominal Twins.copying.journal →
      ¬Run.Reserved Twins.copying Twins.disk q := by
    rintro q other (journal | ⟨report, wanted, -⟩)
    · exact other journal
    · cases wanted
  have apart : ∀ path ∈ Twins.songs,
      ¬Run.Reserved Twins.copying Twins.disk (Twins.disk.nominal path) := by
    have others : ∀ path ∈ Twins.songs,
        Twins.disk.nominal path ≠ Twins.disk.nominal Twins.copying.journal := by decide +kernel
    exact fun path selected => unreserved _ (others path selected)
  have vacant : Twins.disk.find? (Path.ofString "lib/song.mp3") = none := by decide +kernel
  have free := unreserved (Twins.disk.nominal (Path.ofString "lib/song.mp3")) (by decide +kernel)
  have heard : (organize (fun _ => "") Twins.copying Prober.reader .patient
      Twins.disk).console.Heard := by
    unfold organize beginBatch Run.prepare
    simp only [found]
    decide +kernel
  have claims : (claimants (fun _ => "") Twins.copying Prober.reader .patient Twins.disk
      (Path.ofString "lib/song.mp3")).map (Run.outcome (fun _ => "") Twins.copying Prober.reader) =
      [(Path.ofString "music/a.mp3", .copied), (Path.ofString "music/b.mp3", .existing)] := by
    unfold claimants batchTurns beginBatch Run.prepare
    simp only [found]
    decide +kernel
  refine ⟨tree, Prober.reader_opens, rfl, rfl, source, target, found, apart, vacant, free, heard,
    rfl, claims, ?_⟩
  refine organize_firstServed (fun _ => "") tree Prober.reader_opens rfl rfl source target ?_ vacant
    free heard (.inl rfl)
  intro files same
  obtain rfl := Except.ok.inj (found.symm.trans same)
  exact apart

end MusicFiling
