import MusicFiling.Proofs.Disk.Within
import MusicFiling.Proofs.Organize.Replay
import MusicFiling.Proofs.Undo.Inverse
import MusicFiling.Proofs.Undo.Safety

/-!
# Undoing again

Undoing leaves the journal as it is, so it can be undone again. Whatever the first time did to files
and folders, the journal is still read the same, and the second time changes nothing exactly if
something stands against each of its operations. Where every file is back at its place this depends
on the files from before the operations alone: a file that stood at the destination of an operation
is taken for what the operation put there.
-/

namespace MusicFiling

open Disk

namespace Undo

/-- Something stands against undoing an operation. -/
def Spent (d : Disk) (op : Operation) : Prop :=
  ∃ reason, obstacle d op = .ok (some reason)

/-- An operation that is skipped leaves the disk alone, and the next one is handled unless the
    printer refuses to tell why. -/
theorem step_spent {s : Progress} {op : Operation} (spent : Spent s.disk op)
    (heard : (step .sure s op).1.console.Heard) :
    ∃ s', step .sure s op = (s', none) ∧ s'.disk = s.disk ∧ s'.undone = s.undone := by
  obtain ⟨reason, against⟩ := spent
  have said : step .sure s op = s.say reason := by simp only [step, against]
  rw [said] at heard ⊢
  obtain ⟨console, -, ⟨told, -⟩ | ⟨_, told, refused⟩⟩ := s.say_cases reason
  · exact ⟨_, told, rfl, rfl⟩
  · rw [told] at heard
    exact absurd heard refused

/-- Operations that are all skipped leave the disk alone. -/
theorem steps_spent {s : Progress} {ops : List Operation} (spent : ∀ op ∈ ops, Spent s.disk op)
    (heard : (steps .sure s ops).1.console.Heard) :
    ∃ s', steps .sure s ops = (s', none) ∧ s'.disk = s.disk ∧ s'.undone = s.undone := by
  induction ops generalizing s with
  | nil => exact ⟨s, rfl, rfl, rfl⟩
  | cons op rest ih =>
    obtain ⟨first, others⟩ := List.forall_mem_cons.mp spent
    obtain ⟨s', stepped, disk, counted⟩ := step_spent first (heard_step heard)
    simp only [steps, stepped] at heard ⊢
    obtain ⟨s'', finished, disk', counted'⟩ := ih (disk ▸ others) heard
    exact ⟨s'', finished, disk'.trans disk, counted'.trans counted⟩

/-- An operation that is not undone though no question is asked is skipped. -/
theorem spent_of_not_allowed {s : Progress} {op : Operation} (refused : ¬Allowed .sure s op)
    {reason : Option (List Letter)} (asked : obstacle s.disk op = .ok reason) :
    Spent s.disk op := by
  cases reason with
  | some reason => exact ⟨reason, asked⟩
  | none => exact absurd ⟨asked, rfl, .inl rfl⟩ refused

/-- Nothing is undone only if all operations are skipped. -/
theorem spent_of_steps {s s' : Progress} {ops : List Operation}
    (finished : steps .sure s ops = (s', none)) :
    s.undone ≤ s'.undone ∧ (s'.undone = s.undone → ∀ op ∈ ops, Spent s.disk op) := by
  induction ops generalizing s with
  | nil =>
    obtain rfl : s = s' := by simpa [steps] using finished
    exact ⟨Nat.le_refl _, by simp⟩
  | cons op rest ih =>
    have handled := step_handled .sure s op
    unfold steps at finished
    generalize step .sure s op = outcome at handled finished
    cases handled with
    | @left s₁ stop refused disk uncounted before asked =>
      cases stop with
      | some stop => cases finished
      | none =>
        -- Nothing was changed, so the others are judged on the disk that this one was judged on.
        obtain ⟨reason, against⟩ := asked rfl
        obtain ⟨more, all⟩ := ih finished
        rw [disk] at all
        rw [uncounted] at more all
        exact ⟨more, fun same =>
          List.forall_mem_cons.mpr ⟨spent_of_not_allowed refused against, all same⟩⟩
    | failed => cases finished
    | done allowed done disk counted =>
      obtain ⟨more, -⟩ := ih finished
      refine ⟨by omega, fun same => ?_⟩
      omega
    | untold => cases finished

/-- Undoing the journal changes nothing. -/
def Idle (journal : Path) (answers : List String) (printer : Printer) (d : Disk) : Prop :=
  (undo journal .sure answers printer d).result = .ok 0 ∧
    (undo journal .sure answers printer d).disk = d

/-- A journal that can be read is undone without a change exactly if all of its operations are
    skipped, provided that the printer refuses nothing. -/
theorem undo_idle_iff {journal : Path} {d : Disk} {ops : List Operation} {entry : Entry}
    (present : d.at? journal = .ok (some entry)) (read : Journal.read d journal = .ok ops)
    {answers : List String} {printer : Printer}
    (heard : (undo journal .sure answers printer d).console.Heard) :
    Idle journal answers printer d ↔ ∀ op ∈ ops, Spent d op := by
  rw [undo_eq present read] at heard
  unfold Idle
  rw [undo_eq present read]
  constructor
  · rintro ⟨nothing, -⟩ op member
    cases outcome : steps .sure ⟨d, answers, ⟨printer, []⟩, 0⟩ ops.reverse with
    | mk s stop =>
      cases stop with
      | some stop => simp [outcome] at nothing
      | none =>
        have counted : s.undone = 0 := by simpa [outcome] using nothing
        obtain ⟨-, all⟩ := spent_of_steps outcome
        exact all counted op (List.mem_reverse.mpr member)
  · intro spent
    obtain ⟨s, finished, disk, counted⟩ := @steps_spent ⟨d, answers, ⟨printer, []⟩, 0⟩ ops.reverse
      (fun op member => spent op (List.mem_reverse.mp member)) heard
    simp only [finished]
    exact ⟨congrArg Except.ok counted, disk⟩

/-- An operation between places neither of which is a given place or above it. -/
structure Aside (place : Path → Place) (kept : Place) (op : Operation) : Prop where
  source : ¬place op.source <+: kept
  destination : ¬place op.destination <+: kept

instance (place : Path → Place) (kept : Place) (op : Operation) : Decidable (Aside place kept op) :=
  decidable_of_iff (¬place op.source <+: kept ∧ ¬place op.destination <+: kept)
    ⟨fun ⟨source, destination⟩ => ⟨source, destination⟩,
      fun ⟨source, destination⟩ => ⟨source, destination⟩⟩

private theorem revert_within (d : Disk) (op : Operation) :
    Within (d.nominal op.destination) (d.nominal op.source) d (revert d op).disk := by
  unfold revert
  cases op.action with
  | copy => exact unlink_within d op.destination (.inl List.prefix_rfl)
  | move =>
    have grown := makeFolders_grows d op.source.parent
    refine next_within (grown.within _ _) ?_
    have moved := move_within (d.makeFolders op.source.parent).disk op.destination op.source
    rwa [grown.nominal, grown.nominal] at moved

theorem step_within (mode : Mode) (s : Progress) (op : Operation) :
    Within (s.disk.nominal op.destination) (s.disk.nominal op.source) s.disk
      (step mode s op).1.disk := by
  have handled := step_handled mode s op
  by_cases allowed : Allowed mode s op
  · rw [handled.disk_of_allowed allowed]
    exact revert_within s.disk op
  · rw [handled.disk_of_not_allowed allowed]
    exact Within.refl _ _ s.disk

/-- Undoing operations leaves the journal, the folders above it and the working folder as they
    are. -/
theorem steps_aside {journal : Place} {s : Progress} {ops : List Operation}
    (aside : ∀ op ∈ ops, Aside s.disk.nominal journal op)
    (steady : ∀ op ∈ ops, Aside s.disk.nominal s.disk.workingFolder op) :
    (steps .sure s ops).1.disk.workingFolder = s.disk.workingFolder ∧
      ∀ q, q <+: journal → s.disk.entry? q ≠ none →
        (steps .sure s ops).1.disk.entry? q = s.disk.entry? q := by
  induction ops generalizing s with
  | nil => exact ⟨rfl, fun _ _ _ => rfl⟩
  | cons op rest ih =>
    obtain ⟨here, later⟩ := List.forall_mem_cons.mp aside
    obtain ⟨apart, others⟩ := List.forall_mem_cons.mp steady
    have within := step_within .sure s op
    have kept : ∀ q, q <+: journal → s.disk.entry? q ≠ none →
        (step .sure s op).1.disk.entry? q = s.disk.entry? q :=
      fun q above => within.entries q (fun below => here.destination (below.trans above))
        fun below => here.source (below.trans above)
    unfold steps
    generalize step .sure s op = outcome at within kept ⊢
    obtain ⟨s', stop⟩ := outcome
    cases stop with
    | some stop => exact ⟨within.working apart.destination, kept⟩
    | none =>
      have same := within.working apart.destination
      rw [← within.nominal apart.destination] at later others
      rw [← same] at others
      obtain ⟨working, further⟩ := ih later others
      refine ⟨working.trans same, ?_⟩
      intro q above present
      have same := kept q above present
      exact (further q above (same ▸ present)).trans same

/-- A journal is read the same once its operations are undone. -/
theorem undo_read {journal : Path} {d : Disk} {place : Place} {content : List UInt8}
    {ops : List Operation} (direct : journal.Direct) (led : d.reach journal = .ok place)
    (stands : d.entry? place = some (.file content)) (read : Journal.read d journal = .ok ops)
    (aside : ∀ op ∈ ops, Aside d.nominal place op)
    (steady : ∀ op ∈ ops, Aside d.nominal d.workingFolder op) (answers : List String)
    (printer : Printer) :
    let after := (undo journal .sure answers printer d).disk
    after.at? journal = .ok (some (.file content)) ∧ Journal.read after journal = .ok ops := by
  have present : d.at? journal = .ok (some (.file content)) := by simp [at?, led, stands]
  have after : (undo journal .sure answers printer d).disk =
      (steps .sure ⟨d, answers, ⟨printer, []⟩, 0⟩ ops.reverse).1.disk := by
    rw [undo_eq present read]
  obtain ⟨working, kept⟩ := @steps_aside place ⟨d, answers, ⟨printer, []⟩, 0⟩ ops.reverse
    (fun op member => aside op (List.mem_reverse.mp member))
    fun op member => steady op (List.mem_reverse.mp member)
  rw [← after] at working kept
  generalize (undo journal .sure answers printer d).disk = d' at working kept
  have here : place = d.nominal journal := reach_eq_nominal led
  have same : d'.entry? place = some (.file content) :=
    (kept place List.prefix_rfl (by simp [stands])).trans stands
  have led' : d'.reach journal = .ok place := by
    refine reach_mono_way working direct ?_ led
    intro q above folder
    rw [kept q (here ▸ above) (by simp [folder]), folder]
  refine ⟨by simp [at?, led', same], ?_⟩
  have opened : d.openForReading journal = .ok (place, content) :=
    openForReading_ok.mpr ⟨led, stands⟩
  have opened' : d'.openForReading journal = .ok (place, content) :=
    openForReading_ok.mpr ⟨led', same⟩
  rw [Journal.read, opened']
  rwa [Journal.read, opened] at read

end Undo

namespace Run

variable {clock : Nat → String} {options : Options} {prober : Prober} {run run' : Run}

/-- A file is carried neither from nor to a place above something else that stands. -/
theorem Delivered.aside {path destination : Path} {origin goal : Place} {content : List UInt8}
    {delivered : Disk}
    (arrived : Delivered options prober run path destination origin goal content delivered)
    (tree : run.disk.WellFormed) (target : options.target.Direct) {kept : Place}
    (present : run.disk.entry? kept ≠ none) (apart : run.disk.nominal path ≠ kept) :
    Undo.Aside run.disk.nominal kept ⟨options.action, path, destination⟩ := by
  obtain ⟨-, -, usable⟩ := arrived.goal_of_grounded tree (grounded_of_direct run.disk target)
  have vacant : run.disk.entry? (run.disk.nominal destination) = none := by
    have asked := arrived.vacant
    rw [tree.at?_direct (direct_of_planDestination arrived.planned target) usable] at asked
    exact Except.ok.inj asked
  constructor
  · intro above
    exact apart (tree.eq_of_prefix_of_file (file?_eq_some_iff.mp arrived.stands) above
      present).symm
  · intro above
    by_cases same : kept = run.disk.nominal destination
    · exact present (same ▸ vacant)
    · have folder := tree.folder_of_prefix above same present
      simp [vacant] at folder

variable {start : Files} {journal : Place} {past : List UInt8}

/-- The journal that a run has open stands aside from all its operations, and so does the working
    folder. -/
theorem Telling.logged_aside {total : Nat} {files : List Path}
    (telling : run.Telling start journal past []) (ready : run.Ready files)
    (target : options.target.Direct) (apart : ∀ path ∈ files, run.disk.nominal path ≠ journal)
    (text : options.target.IsText) (texts : ∀ path ∈ files, path.IsText) {index : Nat}
    (heard : (run.handleAll clock options prober total index files).run.console.Heard) :
    ∀ op ∈ (run.logged clock options prober total index files).map Prod.snd,
      Undo.Aside run.disk.nominal journal op ∧
        Undo.Aside run.disk.nominal run.disk.workingFolder op := by
  refine (telling.handleAll_each ready target apart text texts ?_ heard).2
  intro run' index path done op run'' telling tree nominal other turn
  have working : run'.disk.workingFolder = run.disk.workingFolder :=
    congrFun nominal ⟨.relative, []⟩
  rw [← nominal] at other ⊢
  rw [← working]
  cases turn with
  | carried carried =>
    have present : run'.disk.entry? journal ≠ none := by
      intro vacant
      simpa [file?_eq_none_of_vacant vacant] using telling.written
    have inFolder : run'.disk.nominal path ≠ run'.disk.workingFolder := by
      intro same
      have file := file?_eq_some_iff.mp carried.stands
      rw [same, tree.working] at file
      cases file
    exact ⟨carried.aside tree target present other,
      carried.aside tree target (by simp [tree.working]) inFolder⟩

end Run

/-- The journal of a batch and the working folder stand aside from all its operations. -/
theorem batchOperations_aside {clock : Nat → String} {options : Options} {prober : Prober}
    {printer : Printer} {d : Disk} (tree : d.WellFormed) (real : options.dryRun = false)
    (unreported : options.report = none) (target : options.target.Direct)
    (unhindered : Unhindered clock options prober printer d)
    (apart : ∀ files, discover d options.selection options.source = .ok files →
      ∀ path ∈ files, d.nominal path ≠ d.nominal options.journal) :
    ∀ op ∈ batchOperations clock options prober printer d,
      Undo.Aside d.nominal (d.nominal options.journal) op ∧
        Undo.Aside d.nominal d.workingFolder op := by
  rcases organize_cases clock options prober printer d with
    ⟨error, stopped⟩ | ⟨run, files, finished⟩
  · simp [batchOperations, stopped.logged]
  · have begun := finished.begun
    have nominal : run.disk.nominal = d.nominal := funext begun.grown.nominal
    have telling := begun.telling real unreported
    have others := apart files begun.found
    rw [← nominal] at telling others ⊢
    rw [batchOperations, finished.logged, ← begun.grown.working]
    exact telling.logged_aside (begun.ready tree) target others unhindered.target
      (unhindered.selected files begun.found) (finished.heard unhindered.heard)

/-- Wherever an operation names a file, there is one in the end unless one was moved away. -/
theorem Operation.Leads.present_or_moved {place : Path → Place} {start files : Files}
    {ops : List Operation} (leads : Leads place start ops files) {op : Operation}
    (member : op ∈ ops) {q : Place} (named : q = place op.source ∨ q = place op.destination) :
    files q ≠ none ∨ ∃ mover ∈ ops, mover.action = .move ∧ place mover.source = q := by
  induction leads with
  | nil => cases member
  | @cons ops last files files' before present vacant carried ih =>
    -- The last operation takes a file away only if it is a move from there.
    have kept : files q ≠ none ∨ q = place last.destination →
        files' q ≠ none ∨ ∃ mover ∈ last :: ops, mover.action = .move ∧ place mover.source = q := by
      intro stood
      rw [carried, carry]
      split_ifs with here taken
      · exact .inl present
      · exact .inr ⟨last, List.mem_cons_self, taken.1, taken.2.symm⟩
      · exact .inl (stood.resolve_right here)
    rcases List.mem_cons.mp member with rfl | member
    · rcases named with rfl | arrived
      · exact kept (.inl present)
      · exact kept (.inr arrived)
    · rcases ih member with stood | ⟨mover, among, moved⟩
      · exact kept (.inl stood)
      · exact .inr ⟨mover, List.mem_cons_of_mem last among, moved⟩

/-- No folder stands where operations name files if none stands where they moved files from. -/
theorem Transcript.not_folder {start : Files} {journal : Place}
    {entries : List (String × Operation)} {d : Disk}
    (transcript : Transcript start journal entries d)
    (uncovered : ∀ e ∈ entries, Undo.Uncovered d e.2) {op : Operation}
    (member : op ∈ entries.map Prod.snd) {q : Place}
    (named : q = d.nominal op.source ∨ q = d.nominal op.destination) :
    d.entry? q ≠ some .folder := by
  intro folder
  rcases transcript.leads.present_or_moved (List.mem_reverse.mpr member) named with
    stands | ⟨mover, among, moved, rfl⟩
  · have noFile : d.file? q = none := file?_eq_none_of_folder folder
    simp [filesOff, noFile] at stands
  · obtain ⟨e, inside, rfl⟩ := List.mem_map.mp (List.mem_reverse.mp among)
    exact uncovered e inside moved folder

namespace Undo

/-- A file stood at the destination of an operation before all operations; if it is taken for what
    the operation put there, nothing stands against undoing it. -/
def Revives (start : Disk) (op : Operation) : Prop :=
  start.file? (start.nominal op.destination) ≠ none ∧
    (op.action = .copy ↔ start.file? (start.nominal op.source) ≠ none)

instance (start : Disk) (op : Operation) : Decidable (Revives start op) :=
  inferInstanceAs (Decidable (_ ∧ _))

section

variable {outset once start : Disk} {journal : Place}
  (rewound : Rewound outset journal (start.filesOff journal) [] once)
  (working : outset.workingFolder = start.workingFolder)
include rewound working

/-- Once all operations are undone, a path leads to the file that stood there before them. -/
theorem Rewound.at?_eq {p : Path} (plain : p.Direct ∧ p.Usable) (off : outset.nominal p ≠ journal)
    (bare : outset.entry? (outset.nominal p) ≠ some .folder) :
    once.at? p = .ok ((start.file? (start.nominal p)).map .file) := by
  have files := rewound.leads.eq_of_nil
  rw [nominal_congr working] at off bare
  have same : once.nominal p = start.nominal p := nominal_congr (rewound.working.trans working) p
  have restored : once.file? (start.nominal p) = start.file? (start.nominal p) := by
    rw [← filesOff_of_ne _ off, files, filesOff_of_ne _ off]
  rw [rewound.tree.at?_direct plain.1 plain.2, same, ← restored]
  rcases once.entry?_cases (start.nominal p) with vacant | folder | ⟨content, file⟩
  · simp [vacant, file?_eq_none_of_vacant vacant]
  · exact absurd ((rewound.folder _).mp folder) bare
  · simp [file, file?_eq_some_iff.mpr file]

/-- Once all operations are undone, one of them is skipped unless it is revived. -/
theorem Rewound.spent_iff {op : Operation} (plain : op.Plain outset journal)
    (bare : ∀ q, q = outset.nominal op.source ∨ q = outset.nominal op.destination →
      outset.entry? q ≠ some .folder) :
    Spent once op ↔ ¬Revives start op := by
  have source := rewound.at?_eq working plain.source plain.sourceOff (bare _ (.inl rfl))
  have destination :=
    rewound.at?_eq working plain.destination plain.destinationOff (bare _ (.inr rfl))
  unfold Spent Revives obstacle
  rw [source, destination]
  cases start.file? (start.nominal op.destination) with
  | none => simp [bind, Except.bind]
  | some content =>
    cases start.file? (start.nominal op.source) with
    | none => cases op.action <;> simp [bind, Except.bind]
    | some content' => cases op.action <;> simp [bind, Except.bind]

end

end Undo

/-- Calls that share a journal which does not exist at the start. -/
structure Sharing (journal : Path) (start : Disk) (calls : List Call) : Prop where
  tree : start.WellFormed
  direct : journal.Direct
  fresh : start.find? journal = none
  fits : ∀ stage ∈ stages calls start, stage.1.Fits stage.2 journal

private theorem later_of_mem_stages {calls : List Call} {d : Disk} (tree : d.WellFormed)
    {stage : Call × Disk} (member : stage ∈ stages calls d) : d.Later stage.2 := by
  induction calls generalizing d with
  | nil => cases member
  | cons call rest ih =>
    rcases List.mem_cons.mp member with rfl | after
    · exact .refl tree
    · have step : d.Later (call.organized d).disk :=
        organize_later call.clock call.options call.prober call.printer tree
      exact step.trans (ih step.tree after)

private theorem Sharing.aside {journal : Path} {start : Disk} {calls : List Call}
    (sharing : Sharing journal start calls) :
    ∀ op ∈ history calls start, Undo.Aside start.nominal (start.nominal journal) op ∧
      Undo.Aside start.nominal start.workingFolder op := by
  intro op member
  obtain ⟨stage, among, done⟩ := List.mem_flatMap.mp member
  have later := later_of_mem_stages sharing.tree among
  have fits := sharing.fits stage among
  have apart := fits.apart
  rw [← fits.shared] at apart
  rw [← later.nominal, ← later.working, ← fits.shared]
  exact batchOperations_aside later.tree fits.real fits.unreported fits.target fits.unhindered apart
    op done

/-- Undoing the journal of any calls again changes nothing exactly if something stands against each
    operation. Where no folder takes the path that a file was moved from, the files at the start
    decide: an operation is undone again if a file stood at its destination, and one at its source
    if it is a copy, but none if it is a move. -/
theorem undo_again {journal : Path} {start : Disk} {calls : List Call}
    (sharing : Sharing journal start calls) {answers answers' : List String}
    {printer printer' : Printer} {undone : Nat}
    (ended : (undo journal .sure answers printer (afterCalls calls start)).result = .ok undone)
    (heard' : (undo journal .sure answers' printer'
      (undo journal .sure answers printer (afterCalls calls start)).disk).console.Heard) :
    let once := (undo journal .sure answers printer (afterCalls calls start)).disk
    (Undo.Idle journal answers' printer' once ↔ ∀ op ∈ history calls start, Undo.Spent once op) ∧
      ((∀ op ∈ history calls start, Undo.Uncovered (afterCalls calls start) op) →
        (Undo.Idle journal answers' printer' once ↔
          ∀ op ∈ history calls start, ¬Undo.Revives start op)) := by
  have aside := sharing.aside
  have heard := heard_of_undone ended
  obtain ⟨tree, direct, fresh, fits⟩ := sharing
  have nothing : Past journal start false [] start := .untouched (.refl tree) rfl
  obtain ⟨past, -⟩ := nothing.all tree direct fresh fits
  rw [Bool.false_or, List.nil_append] at past
  generalize (outcomes calls start).any Organized.returned = opened at past
  generalize afterCalls calls start = d at past ended heard heard' ⊢
  generalize history calls start = ops at past aside ⊢
  cases past with
  | untouched later files =>
    have noFile : journal.Usable → d.file? (d.nominal journal) = none := by
      intro usable
      rw [files, later.nominal]
      exact file?_journal tree direct fresh usable
    obtain ⟨-, stop, stopped⟩ := undo_unopened noFile .sure answers printer
    rw [stopped] at ended
    cases ended
  | @recorded _ entries later led present stamped transcript =>
    obtain ⟨content, text⟩ := Option.ne_none_iff_exists'.mp present
    have read := transcript.read stamped led present
    have off : ∀ op ∈ entries.map Prod.snd, Undo.Aside d.nominal (start.nominal journal) op := by
      rw [later.nominal]
      exact fun op member => (aside op member).1
    have steady : ∀ op ∈ entries.map Prod.snd, Undo.Aside d.nominal d.workingFolder op := by
      rw [later.nominal, later.working]
      exact fun op member => (aside op member).2
    obtain ⟨kept, readAgain⟩ :=
      Undo.undo_read direct led (file?_eq_some_iff.mp text) read off steady answers printer
    have idle := Undo.undo_idle_iff kept readAgain heard'
    refine ⟨idle, ?_⟩
    intro uncovered
    have free : ∀ e ∈ entries, Undo.Uncovered d e.2 :=
      fun e member => uncovered e.2 (List.mem_map_of_mem member)
    obtain ⟨rewound, -⟩ := transcript.undone later.tree stamped led present free answers heard
    rw [idle]
    refine forall₂_congr fun op member => ?_
    obtain ⟨e, inside, rfl⟩ := List.mem_map.mp member
    exact rewound.spent_iff later.working (transcript.plain e inside)
      fun q => transcript.not_folder free member

/-- The songs of a collection are put under names that are new. -/
def Swap.filing : List Call :=
  [call .move "music/a.mp3" "lib" "\x7btitle\x7d.\x7bextension\x7d",
   call .copy "music/b.mp3" "lib" "\x7btitle\x7d.\x7bextension\x7d"]

theorem undo_again_filing :
    let once := undo Swap.journal .sure [] .patient (afterCalls Swap.filing Swap.disk)
    let again := undo Swap.journal .sure [] .patient once.disk
    Sharing Swap.journal Swap.disk Swap.filing ∧ once.result = .ok 2 ∧ again.console.Heard ∧
      Undo.Idle Swap.journal [] .patient once.disk := by
  have filed : SharedJournal Swap.journal Swap.disk Swap.filing ∧
      ∀ op ∈ history Swap.filing Swap.disk, ¬Undo.Revives Swap.disk op := by
    decide +kernel
  obtain ⟨⟨tree, direct, fresh, fits, uncovered⟩, unrevived⟩ := filed
  have sharing : Sharing Swap.journal Swap.disk Swap.filing := ⟨tree, direct, fresh, fits⟩
  have ended : (undo Swap.journal .sure [] .patient (afterCalls Swap.filing Swap.disk)).result =
      .ok 2 := by decide +kernel
  have heard : (undo Swap.journal .sure [] .patient (undo Swap.journal .sure [] .patient
      (afterCalls Swap.filing Swap.disk)).disk).console.Heard := by decide +kernel
  obtain ⟨-, idle⟩ := undo_again sharing ended heard
  exact ⟨sharing, ended, heard, (idle uncovered).mpr unrevived⟩

/-- Undone again, the copy that was put where a song had been moved away takes that song with it. -/
theorem not_idle_again_swap :
    let once := undo Swap.journal .sure [] .patient (afterCalls Swap.calls Swap.disk)
    let again := undo Swap.journal .sure [] .patient once.disk
    SharedJournal Swap.journal Swap.disk Swap.calls ∧ once.result = .ok 2 ∧
      again.result = .ok 1 ∧
      once.disk.at? (Path.ofString "music/a.mp3") =
        .ok (some (.file (Text.Utf8.ofString "TAG:title=song\n"))) ∧
      again.disk.at? (Path.ofString "music/a.mp3") = .ok none := by
  decide +kernel

end MusicFiling
