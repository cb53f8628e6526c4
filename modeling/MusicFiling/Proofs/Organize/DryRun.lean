import MusicFiling.Proofs.Organize.Copying
import MusicFiling.Proofs.Organize.Outcomes
import MusicFiling.Proofs.Organize.Replay

/-!
# Dry runs

A dry run leaves the disk alone, so it sees every file as the collection was before. A run that
copies for good sees the disk fill up with copies and folders, but nothing vanishes and no file
changes: what a dry run leaves alone, a real run leaves alone too, and of the files that a dry run
announces as copied some may find something in their way.
-/

namespace MusicFiling

open Disk

namespace Disk

/-- A later state of a disk on which everything still stands, all files but the journal with their
    contents. -/
structure Richer (journal : Place) (d d' : Disk) : Prop where
  later : d.Later d'
  present : ∀ q, d.entry? q ≠ none → d'.entry? q ≠ none
  content : ∀ q content, q ≠ journal → d.file? q = some content → d'.file? q = some content

private theorem Grows.richer {made written : Place → Prop} {journal : Place} {d d' : Disk}
    (grown : Grows made written d d') (only : ∀ q, written q → q = journal)
    (tree : d.WellFormed) : Richer journal d d' := by
  refine ⟨grown.later tree, ?_, ?_⟩
  · intro q present
    rcases d.entry?_cases q with vacant | folder | ⟨content, file⟩
    · exact absurd vacant present
    · simp [grown.folder folder]
    · obtain ⟨content', file'⟩ := grown.file (file?_eq_some_iff.mpr file)
      simp [file?_eq_some_iff.mp file']
  · intro q content other stands
    rw [grown.file?_eq fun new => other (only q new)]
    exact stands

theorem Richer.trans {journal : Place} {d d' d'' : Disk} (first : Richer journal d d')
    (second : Richer journal d' d'') : Richer journal d d'' :=
  ⟨first.later.trans second.later, fun q here => second.present q (first.present q here),
    fun q content other here => second.content q content other (first.content q content other here)⟩

namespace Richer

variable {journal : Place} {d d' : Disk} (richer : Richer journal d d')
include richer

private theorem nominal : d'.nominal = d.nominal :=
  richer.later.nominal

private theorem at?_error {p : Path} {fault : Fault} (refused : d.at? p = .error fault) :
    d'.at? p = .error fault := by
  obtain ⟨long, rfl⟩ := at?_eq_error_iff.mp refused
  exact at?_eq_error_iff.mpr ⟨reach_nameTooLong_mono richer.later long, rfl⟩

private theorem at?_some {p : Path} {entry : Entry} (stands : d.at? p = .ok (some entry)) :
    ∃ entry', d'.at? p = .ok (some entry') := by
  obtain ⟨q, led, here⟩ := at?_eq_some_iff.mp stands
  obtain ⟨entry', here'⟩ := Option.ne_none_iff_exists'.mp (richer.present q (by simp [here]))
  exact ⟨entry', at?_eq_some_iff.mpr ⟨q, richer.later.reach led, here'⟩⟩

/-- What the disk tells of a file stays the same, save that something may get in its way. -/
theorem weigh_cases (path destination : Path) :
    d'.weigh path destination = d.weigh path destination ∨
      d.weigh path destination = .ok (.vacant destination) ∧
        (d'.weigh path destination = .ok (.settled .existing) ∨
          ∃ fault, d'.weigh path destination = .error fault) := by
  unfold weigh
  rw [richer.nominal]
  split_ifs with null same
  · exact .inl rfl
  · exact .inl rfl
  · cases asked : d.at? destination with
    | error fault =>
      left
      rw [richer.at?_error asked]
    | ok entry =>
      cases entry with
      | some entry =>
        left
        obtain ⟨entry', stands⟩ := richer.at?_some asked
        rw [stands]
      | none =>
        cases d'.at? destination with
        | error fault => exact .inr ⟨rfl, .inr ⟨fault, rfl⟩⟩
        | ok entry' =>
          cases entry' with
          | some entry' => exact .inr ⟨rfl, .inl rfl⟩
          | none => exact .inl rfl

end Richer

end Disk

namespace Run

variable {time : String} {options : Options} {prober : Prober} {run run' : Run} {path : Path}
  {journal : Place}

/-- A run that only copies, with its journal open at the place of a file. -/
structure Copying (journal : Place) (run : Run) : Prop where
  only : run.OnlyJournal journal
  opened : run.disk.file? journal ≠ none

/-- Copying adds a file and a row, and takes nothing away. -/
theorem Copying.turn {op : Option Operation} (copying : run.Copying journal)
    (turn : Turn time options prober run path op run') (copies : options.action = .copy)
    (tree : run.disk.WellFormed) (target : options.target.Direct)
    (apart : run.disk.nominal path ≠ journal) :
    run'.Copying journal ∧ Richer journal run.disk run'.disk := by
  obtain ⟨only, opened⟩ := copying
  have filled := turn.filled copies target tree
  have only' : run'.OnlyJournal journal := by
    cases turn with
    | still steady => exact only.of_steady steady
    | carried carried =>
      obtain ⟨-, free, -⟩ := carried.goal_of_grounded tree (grounded_of_direct run.disk target)
      refine carried.onlyJournal only (carried.origin_eq ▸ Ne.symm apart) ?_
      rintro rfl
      exact opened free
  refine ⟨⟨only', filled.file journal opened⟩, filled.later, fun q => filled.present, ?_⟩
  intro q content other stands
  refine filled.content q content stands ?_
  rintro (⟨file, kept, here⟩ | reporting)
  · obtain rfl : file = ⟨some journal⟩ := by simpa [only.opened] using kept.symm
    exact other (Option.some.inj here).symm
  · exact only.not_reporting q reporting

end Run

/-- The options of the run that is carried out. -/
def Options.forReal (options : Options) : Options :=
  { options with dryRun := false }

/-- What a prober prints of a file depends on the file's path and content alone. -/
def Prober.Faithful (prober : Prober) : Prop :=
  ∀ (d d' : Disk) (path : Path) (content : List UInt8), path.Direct →
    d'.workingFolder = d.workingFolder → d.file? (d.nominal path) = some content →
    d'.file? (d.nominal path) = some content → prober.run d' path = prober.run d path

private theorem Prober.echo_faithful : Prober.echo.Faithful := by
  intro d d' path content _ working here here'
  have same : d'.nominal path = d.nominal path := nominal_congr working path
  simp only [echo, same, here, here']

/-- What may become of a file that was announced to have some status: the same, save that a file
    may not be copied after all. -/
def Foretold (told actual : Status) : Prop :=
  actual = told ∨ told = .copied ∧ (actual = .existing ∨ actual = .failed)

namespace Foretold

variable {told actual : Status}

theorem trans {later : Status} (first : Foretold told later) (second : Foretold later actual) :
    Foretold told actual := by
  rcases first with rfl | ⟨rfl, prevented⟩
  · exact second
  · rcases second with rfl | ⟨rfl, -⟩
    · exact .inr ⟨rfl, prevented⟩
    · simp at prevented

private theorem copied (foretold : Foretold told .copied) : told = .copied := by
  rcases foretold with same | ⟨copied, -⟩
  · exact same.symm
  · exact copied

end Foretold

/-- A run that copies does what is announced, unless something stops it. -/
theorem Run.Handled.foretold {time : String} {options : Options} {prober : Prober} {run : Run}
    {path : Path} {op : Option Operation} {s : Stepped Status}
    (handled : Handled time options prober run path op s) (copies : options.action = .copy)
    (heard : s.run.console.Heard) (legible : run.Legible options prober path) :
    Foretold (announced options prober run.disk path) s.status := by
  rcases handled.status_cases heard legible with same | ⟨-, failed, destination, told⟩
  · exact .inl same
  · refine .inr ⟨?_, .inr failed⟩
    rw [announced, told, copies]
    rfl

/-- What is announced on a disk foretells what is announced once the disk has filled up. -/
theorem Disk.Richer.foretold {journal : Place} {d d' : Disk} (richer : Richer journal d d')
    {options : Options} (copies : options.action = .copy) {prober : Prober} {path : Path}
    (same : prober.run d' path = prober.run d path) :
    Foretold (announced options prober d path) (announced options prober d' path) := by
  have plan : planDestination options prober d' path = planDestination options prober d path := by
    simp only [planDestination, same]
  unfold announced prospect
  rw [plan]
  cases planDestination options prober d path with
  | error refusal => exact .inl rfl
  | ok destination =>
    simp only
    rcases richer.weigh_cases path destination with same | ⟨vacant, prevented⟩
    · exact .inl (by rw [same])
    · refine .inr ?_
      rcases prevented with exists' | ⟨fault, broken⟩
      · simp [vacant, exists', copies, Action.done]
      · simp [vacant, broken, copies, Action.done]

namespace Run

/-- A run that has changed nothing on the disk and writes no report. -/
structure Idle (d : Disk) (run : Run) : Prop where
  disk : run.disk = d
  unreported : run.report = none

namespace Idle

variable {d : Disk} {run : Run} (idle : run.Idle d)
include idle

private theorem prints {s : Stepped Unit} (prints : Prints run s) :
    s.Ends (Idle d) fun run _ => run.Idle d := by
  obtain ⟨console, -, rfl | ⟨reason, rfl, -⟩⟩ := prints
  · exact ⟨idle.disk, idle.unreported⟩
  · exact ⟨idle.disk, idle.unreported⟩

private theorem reportRow_yield {α : Type} (path : Path) (destination : Option Path)
    (action : Action)
    (status : String) (a : α) :
    ((run.reportRow path destination action status).next fun run _ => run.yield a).Ends (Idle d)
      fun run _ => run.Idle d := by
  have same : run.reportRow path destination action status = run.yield () := by
    rw [Run.reportRow, idle.unreported]
  rw [same]
  exact idle

private theorem weigh (options : Options) (path destination : Path) :
    (run.weigh options path destination).Ends (Idle d) fun run _ => run.Idle d := by
  unfold Run.weigh
  split_ifs
  · exact idle
  · exact (idle.prints (prints_log options run _)).next fun _ _ idle =>
      idle.reportRow_yield _ _ _ _ _
  · split
    · exact idle
    · exact (idle.prints (prints_log options run _)).next fun _ _ idle =>
        idle.reportRow_yield _ _ _ _ _
    · exact idle

theorem inspect (options : Options) (prober : Prober) (path : Path) :
    (run.inspect options prober path).Ends (Idle d) fun run _ => run.Idle d := by
  refine (idle.prints (prints_debug options run _)).next fun run _ idle => ?_
  split
  · exact (idle.prints (prints_complain run path _)).next fun _ _ idle =>
      idle.reportRow_yield _ _ _ _ _
  · exact (idle.prints (prints_debug options run _)).next fun _ _ idle =>
      idle.weigh options path _

variable {options : Options} (dry : options.dryRun = true) (prober : Prober)
include dry

private theorem handle (time : String) (path : Path) :
    (run.handle time options prober path).Ends (Idle d) fun run _ => run.Idle d := by
  refine (idle.inspect options prober path).next fun run decision idle => ?_
  cases decision with
  | settled status => exact idle
  | vacant destination =>
    simp only [dry, if_true]
    exact (idle.prints (prints_log options run _)).next fun _ _ idle =>
      idle.reportRow_yield _ _ _ _ _

private theorem handleNext (clock : Nat → String) (total index : Nat) (path : Path) :
    (run.handleNext clock options prober total index path).Ends (Idle d)
      fun run _ => run.Idle d := by
  have handled := Stepped.ends_iff.mp (idle.handle dry prober (clock index) path)
  have rescued : (rescue path (run.handle (clock index) options prober path)).Ends (Idle d)
      fun run _ => run.Idle d := by
    unfold rescue
    split
    · exact handled
    · exact (handled.prints (prints_complain _ path _)).next fun _ _ idle => idle
  refine rescued.next fun run status idle => ?_
  have counted : (run.count status).Idle d := ⟨idle.disk, idle.unreported⟩
  exact counted.prints (prints_debug options _ _)

private theorem handleAll (clock : Nat → String) (total index : Nat) (files : List Path) :
    (run.handleAll clock options prober total index files).Ends (Idle d)
      fun run _ => run.Idle d := by
  induction files generalizing run index with
  | nil => exact idle
  | cons path rest ih =>
    exact (idle.handleNext dry prober clock total index path).next fun _ _ idle => ih idle _

omit dry in
private theorem reportFile : run.reportFile = none := by
  rw [Run.reportFile, idle.unreported, Option.map_none]

/-- A dry run takes all its turns on the disk as it was. -/
theorem of_mem_turns {clock : Nat → String} {total index : Nat} {files : List Path} {visit : Visit}
    (member : visit ∈ run.turns clock options prober total index files) : visit.run.Idle d := by
  induction files generalizing run index with
  | nil => cases member
  | cons path rest ih =>
    rw [turns] at member
    rcases List.mem_cons.mp member with rfl | later
    · exact idle
    · have next := Stepped.ends_iff.mp (idle.handleNext dry prober clock total index path)
      split at later
      · exact ih next later
      · cases later

end Idle

/-- A dry run opens nothing. -/
theorem beginBatch_idle {options : Options} (dry : options.dryRun = true)
    (unreported : options.report = none) (printer : Printer) (d : Disk) :
    (beginBatch options printer d).1.Idle d := by
  have journal : ∀ run : Run, run.openJournal options = run.yield () := by
    intro run
    simp [openJournal, dry]
  have report : ∀ run : Run, run.openReport options = run.yield () := by
    intro run
    simp [openReport, unreported]
  have beginning := beginBatch_beginning options printer d
  generalize (beginBatch options printer d).2 = outcome at beginning
  generalize (beginBatch options printer d).1 = run at beginning ⊢
  cases beginning with
  | refused fresh => exact ⟨fresh.disk, fresh.report⟩
  | noJournal fresh failed =>
    rw [journal] at failed
    cases failed
  | noReport fresh opened failed =>
    rw [report] at failed
    cases failed
  | begun fresh found opened opened' =>
    rw [journal] at opened
    cases opened
    rw [report] at opened'
    cases opened'
    exact ⟨fresh.disk, fresh.report⟩

end Run

section

variable (clock : Nat → String) {options : Options} (prober : Prober) (printer : Printer)
  (dry : options.dryRun = true) (unreported : options.report = none)
include dry unreported

/-- A dry run without a report leaves the disk alone, whether or not it begins or ends. -/
theorem organize_disk_dry (d : Disk) : (organize clock options prober printer d).disk = d := by
  have idle := Run.beginBatch_idle dry unreported printer d
  unfold organize
  generalize beginBatch options printer d = begun at idle ⊢
  obtain ⟨run, outcome⟩ := begun
  cases outcome with
  | error error => exact idle.disk
  | ok files =>
    have handled := Stepped.ends_iff.mp (idle.handleAll dry prober clock files.length 1 files)
    have closed : (run.handleAll clock options prober files.length 1 files).run.close.Idle d :=
      ⟨by rw [Run.close, handled.unreported]; exact handled.disk, handled.unreported⟩
    have finished : (finishBatch clock options prober run files).Ends (Run.Idle d)
        fun run _ => run.Idle d := by
      unfold finishBatch
      exact (Stepped.ends_iff.mpr closed).next fun run _ idle =>
        (idle.prints (Run.prints_summarize options run)).next fun _ _ idle => idle
    exact (Stepped.ends_iff.mp finished).disk

/-- Where a run for good begins, a dry run begins with the same files. -/
theorem beginBatch_dry {d : Disk} {run : Run} {files : List Path}
    (begun : beginBatch options.forReal printer d = (run, .ok files)) :
    ∃ run', beginBatch options printer d = (run', .ok files) := by
  have found : discover d options.selection options.source = .ok files :=
    (Run.beginBatch_ok begun).found
  have same : ∀ run files, Run.announce options.forReal run files = Run.announce options run files :=
    fun _ _ => rfl
  unfold beginBatch at begun ⊢
  cases checked : checkPattern options.pattern with
  | error error => simp [Options.forReal, checked] at begun
  | ok accepted =>
    have found' : discover d options.forReal.selection options.forReal.source = .ok files := found
    have checked' : checkPattern options.forReal.pattern = .ok accepted := checked
    simp only [checked', Run.prepare, found', same] at begun
    simp only [Run.prepare, found]
    cases announced : (Run.announce options ⟨d, none, none, ⟨printer, []⟩, Counters.zero⟩
        files).outcome with
    | error mishap => simp [Stepped.next_of_error announced, Except.mapError] at begun
    | ok _ =>
      simp only [Stepped.next_of_ok announced]
      exact ⟨_, by simp [Run.openJournal, dry, Run.openReport, unreported, Run.yield,
        Except.mapError]; rfl⟩

end

section

variable {clock : Nat → String} {options : Options} {prober : Prober} {printer : Printer} {d : Disk}

/-- A dry run tells of each file what is announced at the start. -/
theorem status_of_mem_batchTurns_dry (tree : d.WellFormed) (dry : options.dryRun = true)
    (unreported : options.report = none)
    (heard : (organize clock options prober printer d).console.Heard) {visit : Visit}
    (member : visit ∈ batchTurns clock options prober printer d) :
    visit.run.status (clock visit.index) options prober visit.path =
      announced options prober d visit.path := by
  have idle : visit.run.Idle d := by
    have start := Run.beginBatch_idle dry unreported printer d
    unfold batchTurns at member
    generalize beginBatch options printer d = begun at start member
    obtain ⟨run, outcome⟩ := begun
    cases outcome with
    | error error => cases member
    | ok files => exact start.of_mem_turns dry prober member
  obtain ⟨rest, ready⟩ := exists_ready_of_mem_batchTurns tree member
  obtain ⟨content, stands⟩ := ready.standing visit.path List.mem_cons_self
  have handled := Run.handle_handled (clock visit.index) options prober ready.tree stands
  have told := handled.status_cases (heard_of_mem_batchTurns heard member) (.inl idle.reportFile)
  rw [idle.disk] at told
  exact told.resolve_right fun real => by simp [dry] at real

/-- A run halfway through its files, on a disk that has filled up since the start. -/
structure Run.Filling (journal : Place) (start : Disk) (run : Run) (rest : List Path) :
    Prop where
  copying : run.Copying journal
  richer : Richer journal start run.disk
  apart : ∀ path ∈ rest, start.nominal path ≠ journal

private theorem Run.Filling.next {time : String} {journal : Place} {run run' : Run} {path : Path}
    {rest : List Path} {op : Option Operation} (filling : run.Filling journal d (path :: rest))
    (turn : Turn time options prober run path op run') (copies : options.action = .copy)
    (target : options.target.Direct) : run'.Filling journal d rest := by
  obtain ⟨copying, richer, apart⟩ := filling
  obtain ⟨here, later⟩ := List.forall_mem_cons.mp apart
  rw [← richer.nominal] at here
  obtain ⟨copying', step⟩ := copying.turn turn copies richer.later.tree target here
  exact ⟨copying', richer.trans step, later⟩

/-- Each file of a run that copies finds the disk filled up, but with its own content unchanged. -/
theorem foretold_of_mem_batchTurns (tree : d.WellFormed) (faithful : prober.Faithful)
    (copies : options.action = .copy) (real : options.dryRun = false)
    (unreported : options.report = none) (source : options.source.Direct)
    (target : options.target.Direct)
    (apart : ∀ files, discover d options.selection options.source = .ok files →
      ∀ path ∈ files, d.nominal path ≠ d.nominal options.journal)
    (heard : (organize clock options prober printer d).console.Heard) {visit : Visit}
    (member : visit ∈ batchTurns clock options prober printer d) :
    Foretold (announced options prober d visit.path)
      (visit.run.status (clock visit.index) options prober visit.path) := by
  have told := heard_of_mem_batchTurns heard member
  rcases organize_cases clock options prober printer d with
    ⟨error, stopped⟩ | ⟨run, files, finished⟩
  · rw [stopped.turns] at member
    cases member
  have begun := finished.begun
  have traversed := discover_of_returned (finished.result_of_heard heard)
  have selected := List.mem_map_of_mem (f := Visit.path) member
  obtain ⟨stand, -⟩ := tree.discover_spec traversed
  obtain ⟨⟨content, stands⟩, direct⟩ := stand visit.path selected
  have start : run.Filling (d.nominal options.journal) d files := by
    have telling := begun.telling real unreported
    refine ⟨⟨telling.only, ?_⟩, ?_, apart files begun.found⟩
    · simp [begun.recorded real (by simp [unreported])]
    · refine begun.grown.richer ?_ tree
      rintro q (here | ⟨report, wanted, -⟩)
      · exact here
      · simp [unreported] at wanted
  have step : ∀ run index path rest run', run.Ready (path :: rest) →
      run.Filling (d.nominal options.journal) d (path :: rest) →
      Run.Turn (clock index) options prober run path (run.operation? options prober path) run' →
      run'.Filling (d.nominal options.journal) d rest :=
    fun _ _ _ _ _ _ filling turn => filling.next turn copies target
  rw [finished.turns] at member
  obtain ⟨rest, ready, filling⟩ := Run.turns_induction step (begun.ready tree) start member
  have kept : visit.run.disk.file? (d.nominal visit.path) = some content :=
    filling.richer.content _ content (apart _ traversed visit.path selected) stands
  have same : prober.run visit.run.disk visit.path = prober.run d visit.path :=
    faithful d visit.run.disk visit.path content (direct source) filling.richer.later.working stands
      kept
  obtain ⟨content', stands'⟩ := ready.standing visit.path List.mem_cons_self
  have handled := Run.handle_handled (clock visit.index) options prober ready.tree stands'
  exact (filling.richer.foretold copies same).trans
    (handled.foretold copies told (.inl filling.copying.only.unreported))

end

section

variable (clock : Nat → String) (options : Options) (prober : Prober) (printer : Printer) (d : Disk)

/-- A dry run foretells a run for good: both return and handle the same files in the same order,
    and what becomes of each file is what was announced, save that a file which was announced as
    copied may find something in its way. -/
structure Foretells (counters : Counters) : Prop where
  returned : ∃ promised, (organize clock options prober printer d).result = .ok promised ∧
    promised = Counters.tally ((batchOutcomes clock options prober printer d).map Prod.snd)
  counted : counters =
    Counters.tally ((batchOutcomes clock options.forReal prober printer d).map Prod.snd)
  handled : discover d options.selection options.source =
    .ok ((batchOutcomes clock options prober printer d).map Prod.fst)
  outcomes : List.Forall₂ (fun told actual => actual.1 = told.1 ∧ Foretold told.2 actual.2)
    (batchOutcomes clock options prober printer d)
    (batchOutcomes clock options.forReal prober printer d)
  copied : ∀ path, (path, Status.copied) ∈
      batchOutcomes clock options.forReal prober printer d →
    (path, Status.copied) ∈ batchOutcomes clock options prober printer d

end

/-- A dry run without a report touches nothing, and foretells the copying of files without two
    dots, if the printer refuses nothing to either run. -/
theorem organize_dryRun (clock : Nat → String) {options : Options} (prober : Prober)
    (printer : Printer) (d : Disk) (dry : options.dryRun = true)
    (unreported : options.report = none) :
    (organize clock options prober printer d).disk = d ∧
      (d.WellFormed → prober.Faithful → options.action = .copy → options.source.Direct →
        options.target.Direct →
        (∀ files, discover d options.selection options.source = .ok files →
          ∀ path ∈ files, d.nominal path ≠ d.nominal options.journal) →
        (organize clock options prober printer d).console.Heard →
        (organize clock options.forReal prober printer d).console.Heard →
        ∀ counters, (organize clock options.forReal prober printer d).result = .ok counters →
          Foretells clock options prober printer d counters) := by
  refine ⟨organize_disk_dry clock prober printer dry unreported d, ?_⟩
  intro tree faithful copies source target apart heard heard' counters returned
  obtain ⟨real, files, begun⟩ := exists_begun_of_returned returned
  obtain ⟨run, begun'⟩ := beginBatch_dry printer dry unreported begun
  have finished : BatchFinished clock options prober printer d run files :=
    batchFinished_of_begun begun'
  have promised := finished.result_of_heard heard
  have turns := discover_of_returned promised
  have turns' : discover d options.selection options.source =
      .ok ((batchTurns clock options.forReal prober printer d).map Visit.path) :=
    discover_of_returned returned
  have told : batchOutcomes clock options prober printer d =
      (batchTurns clock options.forReal prober printer d).map
        fun visit => (visit.path, announced options prober d visit.path) := by
    have paths := Except.ok.inj (turns.symm.trans turns')
    have each : batchOutcomes clock options prober printer d =
        ((batchTurns clock options prober printer d).map Visit.path).map
          fun path => (path, announced options prober d path) := by
      rw [batchOutcomes, List.map_map]
      refine List.map_congr_left fun visit member => Prod.ext rfl ?_
      exact status_of_mem_batchTurns_dry tree dry unreported heard member
    rw [each, paths, List.map_map]
    rfl
  have foretold : ∀ visit ∈ batchTurns clock options.forReal prober printer d,
      Foretold (announced options.forReal prober d visit.path)
        (visit.run.status (clock visit.index) options.forReal prober visit.path) :=
    have copies' : options.forReal.action = .copy := copies
    fun visit => foretold_of_mem_batchTurns tree faithful copies' rfl unreported source target apart
      heard'
  refine ⟨⟨_, promised, counters_eq_tally promised⟩, counters_eq_tally returned, ?_, ?_, ?_⟩
  · rw [turns, batchOutcomes, List.map_map]
    rfl
  · rw [told, batchOutcomes, List.forall₂_map_left_iff, List.forall₂_map_right_iff,
      List.forall₂_same]
    exact fun visit member => ⟨rfl, foretold visit member⟩
  · intro path copied
    obtain ⟨visit, member, same⟩ := List.mem_map.mp copied
    obtain ⟨rfl, done⟩ := Prod.ext_iff.mp same
    have promise := foretold visit member
    rw [show visit.run.status (clock visit.index) options.forReal prober visit.path = .copied from
      done] at promise
    rw [told]
    exact List.mem_map.mpr ⟨visit, member, Prod.ext rfl promise.copied⟩

/-- Announces that the songs are copied. -/
def Twins.dry : Options :=
  { Twins.options with action := .copy, dryRun := true }

/-- Two songs are copied, and one finds a copy of the other in its way. -/
def Twins.copied : Counters :=
  { Counters.zero with copied := 2, existing := 1 }

theorem dryRun_twins :
    (∀ path ∈ Twins.songs,
        Twins.disk.nominal path ≠ Twins.disk.nominal Twins.dry.journal) ∧
      (organize (fun _ => "") Twins.dry Prober.echo .patient Twins.disk).disk = Twins.disk ∧
      Foretells (fun _ => "") Twins.dry Prober.echo .patient Twins.disk Twins.copied := by
  have found : discover Twins.disk Twins.dry.selection Twins.dry.source = .ok Twins.songs :=
    Twins.discover_songs
  have apart : ∀ path ∈ Twins.songs,
      Twins.disk.nominal path ≠ Twins.disk.nominal Twins.dry.journal := by
    decide +kernel
  have heard : (organize (fun _ => "") Twins.dry Prober.echo .patient Twins.disk).console.Heard := by
    unfold organize beginBatch Run.prepare
    simp only [found]
    decide +kernel
  have returned : (organize (fun _ => "") Twins.dry.forReal Prober.echo .patient
        Twins.disk).console.Heard ∧
      (organize (fun _ => "") Twins.dry.forReal Prober.echo .patient Twins.disk).result =
        .ok Twins.copied := by
    have found' : discover Twins.disk Twins.dry.forReal.selection Twins.dry.forReal.source =
        .ok Twins.songs := Twins.discover_songs
    unfold organize beginBatch Run.prepare
    simp only [found']
    decide +kernel
  obtain ⟨untouched, foretells⟩ := organize_dryRun (fun _ => "") Prober.echo .patient Twins.disk
    (show Twins.dry.dryRun = true from rfl) rfl
  refine ⟨apart, untouched, foretells (by decide +kernel) Prober.echo_faithful rfl
    (by decide +kernel) (by decide +kernel) ?_ heard returned.1 Twins.copied returned.2⟩
  intro files same
  obtain rfl := Except.ok.inj (found.symm.trans same)
  exact apart

end MusicFiling
