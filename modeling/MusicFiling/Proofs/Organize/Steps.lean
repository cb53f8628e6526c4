import MusicFiling.Organize.Run
import MusicFiling.Proofs.Console
import MusicFiling.Proofs.Csv
import MusicFiling.Proofs.Destination
import MusicFiling.Proofs.Disk.Arrival
import MusicFiling.Proofs.Text.Utf8

/-!
# The steps of a run

Most steps of a run only print something or add a row to its report, and each of them may stop what
is under way: the printer may refuse a line, and a row may hold stray bytes. `Goes` says of such a
step that it keeps the open files, and that it goes on unless one of the two hinders it. Inspecting
a file consists of such steps, so what it finds out is what the disk tells.
-/

namespace MusicFiling

open Disk

namespace Stepped

variable {α β : Type} {s : Stepped α} {f : Run → α → Stepped β}

@[simp] theorem next_ok (run : Run) (a : α) : (⟨run, .ok a⟩ : Stepped α).next f = f run a := rfl

@[simp] theorem next_error (run : Run) (mishap : Mishap) :
    (⟨run, .error mishap⟩ : Stepped α).next f = ⟨run, .error mishap⟩ := rfl

theorem next_of_ok {a : α} (yielded : s.outcome = .ok a) : s.next f = f s.run a := by
  simp only [next, yielded]

theorem next_of_error {mishap : Mishap} (stopped : s.outcome = .error mishap) :
    s.next f = ⟨s.run, .error mishap⟩ := by
  simp only [next, stopped]

/-- What holds of the run after some steps, by how they ended. -/
def Ends (stopped : Run → Prop) (yielded : Run → α → Prop) (s : Stepped α) : Prop :=
  match s.outcome with
  | .ok a => yielded s.run a
  | .error _ => stopped s.run

theorem Ends.next {stopped : Run → Prop} {yielded : Run → α → Prop} {yielded' : Run → β → Prop}
    (first : s.Ends stopped yielded)
    (second : ∀ run a, yielded run a → (f run a).Ends stopped yielded') :
    (s.next f).Ends stopped yielded' := by
  obtain ⟨run, outcome⟩ := s
  cases outcome with
  | ok a => exact second run a first
  | error mishap => exact first

theorem ends_iff {holds : Run → Prop} : s.Ends holds (fun run _ => holds run) ↔ holds s.run := by
  unfold Ends
  split <;> rfl

end Stepped

namespace Run

/-- The file of the report, if there is one. -/
def reportFile (run : Run) : Option OpenFile :=
  run.report.map Report.file

/-- Whether the report is written at a place. -/
def Reporting (run : Run) (q : Place) : Prop :=
  ∃ file, run.reportFile = some file ∧ file.place = some q

/-- Whether the journal is written at a place. -/
def Journaling (run : Run) (q : Place) : Prop :=
  ∃ file, run.journal = some file ∧ file.place = some q

/-- Whether one of the open files is written at a place. -/
def Writing (run : Run) (q : Place) : Prop :=
  run.Journaling q ∨ run.Reporting q

/-- The run with another console. -/
abbrev withConsole (run : Run) (console : Console) : Run :=
  { run with console := console }

/-- The run keeps its open files; folders may be new, the report may be written, and the printer may
    be handed more. -/
structure Steady (made : Place → Prop) (run run' : Run) : Prop where
  disk : Grows made run.Reporting run.disk run'.disk
  journal : run'.journal = run.journal
  reportFile : run'.reportFile = run.reportFile
  console : run.console.Before run'.console

namespace Steady

variable {made : Place → Prop} {run run' run'' : Run}

theorem refl (made : Place → Prop) (run : Run) : Steady made run run :=
  ⟨Grows.refl _ _ _, rfl, rfl, .refl _⟩

theorem mono {made' : Place → Prop} (steady : Steady made run run')
    (more : ∀ q, made q → made' q) : Steady made' run run' :=
  ⟨steady.disk.mono more fun _ => id, steady.journal, steady.reportFile, steady.console⟩

theorem reporting (steady : Steady made run run') : run'.Reporting = run.Reporting := by
  funext q
  simp only [Reporting, steady.reportFile]

theorem writing (steady : Steady made run run') : run'.Writing = run.Writing := by
  funext q
  simp only [Writing, Journaling, steady.reporting, steady.journal]

theorem trans (first : Steady made run run') (second : Steady made run' run'') :
    Steady made run run'' :=
  ⟨first.disk.trans (first.reporting ▸ second.disk), second.journal.trans first.journal,
    second.reportFile.trans first.reportFile, first.console.trans second.console⟩

theorem of_console (made : Place → Prop) {console : Console}
    (before : run.console.Before console) : Steady made run (run.withConsole console) :=
  ⟨Grows.refl _ _ _, rfl, rfl, before⟩

end Steady

/-- A step keeps the open files and yields a value, unless the printer refuses something or a row is
    not legible. -/
structure Goes {α : Type} (made : Place → Prop) (legible : Prop) (run : Run) (s : Stepped α)
    (a : α) : Prop where
  steady : Steady made run s.run
  yields : s.outcome = .ok a ∨
    (∃ mishap, s.outcome = .error mishap) ∧ (legible → ¬s.run.console.Heard)

section Goes

variable {α β : Type} {made : Place → Prop} {legible : Prop} {run : Run}

theorem Goes.next {s : Stepped α} {a : α} {f : Run → α → Stepped β} {b : β}
    (first : Goes made legible run s a)
    (second : ∀ run', Steady made run run' → Goes made legible run' (f run' a) b) :
    Goes made legible run (s.next f) b := by
  obtain ⟨steady, yielded | ⟨⟨mishap, stopped⟩, refused⟩⟩ := first
  · rw [Stepped.next_of_ok yielded]
    obtain ⟨steady', yields⟩ := second s.run steady
    exact ⟨steady.trans steady', yields⟩
  · rw [Stepped.next_of_error stopped]
    exact ⟨steady, .inr ⟨⟨mishap, rfl⟩, refused⟩⟩

theorem goes_yield (a : α) : Goes made legible run (run.yield a) a :=
  ⟨Steady.refl _ _, .inl rfl⟩

end Goes

/-- A step that only prints: it stops only if the printer refuses something. -/
def Prints (run : Run) (s : Stepped Unit) : Prop :=
  ∃ console, run.console.Before console ∧
    (s = ⟨run.withConsole console, .ok ()⟩ ∨
      ∃ reason, s = ⟨run.withConsole console, .error (.unprinted reason)⟩ ∧
        ¬console.Heard)

theorem Prints.goes {run : Run} {s : Stepped Unit} (prints : Prints run s) (made : Place → Prop)
    (legible : Prop) : Goes made legible run s () := by
  obtain ⟨console, before, rfl | ⟨reason, rfl, refused⟩⟩ := prints
  · exact ⟨.of_console made before, .inl rfl⟩
  · exact ⟨.of_console made before, .inr ⟨⟨_, rfl⟩, fun _ => refused⟩⟩

private theorem prints_print (run : Run) (output : Output) : Prints run (run.print output) := by
  refine ⟨run.console.hand output, Console.before_hand _ _, ?_⟩
  unfold print
  cases asked : run.console.refusal? output with
  | none => exact .inl rfl
  | some reason => exact .inr ⟨reason, rfl, by simp [Console.heard_hand, asked]⟩

theorem prints_yield (run : Run) : Prints run (run.yield ()) :=
  ⟨run.console, .refl _, .inl rfl⟩

theorem prints_log (options : Options) (run : Run) (text : List Letter) :
    Prints run (run.log options text) := by
  unfold log
  split
  · exact prints_print run _
  · exact prints_yield run

theorem prints_debug (options : Options) (run : Run) (text : List Letter) :
    Prints run (run.debug options text) := by
  unfold debug
  split
  · exact prints_print run _
  · exact prints_yield run

theorem prints_complain (run : Run) (path : Path) (reason : List Letter) :
    Prints run (run.complain path reason) :=
  prints_print run _

end Run

private theorem Report.record_eq_ok {report : Report} {source : Path} {destination : Option Path}
    {action status : String} {d : Disk} {written : Report × Disk}
    (recorded : report.record source destination action status d = .ok written) :
    ∃ bytes, written = report.write bytes d := by
  unfold record at recorded
  cases encoded : Text.Utf8.encodeText (row source destination action status) with
  | error error =>
    rw [encoded] at recorded
    cases recorded
  | ok bytes =>
    rw [encoded] at recorded
    exact ⟨bytes, (Except.ok.inj recorded).symm⟩

/-- A row of a report is written if its paths are text. -/
theorem Report.exists_record {source : Path} {destination : Option Path} (text : source.IsText)
    (text' : ∀ p, destination = some p → p.IsText) (report : Report) (action status : String)
    (d : Disk) : ∃ written, report.record source destination action status d = .ok written := by
  have plain : Text.Plain (row source destination action status) := by
    refine Csv.plain_writeRow.mpr ?_
    simp only [List.forall_mem_cons, List.not_mem_nil, false_imp_iff, implies_true, and_true]
    refine ⟨Path.plain_text.mpr text, ?_, Text.plain_letters _, Text.plain_letters _⟩
    cases destination with
    | none => exact List.forall_mem_nil _
    | some p => exact Path.plain_text.mpr (text' p rfl)
  exact ⟨_, by rw [record, Text.Utf8.encodeText_of_plain plain]; rfl⟩

namespace Run

theorem reportRow_goes {made : Place → Prop} {legible : Prop} (run : Run) (path : Path)
    (destination : Option Path) (action : Action) (status : String)
    (clear : legible → run.reportFile = none ∨
      path.IsText ∧ ∀ p, destination = some p → p.IsText) :
    Goes made legible run (run.reportRow path destination action status) () := by
  unfold reportRow
  cases kept : run.report with
  | none => exact goes_yield ()
  | some report =>
    simp only
    cases written : report.record path destination action.text status run.disk with
    | error error =>
      refine ⟨Steady.refl _ _, .inr ⟨⟨_, rfl⟩, fun legible => ?_⟩⟩
      rcases clear legible with none | ⟨text, text'⟩
      · simp [reportFile, kept] at none
      · obtain ⟨pair, done⟩ := report.exists_record text text' action.text status run.disk
        rw [written] at done
        cases done
    | ok pair =>
      obtain ⟨bytes, rfl⟩ := Report.record_eq_ok written
      refine ⟨⟨?_, rfl, by simp [reportFile, kept, Report.write, yield], .refl _⟩, .inl rfl⟩
      refine (OpenFile.modify_grows report.file _ run.disk).mono (fun _ => False.elim) ?_
      intro q here
      exact ⟨report.file, by simp [reportFile, kept], here⟩

end Run

/-- What is to become of a file with a destination, as far as the disk tells. -/
def Disk.weigh (d : Disk) (path destination : Path) : Except Fault Run.Decision :=
  if destination.hasNull ∨ path.hasNull then .error (.refused .nullByte destination)
  else if d.nominal destination = d.nominal path then .ok (.settled .skipped)
  else
    match d.at? destination with
    | .error fault => .error fault
    | .ok (some _) => .ok (.settled .existing)
    | .ok none => .ok (.vacant destination)

/-- What is to become of a file, as far as the disk tells. -/
def Disk.prospect (d : Disk) (options : Options) (prober : Prober) (path : Path) :
    Except Fault Run.Decision :=
  match planDestination options prober d path with
  | .error _ => .ok (.settled .failed)
  | .ok destination => d.weigh path destination

private theorem Disk.weigh_eq_vacant {d : Disk} {path destination destination' : Path}
    (vacant : d.weigh path destination = .ok (.vacant destination')) :
    destination' = destination ∧ d.at? destination = .ok none ∧
      d.nominal destination ≠ d.nominal path := by
  unfold weigh at vacant
  split_ifs at vacant with null same
  · simp at vacant
  · split at vacant
    · cases vacant
    · simp at vacant
    case h_3 asked => exact ⟨by simpa using vacant.symm, asked, same⟩

private theorem Disk.weigh_eq_settled {d : Disk} {path destination : Path} {status : Status}
    (settled : d.weigh path destination = .ok (.settled status)) :
    status = .skipped ∨ status = .existing := by
  unfold weigh at settled
  split_ifs at settled with null same
  · left
    simpa using settled.symm
  · split at settled
    · cases settled
    · right
      simpa using settled.symm
    · simp at settled

/-- A file that is settled is neither copied nor moved. -/
theorem Disk.prospect_eq_settled {d : Disk} {options : Options} {prober : Prober} {path : Path}
    {status : Status} (settled : d.prospect options prober path = .ok (.settled status)) :
    status = .skipped ∨ status = .existing ∨ status = .failed := by
  unfold prospect at settled
  split at settled
  · right
    right
    simpa using settled.symm
  · exact (weigh_eq_settled settled).imp_right .inl

theorem Disk.prospect_eq_vacant {d : Disk} {options : Options} {prober : Prober}
    {path destination : Path}
    (vacant : d.prospect options prober path = .ok (.vacant destination)) :
    planDestination options prober d path = .ok destination ∧ d.at? destination = .ok none ∧
      d.nominal destination ≠ d.nominal path := by
  unfold prospect at vacant
  split at vacant
  · simp at vacant
  case h_2 destination' planned =>
    obtain ⟨rfl, free, elsewhere⟩ := weigh_eq_vacant vacant
    exact ⟨planned, free, elsewhere⟩

namespace Run

/-- The path of a file and its destination, if it has one, are text. -/
def Textual (options : Options) (prober : Prober) (d : Disk) (path : Path) : Prop :=
  path.IsText ∧ ∀ p, planDestination options prober d path = .ok p → p.IsText

/-- The report, if there is one, can be told of a file. -/
def Legible (options : Options) (prober : Prober) (run : Run) (path : Path) : Prop :=
  run.reportFile = none ∨ Textual options prober run.disk path

/-- The ways in which inspecting a file may end: it finds out what the disk tells, unless it is
    hindered. Before a destination is found vacant, something is printed at most. -/
inductive Inspected (options : Options) (prober : Prober) (run : Run) (path : Path) :
    Stepped Decision → Prop where
  | vacant {console : Console} {destination : Path} (before : run.console.Before console)
    (told : run.disk.prospect options prober path = .ok (.vacant destination)) :
    Inspected options prober run path
      ⟨run.withConsole console, .ok (.vacant destination)⟩
  | settled {run' : Run} {status : Status} (steady : Steady (fun _ => False) run run')
    (told : run.disk.prospect options prober path = .ok (.settled status)) :
    Inspected options prober run path ⟨run', .ok (.settled status)⟩
  | broken {run' : Run} {fault : Fault} (steady : Steady (fun _ => False) run run')
    (told : run.disk.prospect options prober path = .error fault) :
    Inspected options prober run path ⟨run', .error (.disk fault)⟩
  | hindered {run' : Run} {mishap : Mishap} (steady : Steady (fun _ => False) run run')
    (refused : run.Legible options prober path → ¬run'.console.Heard) :
    Inspected options prober run path ⟨run', .error mishap⟩

section Inspect

variable {options : Options} {prober : Prober} {run : Run} {path : Path}

/-- A file that is settled is told of, and a row is added to the report. -/
theorem Inspected.of_goes {s : Stepped Decision} {status : Status}
    (told : run.disk.prospect options prober path = .ok (.settled status))
    (goes : Goes (fun _ => False) (run.Legible options prober path) run s (.settled status)) :
    Inspected options prober run path s := by
  obtain ⟨run', outcome⟩ := s
  obtain ⟨steady, rfl | ⟨⟨mishap, rfl⟩, refused⟩⟩ := goes
  · exact .settled steady told
  · exact .hindered steady refused

private theorem Inspected.of_print {console : Console} {s : Stepped Decision}
    (before : run.console.Before console)
    (inspected : Inspected options prober (run.withConsole console) path s) :
    Inspected options prober run path s := by
  have start := Steady.of_console (fun _ => False) before
  cases inspected with
  | vacant before' told => exact .vacant (before.trans before') told
  | settled steady told => exact .settled (start.trans steady) told
  | broken steady told => exact .broken (start.trans steady) told
  | hindered steady refused => exact .hindered (start.trans steady) refused

/-- A line that is printed before a file is inspected changes nothing unless it is refused. -/
theorem Inspected.next {s : Stepped Unit} {f : Run → Unit → Stepped Decision}
    (prints : Prints run s)
    (rest : ∀ console, run.console.Before console →
      Inspected options prober (run.withConsole console) path
        (f (run.withConsole console) ())) :
    Inspected options prober run path (s.next f) := by
  obtain ⟨console, before, rfl | ⟨reason, rfl, refused⟩⟩ := prints
  · exact .of_print before (rest console before)
  · exact .hindered (.of_console _ before) fun _ => refused

private theorem weigh_inspected {destination : Path}
    (planned : planDestination options prober run.disk path = .ok destination) :
    Inspected options prober run path (run.weigh options path destination) := by
  have told : run.disk.prospect options prober path = run.disk.weigh path destination := by
    simp only [Disk.prospect, planned]
  have clear : ∀ run' : Run, Steady (fun _ => False) run run' →
      run.Legible options prober path → run'.reportFile = none ∨
        path.IsText ∧ ∀ p, some destination = some p → p.IsText := by
    intro run' steady legible
    rw [steady.reportFile]
    refine legible.imp_right fun text => ⟨text.1, fun p same => text.2 p ?_⟩
    rw [planned, Option.some.inj same]
  have row : ∀ (text : List Letter) (status : Status),
      Goes (fun _ => False) (run.Legible options prober path) run
        ((run.log options text).next fun run _ =>
          (run.reportRow path (some destination) options.action status.text).next fun run _ =>
            run.yield (Decision.settled status)) (.settled status) := by
    intro text status
    refine ((prints_log options run text).goes _ _).next fun run' steady => ?_
    exact (reportRow_goes run' path _ options.action status.text (clear run' steady)).next
      fun _ _ => goes_yield _
  unfold weigh
  unfold Disk.weigh at told
  split_ifs at told ⊢ with null same
  · exact .broken (.refl _ _) told
  · exact .of_goes told (row _ _)
  · cases asked : run.disk.at? destination with
    | error fault => exact .broken (.refl _ _) (by simpa only [asked] using told)
    | ok entry =>
      simp only [asked] at told
      cases entry with
      | some entry => exact .of_goes told (row _ _)
      | none => exact .vacant (.refl _) told

theorem inspect_inspected (options : Options) (prober : Prober) (run : Run) (path : Path) :
    Inspected options prober run path (run.inspect options prober path) := by
  unfold inspect
  refine .next (prints_debug options run _) fun console before => ?_
  simp only
  cases planned : planDestination options prober run.disk path with
  | error refusal =>
    have told : run.disk.prospect options prober path = .ok (.settled .failed) := by
      simp only [Disk.prospect, planned]
    refine .of_goes told (((prints_complain _ path _).goes _ _).next fun run' steady => ?_)
    refine (reportRow_goes run' path none options.action _ fun legible => ?_).next
      fun _ _ => goes_yield _
    rw [steady.reportFile]
    exact legible.imp_right fun text => ⟨text.1, fun _ none => nomatch none⟩
  | ok destination =>
    simp only
    exact .next (prints_debug options _ _) fun console' before' => weigh_inspected planned

/-- A dry run only announces what it would do with a file. -/
theorem preview_goes {legible : Prop} (options : Options) (run : Run) (path destination : Path)
    (clear : legible → run.reportFile = none ∨ path.IsText ∧ destination.IsText) :
    Goes (fun _ => False) legible run (run.preview options path destination)
      options.action.done := by
  unfold preview
  refine ((prints_log options run _).goes _ _).next fun run' steady => ?_
  refine (reportRow_goes run' path _ options.action _ fun legible => ?_).next fun _ _ =>
    goes_yield _
  rw [steady.reportFile]
  refine (clear legible).imp_right fun text => ⟨text.1, fun p same => ?_⟩
  rw [← Option.some.inj same]
  exact text.2

end Inspect

/-- A step leaves the counters alone, the printer may be handed more in it, and it does not say in
    vain that the printer refused something. -/
structure Tame {α : Type} (run : Run) (s : Stepped α) : Prop where
  counters : s.run.counters = run.counters
  console : run.console.Before s.run.console
  refused : ∀ reason, s.outcome = .error (.unprinted reason) → ¬s.run.console.Heard

theorem Tame.next {α β : Type} {run : Run} {s : Stepped α} {f : Run → α → Stepped β}
    (first : Tame run s) (second : ∀ run' a, Tame run' (f run' a)) : Tame run (s.next f) := by
  obtain ⟨run', outcome⟩ := s
  obtain ⟨counters, console, refused⟩ := first
  cases outcome with
  | ok a =>
    obtain ⟨counters', console', refused'⟩ := second run' a
    exact ⟨counters'.trans counters, console.trans console', refused'⟩
  | error mishap =>
    refine ⟨counters, console, fun reason same => ?_⟩
    cases same
    exact refused reason rfl

theorem tame_yield {α : Type} (run : Run) (a : α) : Tame run (run.yield a) :=
  ⟨rfl, .refl _, fun _ same => by cases same⟩

theorem tame_stop {α : Type} (run : Run) {mishap : Mishap}
    (other : ∀ reason, mishap ≠ .unprinted reason) : Tame run (run.stop (α := α) mishap) :=
  ⟨rfl, .refl _, fun reason same => absurd (Except.error.inj same) (other reason)⟩

theorem Prints.tame {run : Run} {s : Stepped Unit} (prints : Prints run s) : Tame run s := by
  obtain ⟨console, before, rfl | ⟨reason, rfl, refused⟩⟩ := prints
  · exact ⟨rfl, before, fun _ same => by cases same⟩
  · exact ⟨rfl, before, fun _ _ => refused⟩

private theorem reportRow_tame (run : Run) (path : Path) (destination : Option Path)
    (action : Action) (status : String) :
    Tame run (run.reportRow path destination action status) := by
  unfold reportRow
  split
  · exact tame_yield run ()
  · split
    · exact ⟨rfl, .refl _, fun _ same => by cases same⟩
    · exact tame_stop run fun _ same => by cases same

private theorem recordOperation_tame (run : Run) (time : String) (op : Operation) :
    Tame run (run.recordOperation time op) := by
  unfold recordOperation
  split
  · exact tame_yield run ()
  · split
    · exact ⟨rfl, .refl _, fun _ same => by cases same⟩
    · exact tame_stop run fun _ same => by cases same

private theorem reportRow_yield_tame {α : Type} (run : Run) (path : Path)
    (destination : Option Path)
    (action : Action) (status : String) (a : α) :
    Tame run ((run.reportRow path destination action status).next fun run _ => run.yield a) :=
  (reportRow_tame run path destination action status).next fun run _ => tame_yield run a

private theorem weigh_tame (options : Options) (run : Run) (path destination : Path) :
    Tame run (run.weigh options path destination) := by
  have fault : ∀ fault reason, Mishap.disk fault ≠ .unprinted reason :=
    fun _ _ same => by cases same
  unfold weigh
  split_ifs
  · exact tame_stop run (fault _)
  · exact (prints_log options run _).tame.next fun run _ => reportRow_yield_tame run _ _ _ _ _
  · split
    · exact tame_stop run (fault _)
    · exact (prints_log options run _).tame.next fun run _ =>
        reportRow_yield_tame run _ _ _ _ _
    · exact tame_yield run _

private theorem inspect_tame (options : Options) (prober : Prober) (run : Run) (path : Path) :
    Tame run (run.inspect options prober path) := by
  refine (prints_debug options run _).tame.next fun run _ => ?_
  split
  · exact (prints_complain run path _).tame.next fun run _ =>
      reportRow_yield_tame run _ _ _ _ _
  · exact (prints_debug options run _).tame.next fun run _ => weigh_tame options run path _

/-- A transfer leaves the counters and the console alone. -/
theorem transfer_kept (action : Action) (run : Run) (path destination : Path) :
    (run.transfer action path destination).1.counters = run.counters ∧
      (run.transfer action path destination).1.console = run.console := by
  unfold transfer
  simp only
  split
  · exact ⟨rfl, rfl⟩
  · cases action with
    | copy => exact ⟨rfl, rfl⟩
    | move =>
      simp only
      split <;> exact ⟨rfl, rfl⟩

private theorem place_tame (time : String) (options : Options) (run : Run)
    (path destination : Path) :
    Tame run (run.place time options path destination) := by
  have fails : ∀ (run : Run) (reason : List Letter), Tame run
      ((run.complain path reason).next fun run _ =>
        (run.reportRow path (some destination) options.action Status.failed.text).next fun run _ =>
          run.yield Status.failed) :=
    fun run reason => (prints_complain run path reason).tame.next fun run _ =>
      reportRow_yield_tame run _ _ _ _ _
  unfold place
  simp only
  split
  · exact fails run _
  · obtain ⟨counters, console⟩ := transfer_kept options.action run path destination
    have kept : ∀ s : Stepped Status, Tame (run.transfer options.action path destination).1 s →
        Tame run s :=
      fun s tame => ⟨tame.counters.trans counters, console ▸ tame.console, tame.refused⟩
    generalize run.transfer options.action path destination = outcome at kept ⊢
    obtain ⟨run', fault⟩ := outcome
    cases fault with
    | some fault => exact kept _ (fails run' _)
    | none =>
      refine kept _ ((prints_log options run' _).tame.next fun run _ => ?_)
      exact (recordOperation_tame run time _).next fun run _ =>
        reportRow_yield_tame run _ _ _ _ _

/-- Handling a file does not count it. -/
theorem handle_tame (time : String) (options : Options) (prober : Prober) (run : Run)
    (path : Path) : Tame run (run.handle time options prober path) := by
  refine (inspect_tame options prober run path).next fun run decision => ?_
  split
  · exact tame_yield run _
  · split
    · exact (prints_log options run _).tame.next fun run _ =>
        reportRow_yield_tame run _ _ _ _ _
    · exact place_tame time options run path _

end Run

end MusicFiling
