import MusicFiling.Proofs.Organize.Outcomes
import MusicFiling.Proofs.Organize.Replay

/-!
# Reports and counters

A report has a row for each file, in the order in which the files are handled, except for the files
whose handling a mishap ended. The rows with each status are as many as the files that were counted
with it, and what failed without a row makes up the rest of the failures. `Reported` is what every
step of a run keeps: the text of the report so far, in part written and in part waiting.
-/

namespace MusicFiling

open Disk

/-- A row of a report. -/
structure ReportRow where
  source : Path
  destination : Option Path
  action : Action
  status : String

/-- The text of a row. -/
def ReportRow.text (row : ReportRow) : List Letter :=
  Report.row row.source row.destination row.action.text row.status

/-- The word that a report has for a status. What a dry run would do is marked. -/
def Status.label (dryRun : Bool) (status : Status) : String :=
  if dryRun ∧ (status = .copied ∨ status = .moved) then s!"{status.text}:dry-run" else status.text

private theorem Status.label_injective (dryRun : Bool) : Function.Injective (label dryRun) := by
  intro status status' same
  cases dryRun <;> cases status <;> cases status' <;> first | rfl | exact absurd same (by decide)

@[simp] theorem Status.label_false (status : Status) : status.label false = status.text := by
  simp [label]

@[simp] theorem Status.label_skipped (dryRun : Bool) :
    Status.skipped.label dryRun = Status.skipped.text := by
  simp [label]

@[simp] theorem Status.label_existing (dryRun : Bool) :
    Status.existing.label dryRun = Status.existing.text := by
  simp [label]

@[simp] theorem Status.label_failed (dryRun : Bool) :
    Status.failed.label dryRun = Status.failed.text := by
  simp [label]

private theorem Status.label_done (action : Action) :
    action.done.label true = s!"{action.done.text}:dry-run" := by
  cases action <;> rfl

private theorem overwriteAt_length (content bytes : List UInt8) :
    overwriteAt content content.length bytes = content ++ bytes := by
  simp [overwriteAt]

namespace Run

/-- The report that a run has open at a place has a text, once what waits is written; the journal
    is not written there. -/
structure Reported (place : Place) (text : List Letter) (run : Run) : Prop where
  opened : ∃ content waiting, run.report = some ⟨⟨some place⟩, content.length, waiting⟩ ∧
    run.disk.file? place = some content ∧ Text.Utf8.encodeText text = .ok (content ++ waiting)
  elsewhere : ¬run.Journaling place

namespace Reported

variable {place : Place} {text : List Letter} {run run' : Run} (reported : run.Reported place text)
include reported

/-- Nothing matters but the report and what stands at its place. -/
theorem congr (report : run'.report = run.report)
    (file : run'.disk.file? place = run.disk.file? place) (elsewhere : ¬run'.Journaling place) :
    run'.Reported place text := by
  obtain ⟨⟨content, waiting, open', stands, same⟩, -⟩ := reported
  exact ⟨⟨content, waiting, report.trans open', file.trans stands, same⟩, elsewhere⟩

private theorem stands : run.disk.file? place ≠ none := by
  obtain ⟨content, -, -, stands, -⟩ := reported.opened
  simp [stands]

private theorem withConsole (console : Console) : (run.withConsole console).Reported place text :=
  ⟨reported.opened, reported.elsewhere⟩

private theorem count (status : Status) : (run.count status).Reported place text :=
  ⟨reported.opened, reported.elsewhere⟩

private theorem prints {s : Stepped Unit} (prints : Prints run s) :
    s.Ends (Reported place text) fun run _ => run.Reported place text := by
  obtain ⟨console, -, rfl | ⟨reason, rfl, -⟩⟩ := prints
  · exact reported.withConsole console
  · exact reported.withConsole console

/-- What is written comes after what was written before. -/
theorem reportRow (row : ReportRow) :
    (run.reportRow row.source row.destination row.action row.status).Ends (Reported place text)
      fun run _ => run.Reported place (text ++ row.text) := by
  obtain ⟨⟨content, waiting, open', stands, same⟩, elsewhere⟩ := id reported
  simp only [Run.reportRow, open', Report.record]
  cases encoded : Text.Utf8.encodeText (Report.row row.source row.destination row.action.text
      row.status) with
  | error error => exact reported
  | ok bytes =>
    refine ⟨⟨content ++ (waiting ++ bytes), [], ?_, ?_, ?_⟩, elsewhere⟩
    · simp [Report.write, yield, Except.map]
    · simp only [Except.map, yield, Report.write, OpenFile.writeAt]
      rw [OpenFile.file?_modify rfl, stands, Option.map_some, overwriteAt_length]
    · rw [List.append_nil, ← List.append_assoc]
      exact Text.Utf8.encodeText_append same encoded

/-- Something is printed of a file, and then its row is added. -/
theorem prints_reportRow {α : Type} {s : Stepped Unit} (told : Prints run s) (row : ReportRow)
    (a : α) {yielded : Run → α → Prop}
    (added : ∀ run, run.Reported place (text ++ row.text) → yielded run a) :
    (s.next fun run _ =>
      (run.reportRow row.source row.destination row.action row.status).next fun run _ =>
        run.yield a).Ends (Reported place text) yielded :=
  (reported.prints told).next fun _ _ kept =>
    (kept.reportRow row).next fun run _ more => added run more

/-- A closed report has the whole text. -/
theorem file?_close : ∃ bytes, Text.Utf8.encodeText text = .ok bytes ∧
    run.close.disk.file? place = some bytes := by
  obtain ⟨⟨content, waiting, open', stands, same⟩, -⟩ := reported
  refine ⟨content ++ waiting, same, ?_⟩
  simp only [close, open', Report.close, Report.write]
  split_ifs with nothing
  · rw [stands, List.isEmpty_iff.mp nothing, List.append_nil]
  · simp only [OpenFile.writeAt]
    rw [OpenFile.file?_modify rfl, stands, Option.map_some, overwriteAt_length, List.append_nil]

private theorem recordOperation (time : String) (op : Operation) :
    (run.recordOperation time op).Ends (Reported place text)
      fun run _ => run.Reported place text := by
  have kept : (run.recordOperation time op).run.Reported place text := by
    refine reported.congr ?_ ?_ ?_
    · unfold Run.recordOperation
      split
      · rfl
      · split <;> rfl
    · exact (recordOperation_grows run time op).file?_eq reported.elsewhere
    · simpa only [Journaling, recordOperation_journal] using reported.elsewhere
  exact Stepped.ends_iff.mpr kept

/-- A delivery between other places leaves the report where it is. -/
theorem arrive (action : Action) {origin goal : Place} {delivered : Disk}
    (notOrigin : place ≠ origin) (notGoal : place ≠ goal)
    (same : delivered.file? place = run.disk.file? place) :
    (run.arrive action origin goal delivered).Reported place text := by
  cases action with
  | copy => exact reported.congr rfl same reported.elsewhere
  | move =>
    refine reported.congr ?_ same ?_
    · obtain ⟨content, waiting, open', -, -⟩ := reported.opened
      simp [Run.arrive, followMove, open', follow_other notOrigin notGoal]
    · rintro ⟨file, kept, here⟩
      obtain ⟨before, journal, rfl⟩ := Option.map_eq_some_iff.mp kept
      rcases follow_place here with ⟨atGoal, -⟩ | ⟨there, -⟩
      · exact notGoal atGoal
      · exact reported.elsewhere ⟨before, journal, there⟩

end Reported

section

variable {place : Place} {text : List Letter} {run : Run} (reported : run.Reported place text)
  {options : Options} {path : Path}
include reported

private theorem weigh_reported (destination : Path) :
    (run.weigh options path destination).Ends (Reported place text) fun run decision =>
      ∀ status, decision = .settled status → run.Reported place (text ++ ReportRow.text
        ⟨path, some destination, options.action, status.label options.dryRun⟩) := by
  unfold weigh
  split_ifs
  · exact reported
  · refine reported.prints_reportRow (prints_log options run _)
      ⟨path, some destination, options.action, Status.skipped.text⟩ _ fun run added => ?_
    rintro status ⟨⟩
    rwa [Status.label_skipped]
  · split
    · exact reported
    · refine reported.prints_reportRow (prints_log options run _)
        ⟨path, some destination, options.action, Status.existing.text⟩ _ fun run added => ?_
      rintro status ⟨⟩
      rwa [Status.label_existing]
    · rintro status ⟨⟩

/-- Inspecting a file adds its row if it settles what is to become of it. -/
theorem inspect_reported (prober : Prober) :
    (run.inspect options prober path).Ends (Reported place text) fun run' decision =>
      ∀ status, decision = .settled status → run'.Reported place (text ++ ReportRow.text
        ⟨path, (planDestination options prober run.disk path).toOption, options.action,
          status.label options.dryRun⟩) := by
  obtain ⟨console, -, told | ⟨reason, told, -⟩⟩ :=
    prints_debug options run (Text.letters "Probing " ++ path.text)
  · have kept := reported.withConsole console
    simp only [inspect, told, Stepped.next_ok]
    cases planned : planDestination options prober run.disk path with
    | error refusal =>
      refine kept.prints_reportRow (prints_complain _ path refusal.message)
        ⟨path, none, options.action, Status.failed.text⟩ _ fun run' added => ?_
      rintro status ⟨⟩
      rwa [Status.label_failed]
    | ok destination =>
      exact (kept.prints (prints_debug options _ _)).next
        fun _ _ kept' => weigh_reported kept' destination
  · simp only [inspect, told, Stepped.next_error]
    exact reported.withConsole console

variable (tree : run.disk.WellFormed) (target : options.target.Direct) {content : List UInt8}
  (stands : run.disk.file? (run.disk.nominal path) = some content)
  (apart : run.disk.nominal path ≠ place)
include tree target stands apart

private theorem place_reported (time : String) {prober : Prober} {destination : Path}
    (real : options.dryRun = false)
    (told : run.disk.prospect options prober path = .ok (.vacant destination)) :
    (run.place time options path destination).Ends (Reported place text) fun run' status =>
      run'.Reported place (text ++ ReportRow.text
        ⟨path, some destination, options.action, status.text⟩) := by
  obtain ⟨planned, vacant, elsewhere⟩ := prospect_eq_vacant told
  unfold Run.place
  simp only
  split_ifs with blocked
  · exact reported.prints_reportRow (prints_complain run path _)
      ⟨path, some destination, options.action, Status.failed.text⟩ _ fun _ added => added
  · rcases transfer_cases tree stands options.action elsewhere with
      ⟨fault, -, stopped⟩ | ⟨-, origin, goal, content', delivered, made, delivery, done⟩
    · simp only [stopped]
      have kept : Reported place text
          { run with disk := (run.disk.makeFolders destination.parent).disk } :=
        reported.congr rfl ((aboveFile_grows run.disk destination).file?_eq id) reported.elsewhere
      exact kept.prints_reportRow (prints_complain _ path _)
        ⟨path, some destination, options.action, Status.failed.text⟩ _ fun _ added => added
    · simp only [done]
      have arrived : Delivered options prober run path destination origin goal content'
          delivered := ⟨real, planned, vacant, elsewhere, made, delivery⟩
      obtain ⟨-, free, -⟩ := arrived.goal_of_grounded tree (grounded_of_direct run.disk target)
      have notOrigin : place ≠ origin := arrived.origin_eq ▸ Ne.symm apart
      have notGoal : place ≠ goal := by
        rintro rfl
        exact reported.stands free
      have same : delivered.file? place = run.disk.file? place := by
        rw [arrived.file_delivered tree, if_neg notGoal, if_neg fun moved => notOrigin moved.2]
      have kept := reported.arrive options.action notOrigin notGoal same
      refine (kept.prints (prints_log options _ _)).next fun run' _ kept => ?_
      refine (kept.recordOperation time _).next fun run' _ kept => ?_
      exact (kept.reportRow ⟨path, some destination, options.action, _⟩).next
        fun _ _ added => added

/-- A row is added for a file with what became of it, unless a mishap ends its handling. -/
theorem handle_reported (time : String) (prober : Prober) :
    (run.handle time options prober path).Ends (Reported place text) fun run' status =>
      run'.Reported place (text ++ ReportRow.text
        ⟨path, (planDestination options prober run.disk path).toOption, options.action,
          status.label options.dryRun⟩) := by
  have ends := @inspect_reported place text run reported options path prober
  have inspected := inspect_inspected options prober run path
  unfold handle
  generalize run.inspect options prober path = s at ends inspected ⊢
  cases inspected with
  | settled steady told => exact ends _ rfl
  | broken steady told => exact ends
  | hindered steady refused => exact ends
  | @vacant console destination before told =>
    have planned := (prospect_eq_vacant told).1
    have kept := reported.withConsole console
    simp only [Stepped.next_ok, planned, Except.toOption]
    cases dry : options.dryRun with
    | true =>
      simp only [if_true, preview]
      refine kept.prints_reportRow (prints_log options _ _)
        ⟨path, some destination, options.action, _⟩ _ fun run' added => ?_
      rwa [Status.label_done]
    | false =>
      simp only [Bool.false_eq_true, if_false, Status.label_false]
      exact place_reported kept tree target stands apart time dry told

end

/-- The handling of the file of a turn. -/
def handled (clock : Nat → String) (options : Options) (prober : Prober) (visit : Visit) :
    Stepped Status :=
  visit.run.handle (clock visit.index) options prober visit.path

/-- The row that the report has for the file of a turn, unless a mishap ended its handling. -/
def row? (clock : Nat → String) (options : Options) (prober : Prober) (visit : Visit) :
    Option ReportRow :=
  match (handled clock options prober visit).outcome with
  | .ok status =>
    some ⟨visit.path, (planDestination options prober visit.run.disk visit.path).toOption,
      options.action, status.label options.dryRun⟩
  | .error _ => none

section

variable {place : Place} {text : List Letter} {clock : Nat → String} {options : Options}
  {prober : Prober} {total index : Nat} {run : Run}

/-- Counting a file and telling the progress leaves the report as it is, unless it is hindered. -/
theorem Reported.handleNext (reported : run.Reported place text) (target : options.target.Direct)
    {path : Path} {rest : List Path} (ready : run.Ready (path :: rest))
    (apart : run.disk.nominal path ≠ place)
    (ended : (run.handleNext clock options prober total index path).outcome = .ok ()) :
    (run.handleNext clock options prober total index path).run.Reported place
      (text ++ (row? clock options prober ⟨run, index, path⟩).toList.flatMap ReportRow.text) := by
  obtain ⟨content, stands⟩ := ready.standing path List.mem_cons_self
  have ends := handle_reported reported ready.tree target stands apart (clock index) prober
  rcases handleNext_cases clock options prober total index run path with
    ⟨console, -, next⟩ | ⟨run', reason, -, -, stopped⟩
  · rw [next]
    unfold row? handled
    unfold Stepped.Ends at ends
    cases outcome : (run.handle (clock index) options prober path).outcome with
    | ok status =>
      simp only [outcome] at ends ⊢
      simpa using (ends.count _).withConsole console
    | error mishap =>
      simp only [outcome] at ends ⊢
      simpa using (ends.count _).withConsole console
  · rw [stopped] at ended
    cases ended

/-- All turns together; the induction is on the files that are still to be handled. -/
theorem Reported.handleAll (reported : run.Reported place text) (target : options.target.Direct)
    {files : List Path} (ready : run.Ready files)
    (apart : ∀ path ∈ files, run.disk.nominal path ≠ place)
    (returned : (run.handleAll clock options prober total index files).outcome = .ok ()) :
    (run.handleAll clock options prober total index files).run.Reported place
      (text ++ ((run.turns clock options prober total index files).filterMap
        (row? clock options prober)).flatMap ReportRow.text) := by
  induction files generalizing run text index with
  | nil => simpa [Run.handleAll, turns, yield] using reported
  | cons path rest ih =>
    obtain ⟨here, later⟩ := List.forall_mem_cons.mp apart
    obtain ⟨ended, whole⟩ := handleAll_cons_of_ok returned
    have turn : Turn (clock index) options prober run path (run.operation? options prober path)
        (run.handleNext clock options prober total index path).run := ready.turn total index
    have nominal : (run.handleNext clock options prober total index path).run.disk.nominal =
        run.disk.nominal := funext (nominal_congr turn.working)
    rw [whole] at returned ⊢
    have rest := ih (reported.handleNext target ready here ended) (ready.next turn)
      (by rwa [nominal]) returned
    simp only [turns, ended, List.filterMap_cons]
    cases row : row? clock options prober ⟨run, index, path⟩ with
    | none => simpa [row] using rest
    | some row' => simpa [row] using rest

end

/-- A batch that has begun has opened its report, in which the header waits. -/
theorem reported_of_begun {options : Options} {printer : Printer} {d : Disk} {run : Run}
    {files : List Path} (begun : beginBatch options printer d = (run, .ok files)) {report : Path}
    (wanted : options.report = some report)
    (other : d.nominal report ≠ d.nominal options.journal) :
    run.Reported (d.nominal report) Report.header := by
  have journal := (beginBatch_ok begun).journal
  have beginning := beginBatch_beginning options printer d
  rw [begun] at beginning
  cases beginning with
  | @begun first second _ _ fresh found opened opened' =>
    obtain ⟨rfl, -, -, -⟩ := fresh
    have working := (openJournal_grows options first).nominal report
    rw [opened] at working
    unfold openReport at opened'
    cases tried : second.disk.openToReplace report with
    | failed disk fault => simp [wanted, tried, stop] at opened'
    | opened disk file =>
      obtain ⟨-, rfl, -, empty⟩ := openKeeping_opened tried
      simp only [wanted, tried, yield, Stepped.mk.injEq, and_true] at opened'
      subst opened'
      rw [working] at empty
      have plain : Text.Plain Report.header := by decide
      refine ⟨⟨[], Text.Utf8.encode (Report.header.map Letter.shown), ?_, empty,
        Text.Utf8.encodeText_of_plain plain⟩, ?_⟩
      · simp [Report.ofFile, working]
      · rintro ⟨file, kept, here⟩
        rw [journal] at kept
        split_ifs at kept
        obtain rfl := Option.some.inj kept
        exact other (Option.some.inj here).symm

section

variable {clock : Nat → String} {options : Options} {prober : Prober}

private theorem row?_eq_none_iff {visit : Visit} :
    row? clock options prober visit = none ↔
      (handled clock options prober visit).outcome.isOk = false := by
  unfold row?
  cases (handled clock options prober visit).outcome <;> simp [Except.isOk, Except.toBool]

private theorem row?_eq_some {visit : Visit} {row : ReportRow}
    (reported : row? clock options prober visit = some row) :
    (handled clock options prober visit).outcome.isOk = true ∧ row.source = visit.path ∧
      row.status = (handled clock options prober visit).status.label options.dryRun := by
  unfold row? at reported
  unfold Stepped.status
  cases outcome : (handled clock options prober visit).outcome with
  | ok status =>
    simp only [outcome, Option.some.injEq] at reported
    subst reported
    exact ⟨rfl, rfl, rfl⟩
  | error mishap => simp [outcome] at reported

private theorem status_of_broken {s : Stepped Status} (broken : s.outcome.isOk = false) :
    s.status = .failed := by
  obtain ⟨run, outcome⟩ := s
  cases outcome with
  | ok status => cases broken
  | error mishap => rfl

variable (clock options prober)

private theorem filterMap_row?_map_source (turns : List Visit) :
    (turns.filterMap (row? clock options prober)).map ReportRow.source =
      (turns.filter fun visit => (handled clock options prober visit).outcome.isOk).map
        Visit.path := by
  induction turns with
  | nil => rfl
  | cons visit turns ih =>
    rw [List.filterMap_cons, List.filter_cons]
    cases row : row? clock options prober visit with
    | none =>
      simp only [row?_eq_none_iff.mp row, Bool.false_eq_true, if_false]
      exact ih
    | some row' =>
      obtain ⟨whole, source, -⟩ := row?_eq_some row
      simp only [whole, if_true, List.map_cons, ih, source]

/-- The rows with a status, and the files without a row that have it. -/
theorem countP_status (turns : List Visit) (status : Status) :
    (turns.filterMap (row? clock options prober)).countP
          (·.status = status.label options.dryRun) +
        turns.countP (fun visit => (handled clock options prober visit).outcome.isOk = false ∧
          (handled clock options prober visit).status = status) =
      ((turns.map (outcome clock options prober)).map Prod.snd).count status := by
  induction turns with
  | nil => rfl
  | cons visit turns ih =>
    have label := (Status.label_injective options.dryRun).eq_iff
      (a := (handled clock options prober visit).status) (b := status)
    have same : (outcome clock options prober visit).2 =
      (handled clock options prober visit).status := rfl
    rw [List.filterMap_cons, List.map_cons, List.map_cons, List.count_cons, ← ih,
      List.countP_cons, same]
    cases row : row? clock options prober visit with
    | none =>
      have broken := row?_eq_none_iff.mp row
      simp [broken, Nat.add_assoc]
    | some row' =>
      obtain ⟨whole, -, word⟩ := row?_eq_some row
      simp only [word, whole, List.countP_cons, label]
      simp
      omega

/-- Where nothing hinders it, handling breaks down on the files that the disk cannot be asked
    about. -/
theorem Handled.isOk_iff {time : String} {options : Options} {prober : Prober} {run : Run}
    {path : Path} {op : Option Operation} {s : Stepped Status}
    (handled : Handled time options prober run path op s) (heard : s.run.console.Heard)
    (text : Textual options prober run.disk path) :
    s.outcome.isOk = false ↔ ∃ fault, run.disk.prospect options prober path = .error fault := by
  cases handled with
  | settled steady told => simp [told, Except.isOk, Except.toBool]
  | broken steady told => simp [told, Except.isOk, Except.toBool]
  | previewed dry steady told => simp [told, Except.isOk, Except.toBool]
  | prevented real steady told cause => simp [told, Except.isOk, Except.toBool]
  | carried told free delivers carried yields =>
    obtain ⟨rfl, -⟩ | ⟨-, refused⟩ := yields
    · simp [told, Except.isOk, Except.toBool]
    · exact absurd heard (refused ⟨text.1, text.2 _ carried.planned⟩)
  | hindered steady refused => exact absurd heard (refused (.inr text))

end

end Run

/-- How many files had a status. -/
def Counters.number (c : Counters) : Status → Nat
  | .copied => c.copied
  | .moved => c.moved
  | .skipped => c.skipped
  | .existing => c.existing
  | .failed => c.failed

private theorem Counters.number_tally (statuses : List Status) (status : Status) :
    (tally statuses).number status = statuses.count status := by
  rw [tally_eq]
  cases status <;> rfl

section

variable (clock : Nat → String) (options : Options) (prober : Prober) (printer : Printer) (d : Disk)

/-- The rows that the report of a batch has. -/
def batchRows : List ReportRow :=
  (batchTurns clock options prober printer d).filterMap (Run.row? clock options prober)

/-- The turns of a batch in which a mishap ended the handling of the file. -/
def brokenTurns : List Visit :=
  (batchTurns clock options prober printer d).filter fun visit =>
    !(Run.handled clock options prober visit).outcome.isOk

/-- A report says of each file what the counters count. -/
structure ReportAgrees (report : Path) (counters : Counters) : Prop where
  /-- The report has its header and then the rows. -/
  written : ∃ bytes,
    Text.Utf8.encodeText (Report.header ++
      (batchRows clock options prober printer d).flatMap ReportRow.text) = .ok bytes ∧
    (organize clock options prober printer d).disk.file? (d.nominal report) = some bytes
  /-- Each selected file is handled in one turn, in the order of the traversal. -/
  traversed : discover d options.selection options.source =
    .ok ((batchTurns clock options prober printer d).map Visit.path)
  /-- The rows are those of the files whose handling no mishap ended, in the same order. -/
  ordered : (batchRows clock options prober printer d).map ReportRow.source =
    ((batchTurns clock options prober printer d).filter fun visit =>
      (Run.handled clock options prober visit).outcome.isOk).map Visit.path
  /-- Each row has the word for a status, marked if and only if the run is dry. -/
  labelled : ∀ row ∈ batchRows clock options prober printer d,
    ∃ status : Status, row.status = status.label options.dryRun
  counted : ∀ status, status ≠ .failed →
    (batchRows clock options prober printer d).countP (·.status = status.label options.dryRun) =
      counters.number status
  failed : (batchRows clock options prober printer d).countP (·.status = Status.failed.text) +
    (brokenTurns clock options prober printer d).length = counters.failed
  /-- In an unhindered batch, the files without a row are those that the disk cannot be asked
      about. -/
  asked : Unhindered clock options prober printer d →
    ∀ visit ∈ batchTurns clock options prober printer d,
      (visit ∈ brokenTurns clock options prober printer d ↔
        ∃ fault, visit.run.disk.prospect options prober visit.path = .error fault)

end

section

variable {clock : Nat → String} {options : Options} {prober : Prober} {printer : Printer} {d : Disk}

private theorem mem_brokenTurns_iff (tree : d.WellFormed)
    (unhindered : Unhindered clock options prober printer d) {visit : Visit}
    (member : visit ∈ batchTurns clock options prober printer d) :
    visit ∈ brokenTurns clock options prober printer d ↔
      ∃ fault, visit.run.disk.prospect options prober visit.path = .error fault := by
  obtain ⟨rest, ready⟩ := exists_ready_of_mem_batchTurns tree member
  obtain ⟨content, stands⟩ := ready.standing visit.path List.mem_cons_self
  have handled := Run.handle_handled (clock visit.index) options prober ready.tree stands
  have heard := heard_of_mem_batchTurns unhindered.heard member
  have text := Run.textual prober visit.run.disk unhindered.target (unhindered.isText member)
  rw [brokenTurns, List.mem_filter, Bool.not_eq_true', ← handled.isOk_iff heard text]
  exact and_iff_right member

/-- The report of a batch that returns agrees with its counters, provided that it is neither the
    journal nor one of the files. -/
theorem organize_reportAgrees (tree : d.WellFormed) (target : options.target.Direct)
    {report : Path} (wanted : options.report = some report)
    (other : d.nominal report ≠ d.nominal options.journal)
    (apart : ∀ files, discover d options.selection options.source = .ok files →
      ∀ path ∈ files, d.nominal path ≠ d.nominal report)
    {counters : Counters}
    (returned : (organize clock options prober printer d).result = .ok counters) :
    ReportAgrees clock options prober printer d report counters := by
  have tallied := counters_eq_tally returned
  obtain ⟨run, files, begun⟩ := exists_begun_of_returned returned
  have finished : BatchFinished clock options prober printer d run files :=
    batchFinished_of_begun begun
  have nominal : run.disk.nominal = d.nominal := funext finished.begun.grown.nominal
  have counts : ∀ status, _ = counters.number status := fun status =>
    (Run.countP_status clock options prober (batchTurns clock options prober printer d)
      status).trans (tallied ▸ (Counters.number_tally _ status).symm)
  have handled := (Run.reported_of_begun begun wanted other).handleAll target
    (finished.begun.ready tree) (nominal ▸ apart files finished.begun.found)
    (finished.returned returned).1
  refine
    { written := ?_
      traversed := discover_of_returned returned
      ordered := Run.filterMap_row?_map_source clock options prober _
      labelled := ?_
      counted := ?_
      failed := ?_
      asked := fun unhindered _ => mem_brokenTurns_iff tree unhindered }
  · rw [finished.disk, batchRows, finished.turns]
    exact handled.file?_close
  · intro row member
    obtain ⟨visit, -, reported⟩ := List.mem_filterMap.mp member
    exact ⟨_, (Run.row?_eq_some reported).2.2⟩
  · intro status other
    have none : (batchTurns clock options prober printer d).countP (fun visit =>
        (Run.handled clock options prober visit).outcome.isOk = false ∧
          (Run.handled clock options prober visit).status = status) = 0 := by
      refine List.countP_eq_zero.mpr fun visit _ both => ?_
      obtain ⟨broken, same⟩ := of_decide_eq_true both
      exact other (same.symm.trans (Run.status_of_broken broken))
    rw [← counts, none]
    rfl
  · have all : (batchTurns clock options prober printer d).countP (fun visit =>
        (Run.handled clock options prober visit).outcome.isOk = false ∧
          (Run.handled clock options prober visit).status = .failed) =
        (brokenTurns clock options prober printer d).length := by
      rw [brokenTurns, ← List.countP_eq_length_filter]
      refine List.countP_congr fun visit _ => ?_
      simp only [decide_eq_true_eq, Bool.not_eq_true', and_iff_left_iff_imp]
      exact Run.status_of_broken
    have failed := counts .failed
    rwa [all, Status.label_failed] at failed

end

/-- Moves the songs and reports what became of them. -/
def Twins.reporting : Options :=
  { Twins.options with report := some (Path.ofString "report.csv") }

theorem reportAgrees_twins :
    Twins.disk.WellFormed ∧ Twins.reporting.target.Direct ∧
      Twins.disk.nominal (Path.ofString "report.csv") ≠
        Twins.disk.nominal Twins.reporting.journal ∧
      discover Twins.disk Twins.reporting.selection Twins.reporting.source = .ok Twins.songs ∧
      (∀ path ∈ Twins.songs,
        Twins.disk.nominal path ≠ Twins.disk.nominal (Path.ofString "report.csv")) ∧
      (organize (fun _ => "") Twins.reporting Prober.echo .patient Twins.disk).result =
        .ok Twins.counters ∧
      (batchRows (fun _ => "") Twins.reporting Prober.echo .patient Twins.disk).map
        ReportRow.status = ["moved", "exists", "moved"] ∧
      ReportAgrees (fun _ => "") Twins.reporting Prober.echo .patient Twins.disk
        (Path.ofString "report.csv") Twins.counters := by
  have tree : Twins.disk.WellFormed := by decide +kernel
  have target : Twins.reporting.target.Direct := by decide +kernel
  have other : Twins.disk.nominal (Path.ofString "report.csv") ≠
      Twins.disk.nominal Twins.reporting.journal := by decide +kernel
  have found : discover Twins.disk Twins.reporting.selection Twins.reporting.source =
      .ok Twins.songs := Twins.discover_songs
  have apart : ∀ path ∈ Twins.songs,
      Twins.disk.nominal path ≠ Twins.disk.nominal (Path.ofString "report.csv") := by
    decide +kernel
  have returned : (organize (fun _ => "") Twins.reporting Prober.echo .patient Twins.disk).result =
      .ok Twins.counters := by
    unfold organize beginBatch Run.prepare
    simp only [found]
    decide +kernel
  have rows : (batchRows (fun _ => "") Twins.reporting Prober.echo .patient Twins.disk).map
      ReportRow.status = ["moved", "exists", "moved"] := by
    unfold batchRows batchTurns beginBatch Run.prepare
    simp only [found]
    decide +kernel
  refine ⟨tree, target, other, found, apart, returned, rows, ?_⟩
  refine organize_reportAgrees tree target rfl other ?_ returned
  intro files same
  obtain rfl := Except.ok.inj (found.symm.trans same)
  exact apart

end MusicFiling
