import MusicFiling.Disk.Transfer
import MusicFiling.Organize.Basic
import MusicFiling.Report

/-!
# Organizing: one file after another

A run handles the selected files in order. A file that cannot be handled is reported and the next
one is taken. A file whose destination exists is left alone, and what was done is recorded in the
journal at once. A mishap that no step expects ends the handling of its file only; but telling of it
is a print like any other, and when the printer refuses that one, the run ends.
-/

namespace MusicFiling

/-- A run between two files: the disk, the open journal and report, the console, and the
    counters. -/
structure Run where
  disk : Disk
  journal : Option OpenFile
  report : Option Report
  console : Console
  counters : Counters

/-- What a step did not expect. -/
inductive Mishap where
  | disk (fault : Fault)
  /-- A row with stray bytes in it cannot be written. -/
  | unwritten (error : Text.Utf8.Unwritable)
  /-- The printer refused an output. -/
  | unprinted (reason : List Letter)
  deriving DecidableEq

/-- The wording of a mishap. -/
def Mishap.message : Mishap → List Letter
  | .disk fault => fault.message
  | .unwritten error => Text.letters error.message
  | .unprinted reason => reason

/-- A run after some steps, and what they yielded unless a mishap stopped them. -/
structure Stepped (α : Type) where
  run : Run
  outcome : Except Mishap α

/-- Goes on unless a mishap stopped the steps so far. -/
def Stepped.next {α β : Type} (s : Stepped α) (f : Run → α → Stepped β) : Stepped β :=
  match s.outcome with
  | .ok a => f s.run a
  | .error mishap => ⟨s.run, .error mishap⟩

namespace Run

/-- Goes on with a value. -/
def yield {α : Type} (run : Run) (a : α) : Stepped α := ⟨run, .ok a⟩

/-- Stops. -/
def stop {α : Type} (run : Run) (mishap : Mishap) : Stepped α := ⟨run, .error mishap⟩

/-- Prints something. -/
def print (run : Run) (output : Output) : Stepped Unit :=
  let handed := { run with console := run.console.hand output }
  match run.console.refusal? output with
  | none => handed.yield ()
  | some reason => handed.stop (.unprinted reason)

/-- Prints what is done. -/
def log (options : Options) (run : Run) (text : List Letter) : Stepped Unit :=
  if options.verbosity.shows .normal then run.print (.line text) else run.yield ()

/-- Prints what only a careful reader wants to know. -/
def debug (options : Options) (run : Run) (text : List Letter) : Stepped Unit :=
  if options.verbosity.shows .verbose then
    run.print (.line (Text.letters "[dim]" ++ text ++ Text.letters "[/dim]"))
  else run.yield ()

/-- Prints why a file failed. -/
def complain (run : Run) (path : Path) (reason : List Letter) : Stepped Unit :=
  run.print (.errorLine (Text.letters "[red]FAILED:[/red] " ++ path.text ++ Text.letters " (" ++
    reason ++ Text.letters ")"))

/-- Adds a row to the report, if there is one. -/
def reportRow (run : Run) (path : Path) (destination : Option Path) (action : Action)
    (status : String) : Stepped Unit :=
  match run.report with
  | none => run.yield ()
  | some report =>
    match report.record path destination action.text status run.disk with
    | .ok (report, disk) => { run with report := some report, disk := disk }.yield ()
    | .error error => run.stop (.unwritten error)

/-- Adds an operation to the journal, if there is one. -/
def recordOperation (run : Run) (time : String) (op : Operation) : Stepped Unit :=
  match run.journal with
  | none => run.yield ()
  | some file =>
    match Journal.record time op file run.disk with
    | .ok disk => { run with disk := disk }.yield ()
    | .error error => run.stop (.unwritten error)

/-- Keeps the open files at their contents when a file takes another place. -/
def followMove (run : Run) (source destination : Place) : Run :=
  { run with
    journal := run.journal.map (·.follow source destination)
    report := run.report.map fun r => { r with file := r.file.follow source destination } }

/-- Counts a file with the given status. -/
def count (run : Run) (status : Status) : Run :=
  { run with counters := run.counters.add status }

/-- What is to become of a file: it is settled, or it goes to a vacant destination. -/
inductive Decision where
  | settled (status : Status)
  | vacant (destination : Path)
  deriving DecidableEq

/-- Looks at what stands at the destination of a file. A path that the disk cannot even be asked
    about is a mishap. -/
def weigh (options : Options) (run : Run) (path destination : Path) : Stepped Decision :=
  if destination.hasNull ∨ path.hasNull then run.stop (.disk (.refused .nullByte destination))
  else if run.disk.nominal destination = run.disk.nominal path then
    (run.log options (Text.letters "Already in place, skipping: " ++ path.text)).next fun run _ =>
      (run.reportRow path (some destination) options.action Status.skipped.text).next fun run _ =>
        run.yield (.settled .skipped)
  else
    match run.disk.at? destination with
    | .error fault => run.stop (.disk fault)
    | .ok (some _) =>
      (run.log options (Text.letters "Exists, skipping: " ++ destination.text)).next fun run _ =>
        (run.reportRow path (some destination) options.action Status.existing.text).next
          fun run _ => run.yield (.settled .existing)
    | .ok none => run.yield (.vacant destination)

/-- Finds out what is to become of a file. -/
def inspect (options : Options) (prober : Prober) (run : Run) (path : Path) : Stepped Decision :=
  (run.debug options (Text.letters "Probing " ++ path.text)).next fun run _ =>
    match planDestination options prober run.disk path with
    | .error refusal =>
      (run.complain path refusal.message).next fun run _ =>
        (run.reportRow path none options.action Status.failed.text).next fun run _ =>
          run.yield (.settled .failed)
    | .ok destination =>
      (run.debug options (Text.letters "Filename built: " ++ destination.text)).next fun run _ =>
        run.weigh options path destination

/-- Announces the action on a file whose destination is vacant. -/
def preview (options : Options) (run : Run) (path destination : Path) : Stepped Status :=
  let done := options.action.done
  let announcement := Text.letters s!"DRY RUN: {options.action.text} " ++ path.text ++
    Text.letters " -> " ++ destination.text
  (run.log options announcement).next fun run _ =>
    (run.reportRow path (some destination) options.action s!"{done.text}:dry-run").next
      fun run _ => run.yield done

/-- Copies or moves a file to a vacant destination, for which folders are created. -/
def transfer (action : Action) (run : Run) (path destination : Path) : Run × Option Fault :=
  let made := run.disk.makeFolders destination.parent
  match made.fault with
  | some fault => ({ run with disk := made.disk }, some fault)
  | none =>
    match action with
    | .copy =>
      let attempt := made.disk.copy path destination
      ({ run with disk := attempt.disk }, attempt.fault)
    | .move =>
      let attempt := made.disk.move path destination
      let run := { run with disk := attempt.disk }
      let arrival := (made.disk.landing path destination).map made.disk.reach
      match attempt.fault, made.disk.reach path, arrival with
      | none, .ok a, some (.ok b) => (run.followMove a b, none)
      | fault, _, _ => (run, fault)

/-- Carries out the action on a file whose destination is vacant. -/
def place (time : String) (options : Options) (run : Run) (path destination : Path) :
    Stepped Status :=
  let done := options.action.done
  let fail (run : Run) (reason : List Letter) : Stepped Status :=
    (run.complain path reason).next fun run _ =>
      (run.reportRow path (some destination) options.action Status.failed.text).next fun run _ =>
        run.yield .failed
  if (run.disk.find? destination.parent).any (!·.isFolder) then
    fail run (destination.parent.text ++ Text.letters " exists but is not a directory")
  else
    match run.transfer options.action path destination with
    | (run, some fault) => fail run fault.message
    | (run, none) =>
      let news := Text.letters s!"{done.text.capitalize}: " ++ path.text ++
        Text.letters " -> " ++ destination.text
      (run.log options news).next fun run _ =>
        (run.recordOperation time ⟨options.action, path, destination⟩).next fun run _ =>
          (run.reportRow path (some destination) options.action done.text).next fun run _ =>
            run.yield done

/-- Handles one file and tells what became of it. -/
def handle (time : String) (options : Options) (prober : Prober) (run : Run) (path : Path) :
    Stepped Status :=
  (run.inspect options prober path).next fun run decision =>
    match decision with
    | .settled status => run.yield status
    | .vacant destination =>
      if options.dryRun then run.preview options path destination
      else run.place time options path destination

/-- Tells of the mishap that ended the handling of a file. -/
def rescue (path : Path) (handled : Stepped Status) : Stepped Status :=
  match handled.outcome with
  | .ok status => handled.run.yield status
  | .error mishap =>
    (handled.run.complain path mishap.message).next fun run _ => run.yield .failed

/-- Handles and counts file number `index`, and tells the progress. -/
def handleNext (clock : Nat → String) (options : Options) (prober : Prober) (total index : Nat)
    (run : Run) (path : Path) : Stepped Unit :=
  (rescue path (run.handle (clock index) options prober path)).next fun run status =>
    let percent := 100 * index / total
    (run.count status).debug options
      (Text.letters s!"Handled {percent}% of all files ({index}/{total})")

/-- Handles the files of a list, of which the first is number `index`. -/
def handleAll (clock : Nat → String) (options : Options) (prober : Prober) (total : Nat)
    (run : Run) : Nat → List Path → Stepped Unit
  | _, [] => run.yield ()
  | index, path :: rest =>
    (run.handleNext clock options prober total index path).next fun run _ =>
      handleAll clock options prober total run (index + 1) rest

end Run

end MusicFiling
