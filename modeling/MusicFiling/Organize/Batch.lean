import MusicFiling.Discovery
import MusicFiling.Organize.Run

/-!
# Organizing a collection

A batch begins by checking the pattern, finding the files and opening the journal and the report.
Once it has begun it handles every file, unless the printer refuses what the run has to say about
one, and ends with a summary.
-/

namespace MusicFiling

namespace Run

/-- The lines that end every run. -/
def summary (options : Options) (c : Counters) : List (List Letter) :=
  ["", "[bold]Summary[/bold]" ++ (if options.dryRun then " (dry run)" else ""),
   s!"Copied:  {c.copied}", s!"Moved:   {c.moved}", s!"Skipped: {c.skipped}",
   s!"Exists:  {c.existing}", s!"Failed:  {c.failed}"].map Text.letters ++
  (if options.dryRun then [] else [Text.letters "Log:     " ++ options.journal.text]) ++
  (match options.report with
   | some report => [Text.letters "Report:  " ++ report.text]
   | none => [])

/-- Prints the lines that end every run. -/
def summarize (options : Options) (run : Run) : Stepped Unit :=
  let (console, refusal) := run.console.handAll ((summary options run.counters).map .line)
  match refusal with
  | none => { run with console := console }.yield ()
  | some reason => { run with console := console }.stop (.unprinted reason)

/-- Closes the open files. -/
def close (run : Run) : Run :=
  { run with
    disk := match run.report with
      | some report => report.close run.disk
      | none => run.disk }

/-- Opens the journal, of which a dry run has none. -/
def openJournal (options : Options) (run : Run) : Stepped Unit :=
  if options.dryRun then run.yield ()
  else
    match run.disk.openToAppend options.journal with
    | .opened disk file => { run with disk := disk, journal := some file }.yield ()
    | .failed disk fault => { run with disk := disk }.stop (.disk fault)

/-- Opens the report, if one is wanted. -/
def openReport (options : Options) (run : Run) : Stepped Unit :=
  match options.report with
  | none => run.yield ()
  | some path =>
    match run.disk.openToReplace path with
    | .opened disk file =>
      { run with disk := disk, report := some (Report.ofFile file) }.yield ()
    | .failed disk fault => { run with disk := disk }.stop (.disk fault)

/-- Tells how many files were found. -/
def announce (options : Options) (run : Run) (files : List Path) : Stepped Unit :=
  (run.debug options (Text.letters s!"{files.length} files found in " ++ options.source.text)).next
    fun run _ =>
      if files.isEmpty then
        run.log options (Text.letters "No music files in " ++ options.source.text)
      else run.yield ()

/-- Finds the files and opens the journal and the report. -/
def prepare (options : Options) (run : Run) : Stepped (List Path) :=
  match discover run.disk options.selection options.source with
  | .error fault => run.stop (.disk fault)
  | .ok files =>
    (run.announce options files).next fun run _ =>
      (run.openJournal options).next fun run _ =>
        (run.openReport options).next fun run _ => run.yield files

end Run

/-- Why organizing ends early. -/
inductive OrganizeError where
  | pattern (error : PatternError)
  | mishap (mishap : Mishap)
  deriving DecidableEq

/-- The disk and the console afterwards, and the counters unless the run ended early. -/
structure Organized where
  disk : Disk
  console : Console
  result : Except OrganizeError Counters

/-- Begins a batch: the files to handle, once the journal and the report are open. A pattern that
    cannot be read would fail for every file, so it is refused before anything else happens. -/
def beginBatch (options : Options) (printer : Printer) (d : Disk) :
    Run × Except OrganizeError (List Path) :=
  let run : Run := ⟨d, none, none, ⟨printer, []⟩, Counters.zero⟩
  match checkPattern options.pattern with
  | .error error => (run, .error (.pattern error))
  | .ok () =>
    let prepared := run.prepare options
    (prepared.run, prepared.outcome.mapError .mishap)

/-- Handles the files of a batch, closes the journal and the report however that ended, and prints
    the summary. -/
def finishBatch (clock : Nat → String) (options : Options) (prober : Prober) (run : Run)
    (files : List Path) : Stepped Counters :=
  let handled := run.handleAll clock options prober files.length 1 files
  (⟨handled.run.close, handled.outcome⟩ : Stepped Unit).next fun run _ =>
    (run.summarize options).next fun run _ => run.yield run.counters

/-- Organizes the files. -/
def organize (clock : Nat → String) (options : Options) (prober : Prober) (printer : Printer)
    (d : Disk) : Organized :=
  match beginBatch options printer d with
  | (run, .error error) => ⟨run.disk, run.console, .error error⟩
  | (run, .ok files) =>
    let finished := finishBatch clock options prober run files
    ⟨finished.run.disk, finished.run.console, finished.outcome.mapError .mishap⟩

end MusicFiling
