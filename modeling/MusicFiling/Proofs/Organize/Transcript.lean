import MusicFiling.Proofs.Journal
import MusicFiling.Proofs.Organize.Counting

/-!
# What a journal tells

The operations in a journal tell how the files came to stand where they do: each found a file at
its source and nothing at its destination. A batch whose paths have no two dots extends the journal
so that it goes on to tell this. The journal's own file is left out of account.
-/

namespace MusicFiling

open Disk

/-- The contents of the files at all places. -/
abbrev Files := Place → Option (List UInt8)

/-- The files of a disk but for the one at a place. -/
def Disk.filesOff (d : Disk) (journal : Place) : Files := fun q =>
  if q = journal then none else d.file? q

theorem Disk.filesOff_of_ne (d : Disk) {journal q : Place} (other : q ≠ journal) :
    d.filesOff journal q = d.file? q := by
  simp [filesOff, other]

theorem Disk.filesOff_congr {d d' : Disk} {journal : Place}
    (others : ∀ q, q ≠ journal → d'.file? q = d.file? q) :
    d'.filesOff journal = d.filesOff journal := by
  funext q
  by_cases here : q = journal
  · simp [filesOff, here]
  · rw [filesOff_of_ne _ here, filesOff_of_ne _ here]
    exact others q here

namespace Operation

section

variable (place : Path → Place) (op : Operation) (files : Files)

/-- The files once an operation has put its file at its destination. -/
def carry : Files := fun q =>
  if q = place op.destination then files (place op.source)
  else if op.action = .move ∧ q = place op.source then none
  else files q

/-- The files once an operation is undone. -/
def carryBack : Files := fun q =>
  if op.action = .move ∧ q = place op.source then files (place op.destination)
  else if q = place op.destination then none
  else files q

end

theorem carryBack_carry {place : Path → Place} {op : Operation} {files : Files}
    (present : files (place op.source) ≠ none) (vacant : files (place op.destination) = none) :
    op.carryBack place (op.carry place files) = files := by
  have apart : place op.source ≠ place op.destination := by
    intro same
    exact present (same ▸ vacant)
  funext q
  unfold carryBack carry
  by_cases source : q = place op.source
  · subst source
    by_cases moved : op.action = .move
    · simp [moved]
    · simp [moved, apart]
  · by_cases destination : q = place op.destination
    · simp [destination, Ne.symm apart, vacant]
    · simp [source, destination]

/-- Operations, newest first, that lead from some files to others. -/
inductive Leads (place : Path → Place) (start : Files) : List Operation → Files → Prop where
  | nil : Leads place start [] start
  | cons {ops : List Operation} {op : Operation} {files files' : Files}
    (before : Leads place start ops files) (present : files (place op.source) ≠ none)
    (vacant : files (place op.destination) = none) (carried : files' = op.carry place files) :
    Leads place start (op :: ops) files'

theorem Leads.eq_of_nil {place : Path → Place} {start files : Files}
    (leads : Leads place start [] files) : files = start := by
  cases leads
  rfl

/-- An operation between paths that are text, can be asked about and name their places directly,
    neither of them the journal's, and whose source has a folder to stand in. -/
structure Plain (d : Disk) (journal : Place) (op : Operation) : Prop where
  text : op.IsText
  source : op.source.Direct ∧ op.source.Usable
  destination : op.destination.Direct ∧ op.destination.Usable
  sourceOff : d.nominal op.source ≠ journal
  destinationOff : d.nominal op.destination ≠ journal
  home : d.entry? (d.nominal op.source.parent) = some .folder

theorem Plain.mono {d d' : Disk} {journal : Place} {op : Operation} (plain : op.Plain d journal)
    (working : d'.workingFolder = d.workingFolder)
    (kept : ∀ q, d.entry? q = some .folder → d'.entry? q = some .folder) :
    op.Plain d' journal := by
  obtain ⟨text, source, destination, sourceOff, destinationOff, home⟩ := plain
  rw [← nominal_congr working] at sourceOff destinationOff home
  exact ⟨text, source, destination, sourceOff, destinationOff, kept _ home⟩

end Operation

/-- The entries of a journal, with the times of their operations, tell how the files came from
    others. Before the journal is opened for the first time it has no entries. -/
structure Transcript (start : Files) (journal : Place) (entries : List (String × Operation))
    (d : Disk) : Prop where
  written : (d.file? journal).getD [] = Text.Utf8.encode (Journal.text entries)
  leads : Operation.Leads d.nominal start (entries.map Prod.snd).reverse (d.filesOff journal)
  plain : ∀ e ∈ entries, e.2.Plain d journal

/-- Where folders stay and no file changes, a transcript stays true. -/
theorem Transcript.mono {start : Files} {journal : Place} {entries : List (String × Operation)}
    {d d' : Disk} (transcript : Transcript start journal entries d)
    (working : d'.workingFolder = d.workingFolder)
    (folder : ∀ q, d.entry? q = some .folder → d'.entry? q = some .folder)
    (others : ∀ q, q ≠ journal → d'.file? q = d.file? q)
    (same : (d'.file? journal).getD [] = (d.file? journal).getD []) :
    Transcript start journal entries d' := by
  obtain ⟨text, leads, plain⟩ := transcript
  have nominal : d'.nominal = d.nominal := funext (nominal_congr working)
  refine ⟨same.trans text, ?_, ?_⟩
  · rw [nominal, filesOff_congr others]
    exact leads
  · intro e member
    exact (plain e member).mono working folder

private theorem Transcript.grows {start : Files} {journal : Place}
    {entries : List (String × Operation)}
    {made written : Place → Prop} {d d' : Disk} (transcript : Transcript start journal entries d)
    (grown : Grows made written d d') (only : ∀ q, written q → q = journal)
    (same : (d'.file? journal).getD [] = (d.file? journal).getD []) :
    Transcript start journal entries d' := by
  refine transcript.mono grown.working (fun _ => grown.folder) ?_ same
  intro q other
  exact grown.file?_eq fun new => other (only q new)

namespace Run

/-! ## The turns of a batch -/

/-- The open file is not followed to another place when another file is moved. -/
theorem follow_other {origin goal place : Place} (notOrigin : place ≠ origin)
    (notGoal : place ≠ goal) :
    (OpenFile.mk (some place)).follow origin goal = ⟨some place⟩ := by
  simp [OpenFile.follow, notOrigin, notGoal]

/-- The journal is open at a place, and there is no report. -/
structure OnlyJournal (journal : Place) (run : Run) : Prop where
  opened : run.journal = some ⟨some journal⟩
  unreported : run.reportFile = none

theorem OnlyJournal.not_reporting {journal : Place} {run : Run} (only : run.OnlyJournal journal)
    (q : Place) : ¬run.Reporting q := by
  rintro ⟨file, kept, -⟩
  simp [only.unreported] at kept

/-- Recording an operation between texts adds its row to the journal's file and changes no
    other. -/
theorem OnlyJournal.file?_recordOperation {journal : Place} {run : Run}
    (only : run.OnlyJournal journal) (time : String) (op : Operation) (text : op.IsText)
    (q : Place) :
    (run.recordOperation time op).run.disk.file? q =
      if q = journal then
        (run.disk.file? q).map (· ++ Text.Utf8.encode (Journal.rowChars time op))
      else run.disk.file? q := by
  have disk : (run.recordOperation time op).run.disk =
      OpenFile.append ⟨some journal⟩ (Text.Utf8.encode (Journal.rowChars time op)) run.disk := by
    simp [recordOperation, only.opened, Journal.record_of_isText time text, yield]
  rw [disk]
  unfold OpenFile.append
  split_ifs with here
  · subst here
    exact OpenFile.file?_modify rfl _ _
  · exact (OpenFile.modify_grows ⟨some journal⟩ _ run.disk).file?_eq
      fun same => here (Option.some.inj same).symm

theorem OnlyJournal.of_steady {journal : Place} {made : Place → Prop} {run run' : Run}
    (only : run.OnlyJournal journal) (steady : Steady made run run') : run'.OnlyJournal journal :=
  ⟨steady.journal.trans only.opened, steady.reportFile.trans only.unreported⟩

private theorem OnlyJournal.arrive {journal : Place} {run : Run} (only : run.OnlyJournal journal)
    (action : Action) {origin goal : Place} (notOrigin : journal ≠ origin)
    (notGoal : journal ≠ goal) (delivered : Disk) :
    (run.arrive action origin goal delivered).OnlyJournal journal := by
  obtain ⟨opened, unreported⟩ := only
  cases action with
  | copy => exact ⟨opened, unreported⟩
  | move =>
    constructor
    · simp [Run.arrive, followMove, opened, follow_other notOrigin notGoal]
    · have none : run.report = none := by simpa [reportFile] using unreported
      simp [Run.arrive, followMove, reportFile, none]

/-- An operation was carried out while the journal was open: of the other files only the one at its
    source went to its destination, at which nothing stood. -/
structure Performed (journal : Place) (op : Operation) (run run' : Run) : Prop where
  only : run'.OnlyJournal journal
  opened : run'.disk.file? journal ≠ none
  destinationOff : run.disk.nominal op.destination ≠ journal
  present : run.disk.filesOff journal (run.disk.nominal op.source) ≠ none
  vacant : run.disk.filesOff journal (run.disk.nominal op.destination) = none
  carried : run'.disk.filesOff journal =
    op.carry run.disk.nominal (run.disk.filesOff journal)

/-- A row tells what an operation did: the journal has it at its end. -/
structure Told (time : String) (journal : Place) (op : Operation) (run run' : Run) : Prop extends
    Performed journal op run run' where
  row : run'.disk.file? journal =
    (run.disk.file? journal).map (· ++ Text.Utf8.encode (Journal.rowChars time op))

theorem Told.written {time : String} {journal : Place} {op : Operation} {run run' : Run}
    {past : List UInt8} {entries : List (String × Operation)}
    (told : Told time journal op run run')
    (before : run.disk.file? journal = some (past ++ Text.Utf8.encode (Journal.text entries))) :
    run'.disk.file? journal =
      some (past ++ Text.Utf8.encode (Journal.text (entries ++ [(time, op)]))) := by
  rw [told.row, before, Option.map_some, List.append_assoc, Journal.text_append]
  simp [Journal.text, Text.Utf8.encode]

namespace Carried

variable {time : String} {options : Options} {prober : Prober} {run run' : Run}
  {path destination : Path} {origin goal : Place} {content : List UInt8} {delivered : Disk}
  (carried : Carried time options prober run path destination origin goal content delivered run')
  {journal : Place} (only : run.OnlyJournal journal)
include carried

theorem source_usable : path.Usable :=
  usable_of_reach carried.delivery.led

include only

theorem onlyJournal (notOrigin : journal ≠ origin) (notGoal : journal ≠ goal) :
    run'.OnlyJournal journal := by
  have arrived := only.arrive options.action notOrigin notGoal delivered
  cases carried.noted with
  | recorded written after =>
    have recorded : ((run.arrive options.action origin goal delivered).recordOperation time
        ⟨options.action, path, destination⟩).run.OnlyJournal journal :=
      ⟨by simpa using arrived.opened, by simpa using arrived.unreported⟩
    exact recorded.of_steady after
  | lost after cause => exact arrived.of_steady after

/-- Once the file is delivered, no file but the journal changes. -/
theorem file?_off (notOrigin : journal ≠ origin) (notGoal : journal ≠ goal) {q : Place}
    (off : q ≠ journal) : run'.disk.file? q = delivered.file? q := by
  have only' := carried.onlyJournal only notOrigin notGoal
  refine carried.settled.file?_eq ?_
  rintro (⟨file, kept, here⟩ | reporting)
  · rw [only'.opened] at kept
    obtain rfl := Option.some.inj kept
    exact off (Option.some.inj here).symm
  · exact only'.not_reporting q reporting

variable (tree : run.disk.WellFormed)
include tree

/-- An operation that arrives at its destination does to the files what it says. -/
theorem filesOff_after (apart : run.disk.nominal path ≠ journal)
    (arrived : goal = run.disk.nominal destination) (notGoal : journal ≠ goal) :
    run'.disk.filesOff journal =
      Operation.carry run.disk.nominal ⟨options.action, path, destination⟩
        (run.disk.filesOff journal) := by
  have notOrigin : journal ≠ origin := carried.origin_eq ▸ Ne.symm apart
  funext q
  by_cases here : q = journal
  · subst here
    simp [filesOff, Operation.carry, ← arrived, notGoal, Ne.symm apart]
  · rw [filesOff_of_ne _ here, carried.file?_off only notOrigin notGoal here,
      carried.file_delivered tree, carried.origin_eq, arrived]
    simp only [Operation.carry, filesOff_of_ne _ here, filesOff_of_ne _ apart, carried.stands]

/-- An operation below a direct target is carried out at the place that its destination names. -/
theorem performed (target : options.target.Direct) (opened : run.disk.file? journal ≠ none)
    (apart : run.disk.nominal path ≠ journal) :
    Performed journal ⟨options.action, path, destination⟩ run run' := by
  obtain ⟨arrived, free, -⟩ := carried.goal_of_grounded tree (grounded_of_direct run.disk target)
  have notOrigin : journal ≠ origin := carried.origin_eq ▸ Ne.symm apart
  have notGoal : journal ≠ goal := by
    rintro rfl
    exact opened free
  have off : run.disk.nominal destination ≠ journal := arrived ▸ Ne.symm notGoal
  refine ⟨carried.onlyJournal only notOrigin notGoal, ?_, off, ?_, ?_,
    carried.filesOff_after only tree apart arrived notGoal⟩
  · obtain ⟨old, stands⟩ := Option.ne_none_iff_exists'.mp opened
    obtain ⟨content', file⟩ := carried.file tree stands (Ne.symm apart)
    simp [file]
  · rw [filesOff_of_ne _ apart, carried.stands]
    exact Option.some_ne_none content
  · rw [filesOff_of_ne _ off, ← arrived, free]

/-- Unless it is hindered, such an operation is told by its row. -/
theorem told (target : options.target.Direct) (opened : run.disk.file? journal ≠ none)
    (apart : run.disk.nominal path ≠ journal) (text : path.IsText ∧ destination.IsText)
    (heard : run'.console.Heard) :
    Told time journal ⟨options.action, path, destination⟩ run run' := by
  have performed := carried.performed only tree target opened apart
  refine ⟨performed, ?_⟩
  obtain ⟨-, free, -⟩ := carried.goal_of_grounded tree (grounded_of_direct run.disk target)
  have notOrigin : journal ≠ origin := carried.origin_eq ▸ Ne.symm apart
  have notGoal : journal ≠ goal := by
    rintro rfl
    exact opened free
  have arrived := only.arrive options.action notOrigin notGoal delivered
  cases carried.noted with
  | recorded written after =>
    have recorded := arrived.file?_recordOperation time
      ⟨options.action, path, destination⟩ text journal
    have unwritten : ¬((run.arrive options.action origin goal delivered).recordOperation time
        ⟨options.action, path, destination⟩).run.Reporting journal := by
      rintro ⟨file, kept, -⟩
      simp [arrived.unreported] at kept
    rw [after.disk.file?_eq unwritten, recorded, if_pos rfl, arrive_disk,
      carried.file_delivered tree, if_neg notGoal, if_neg fun moved => notOrigin moved.2]
  | lost after cause => exact absurd heard (cause text)

omit only in
/-- An operation between direct paths is a plain one. -/
theorem plain (target : options.target.Direct) (direct : path.Direct) (usable : destination.Usable)
    (apart : run.disk.nominal path ≠ journal) (off : run.disk.nominal destination ≠ journal)
    (text : path.IsText ∧ destination.IsText) :
    Operation.Plain run.disk journal ⟨options.action, path, destination⟩ := by
  have direct' : destination.Direct := direct_of_planDestination carried.planned target
  have present : run.disk.entry? (run.disk.nominal path) ≠ none := by
    simp [file?_eq_some_iff.mp carried.stands]
  exact ⟨text, ⟨direct, carried.source_usable⟩, ⟨direct', usable⟩, apart, off,
    tree.nominal_parent_of_present direct present⟩

end Carried

/-- A run that keeps a transcript in the journal that it has open. -/
structure Recording (start : Files) (journal : Place) (entries : List (String × Operation))
    (run : Run) : Prop where
  only : run.OnlyJournal journal
  opened : run.disk.file? journal ≠ none
  transcript : Transcript start journal entries run.disk

namespace Recording

variable {start : Files} {journal : Place} {entries : List (String × Operation)} {run run' : Run}
  (recording : run.Recording start journal entries)
include recording

private theorem steady {made : Place → Prop} (steady : Steady made run run') :
    run'.Recording start journal entries := by
  have unwritten := recording.only.not_reporting
  have same : run'.disk.file? journal = run.disk.file? journal :=
    steady.disk.file?_eq (unwritten journal)
  refine ⟨recording.only.of_steady steady, ?_, ?_⟩
  · rw [same]
    exact recording.opened
  · refine recording.transcript.grows steady.disk ?_ (by rw [same])
    intro q reporting
    exact absurd reporting (unwritten q)

private theorem carried {time : String} {options : Options} {prober : Prober}
    {path destination : Path}
    {origin goal : Place} {content : List UInt8} {delivered : Disk}
    (carried : Carried time options prober run path destination origin goal content delivered run')
    (tree : run.disk.WellFormed) (target : options.target.Direct) (direct : path.Direct)
    (apart : run.disk.nominal path ≠ journal) (text : path.IsText ∧ destination.IsText)
    (heard : run'.console.Heard) :
    run'.Recording start journal (entries ++ [(time, ⟨options.action, path, destination⟩)]) := by
  obtain ⟨only, opened, written, leads, plain⟩ := recording
  have told := carried.told only tree target opened apart text heard
  have nominal : run'.disk.nominal = run.disk.nominal := funext (nominal_congr carried.working)
  have content : run.disk.file? journal = some ([] ++ Text.Utf8.encode (Journal.text entries)) := by
    obtain ⟨old, same⟩ := Option.ne_none_iff_exists'.mp opened
    simpa [same] using written
  have row := told.written content
  refine ⟨told.only, by simp [row], by simp [row], ?_, ?_⟩
  · rw [nominal, List.map_append, List.reverse_append]
    exact .cons leads told.present told.vacant told.carried
  · obtain ⟨-, -, usable⟩ := carried.goal_of_grounded tree (grounded_of_direct run.disk target)
    have new := carried.plain tree target direct usable apart told.destinationOff text
    have kept : ∀ q, run.disk.entry? q = some .folder → run'.disk.entry? q = some .folder :=
      fun q => carried.folder tree
    intro e member
    rcases List.mem_append.mp member with before | last
    · exact (plain e before).mono carried.working kept
    · obtain rfl := List.mem_singleton.mp last
      exact new.mono carried.working kept

private theorem turn {time : String} {options : Options} {prober : Prober} {path : Path}
    {op : Option Operation} (turn : Turn time options prober run path op run')
    (tree : run.disk.WellFormed) (target : options.target.Direct) (direct : path.Direct)
    (apart : run.disk.nominal path ≠ journal)
    (text : Textual options prober run.disk path) (heard : run'.console.Heard) :
    run'.Recording start journal (entries ++ op.toList.map (time, ·)) := by
  cases turn with
  | still steady => simpa using recording.steady steady
  | carried carried =>
    exact recording.carried carried tree target direct apart
      ⟨text.1, text.2 _ carried.planned⟩ heard

end Recording

/-! ## Batches -/

section Batch

variable {clock : Nat → String} {options : Options} {prober : Prober} {start : Files}
  {journal : Place} {entries : List (String × Operation)}

/-- A run halfway through a batch: unless something was refused, its journal has the operations that
    are done, and none of the files to come is the journal. -/
structure Underway (start : Files) (journal : Place) (entries : List (String × Operation))
    (run : Run) (rest : List Path) (done : List (String × Operation)) : Prop where
  direct : ∀ path ∈ rest, path.Direct
  text : ∀ path ∈ rest, path.IsText
  apart : ∀ path ∈ rest, run.disk.nominal path ≠ journal
  recording : run.console.Heard → run.Recording start journal (entries ++ done)

private theorem Underway.next {index : Nat} {run run' : Run} {path : Path} {rest : List Path}
    {done : List (String × Operation)}
    (underway : Underway start journal entries run (path :: rest) done)
    (ready : run.Ready (path :: rest)) (target : options.target.Direct)
    (text : options.target.IsText)
    (turn : Turn (clock index) options prober run path (run.operation? options prober path) run') :
    Underway start journal entries run' rest
      (done ++ (logged? clock options prober ⟨run, index, path⟩).toList) := by
  obtain ⟨direct, plain, apart, recording⟩ := underway
  have textual := textual prober run.disk text (plain path List.mem_cons_self)
  refine ⟨fun p member => direct p (List.mem_cons_of_mem path member),
    fun p member => plain p (List.mem_cons_of_mem path member), ?_, fun heard => ?_⟩
  · rw [funext (nominal_congr turn.working)]
    intro p member
    exact apart p (List.mem_cons_of_mem path member)
  · have recorded := (recording (turn.before.heard heard)).turn turn ready.tree target
      (direct path List.mem_cons_self) (apart path List.mem_cons_self) textual heard
    have row : (logged? clock options prober ⟨run, index, path⟩).toList =
        (run.operation? options prober path).toList.map (clock index, ·) := by
      unfold logged?
      cases run.operation? options prober path <;> rfl
    rwa [← List.append_assoc, row]

private theorem handleAll_recording {total : Nat} {run : Run} {files : List Path}
    (ready : run.Ready files) (target : options.target.Direct) (text : options.target.IsText)
    (underway : Underway start journal entries run files []) {index : Nat}
    (heard : (run.handleAll clock options prober total index files).run.console.Heard) :
    (run.handleAll clock options prober total index files).run.Recording start journal
      (entries ++ run.logged clock options prober total index files) := by
  obtain ⟨rest, -, handled⟩ := handleAll_preserved
    (fun run index path rest done run' ready underway turn => underway.next ready target text turn)
    ready index underway
  exact handled.recording heard

/-- A batch that has begun keeps a transcript if the journal was one before. -/
theorem Begun.recording {d : Disk} {run : Run} {files : List Path}
    (begun : Begun options d run files) (real : options.dryRun = false)
    (unreported : options.report = none)
    (past : options.journal.Usable → Transcript start (d.nominal options.journal) entries d) :
    run.Recording start (d.nominal options.journal) entries := by
  have led := begun.reached real
  have text := begun.recorded real (by simp [unreported])
  refine ⟨⟨?_, ?_⟩, by simp [text], ?_⟩
  · simpa [real] using begun.journal
  · simpa [unreported] using begun.reportFile
  · refine (past (usable_of_reach led)).grows begun.grown ?_ (by simp [text])
    rintro q (here | ⟨report, wanted, -⟩)
    · exact here
    · simp [unreported] at wanted

end Batch

end Run

section

variable (clock : Nat → String) {options : Options} (prober : Prober) (printer : Printer) {d : Disk}
  (real : options.dryRun = false) (unreported : options.report = none)
include real unreported

/-- A batch without two dots that is not hindered has put its operations into its journal, as many
    as it counted. -/
theorem organize_transcript {start : Files} {entries : List (String × Operation)}
    (tree : d.WellFormed) (source : options.source.Direct) (target : options.target.Direct)
    (apart : ∀ files, discover d options.selection options.source = .ok files →
      ∀ path ∈ files, d.nominal path ≠ d.nominal options.journal)
    (text : options.target.IsText)
    (texts : ∀ files, discover d options.selection options.source = .ok files →
      ∀ path ∈ files, path.IsText)
    (past : options.journal.Usable → Transcript start (d.nominal options.journal) entries d)
    (heard : (organize clock options prober printer d).console.Heard) {counters : Counters}
    (returned : (organize clock options prober printer d).result = .ok counters) :
    let after := (organize clock options prober printer d).disk
    let rows := batchLog clock options prober printer d
    Transcript start (d.nominal options.journal) (entries ++ rows) after ∧
      after.reach options.journal = .ok (d.nominal options.journal) ∧
      after.file? (d.nominal options.journal) ≠ none ∧ counters.transferred = rows.length := by
  obtain ⟨run, files, finished, -, rfl⟩ := exists_finished_of_returned returned
  have begun := finished.begun
  have closed := finished.closed
  have ready := begun.ready tree
  obtain ⟨stand, -⟩ := tree.discover_spec begun.found
  simp only [finished.logged]
  have underway : Run.Underway start (d.nominal options.journal) entries run files [] := by
    refine ⟨fun path member => (stand path member).2 source, texts files begun.found, ?_, ?_⟩
    · intro path member
      rw [begun.grown.nominal]
      exact apart files begun.found path member
    · intro _
      simpa using begun.recording real unreported past
  have handled : (run.handleAll clock options prober files.length 1 files).run.Recording start
      (d.nominal options.journal)
      (entries ++ run.logged clock options prober files.length 1 files) :=
    Run.handleAll_recording ready target text underway (finished.heard heard)
  have later : run.disk.Later (run.handleAll clock options prober files.length 1 files).run.disk :=
    Run.handleAll_later ready 1
  have same : ∀ q, (organize clock options prober printer d).disk.file? q =
      (run.handleAll clock options prober files.length 1 files).run.disk.file? q :=
    fun q => closed.file?_eq (handled.only.not_reporting q)
  refine ⟨?_, closed.reach (later.reach (begun.reached real)), ?_, ?_⟩
  · refine handled.transcript.grows closed ?_ (by rw [same])
    intro q reporting
    exact absurd reporting (handled.only.not_reporting q)
  · rw [same]
    exact handled.opened
  · rw [Run.handleAll_transferred clock prober real text ready (texts files begun.found)
      (finished.heard heard), begun.counters]
    exact Nat.zero_add _

omit real in
/-- A batch that does not return, though nothing was refused, leaves every file alone and carries
    out nothing. -/
theorem organize_stopped {error : OrganizeError}
    (heard : (organize clock options prober printer d).console.Heard)
    (stopped : (organize clock options prober printer d).result = .error error) :
    (∀ q, (organize clock options prober printer d).disk.file? q = d.file? q) ∧
      batchLog clock options prober printer d = [] := by
  rcases organize_cases clock options prober printer d with
    ⟨error', stopped'⟩ | ⟨run, files, finished⟩
  · refine ⟨?_, stopped'.logged⟩
    intro q
    exact stopped'.grown.file?_eq fun written => written.2 unreported
  · rw [finished.result_of_heard heard] at stopped
    cases stopped

end

end MusicFiling
