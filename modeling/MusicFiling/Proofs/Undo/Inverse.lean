import MusicFiling.Proofs.Organize.Replay
import MusicFiling.Proofs.Undo.Rewinding

/-!
# Undoing is the inverse of organizing

Calls of the organizer that share a journal may copy and move files in any order, and a later one
may put a file where an earlier one took one away. If no path has two dots, no call handles the
journal and no folder takes the path that a file was moved from, undoing the journal puts all files
back and returns how many were copied and moved. A journal that no call got as far as opening
cannot be undone, and then there is nothing to undo.
-/

namespace MusicFiling

open Disk

/-- A call of the organizer. -/
structure Call where
  clock : Nat → String
  options : Options
  prober : Prober
  printer : Printer

/-- What holds of all files that are found holds of those that are listed if any are. -/
theorem forall_discovered_iff {selection : Selection} {source : Path} {d : Disk}
    {fact : Path → Prop} :
    (∀ files, discover d selection source = .ok files → ∀ path ∈ files, fact path) ↔
      ∀ path ∈ (discover d selection source).toOption.getD [], fact path := by
  cases discover d selection source with
  | error fault => simp [Except.toOption]
  | ok files =>
    refine ⟨fun all => all files rfl, ?_⟩
    rintro all _ ⟨⟩
    exact all

namespace Call

variable (call : Call) (d : Disk)

def organized : Organized :=
  organize call.clock call.options call.prober call.printer d

def log : List (String × Operation) :=
  batchLog call.clock call.options call.prober call.printer d

def operations : List Operation :=
  (call.log d).map Prod.snd

/-- What a call must be like for the journal to undo it: it copies or moves files for good and
    records this in the journal, which is none of the files that it finds, and nothing hinders it
    from that. -/
structure Fits (journal : Path) : Prop where
  shared : call.options.journal = journal
  real : call.options.dryRun = false
  unreported : call.options.report = none
  source : call.options.source.Direct
  target : call.options.target.Direct
  stamped : ∀ entry ∈ call.log d, entry.1.length ≤ Csv.fieldLimit
  unhindered : Unhindered call.clock call.options call.prober call.printer d
  apart : ∀ files, discover d call.options.selection call.options.source = .ok files →
    ∀ path ∈ files, d.nominal path ≠ d.nominal journal

private theorem fits_iff (journal : Path) :
    call.Fits d journal ↔ call.options.journal = journal ∧ call.options.dryRun = false ∧
      call.options.report = none ∧ call.options.source.Direct ∧ call.options.target.Direct ∧
      (∀ entry ∈ call.log d, entry.1.length ≤ Csv.fieldLimit) ∧
      (call.organized d).console.Heard ∧ call.options.target.IsText ∧
      (∀ path ∈ (discover d call.options.selection call.options.source).toOption.getD [],
        path.IsText) ∧
      ∀ path ∈ (discover d call.options.selection call.options.source).toOption.getD [],
        d.nominal path ≠ d.nominal journal := by
  rw [← forall_discovered_iff, ← forall_discovered_iff]
  constructor
  · rintro ⟨shared, real, unreported, source, target, stamped, ⟨heard, text, texts⟩, apart⟩
    exact ⟨shared, real, unreported, source, target, stamped, heard, text, texts, apart⟩
  · rintro ⟨shared, real, unreported, source, target, stamped, heard, text, texts, apart⟩
    exact ⟨shared, real, unreported, source, target, stamped, ⟨heard, text, texts⟩, apart⟩

instance (journal : Path) : Decidable (call.Fits d journal) :=
  decidable_of_iff _ (call.fits_iff d journal).symm

end Call

namespace Organized

def returned (organized : Organized) : Bool :=
  organized.result.isOk

/-- How many files were copied and moved. -/
def transferred (organized : Organized) : Nat :=
  match organized.result with
  | .ok counters => counters.transferred
  | .error _ => 0

/-- How many files were copied and moved altogether. -/
def total : List Organized → Nat
  | [] => 0
  | first :: rest => first.transferred + total rest

end Organized

/-- Calls, each with the disk before it. -/
def stages : List Call → Disk → List (Call × Disk)
  | [], _ => []
  | call :: rest, d => (call, d) :: stages rest (call.organized d).disk

section

variable (calls : List Call) (d : Disk)

def afterCalls : Disk :=
  calls.foldl (fun d call => (call.organized d).disk) d

def outcomes : List Organized :=
  (stages calls d).map fun stage => stage.1.organized stage.2

/-- The operations of all calls, in order. -/
def history : List Operation :=
  (stages calls d).flatMap fun stage => stage.1.operations stage.2

end

/-- What calls leave behind: before one of them returned, the files as they were; afterwards, a
    journal that tells how the files came to stand where they do. -/
inductive Past (journal : Path) (start : Disk) : Bool → List Operation → Disk → Prop where
  | untouched {d : Disk} (later : start.Later d) (files : d.file? = start.file?) :
    Past journal start false [] d
  | recorded {d : Disk} {entries : List (String × Operation)} (later : start.Later d)
    (led : d.reach journal = .ok (start.nominal journal))
    (present : d.file? (start.nominal journal) ≠ none)
    (stamped : ∀ e ∈ entries, e.1.length ≤ Csv.fieldLimit)
    (transcript : Transcript (start.filesOff (start.nominal journal)) (start.nominal journal)
      entries d) :
    Past journal start true (entries.map Prod.snd) d

private theorem Past.later {journal : Path} {start d : Disk} {opened : Bool} {ops : List Operation}
    (past : Past journal start opened ops d) : start.Later d := by
  cases past with
  | untouched later files => exact later
  | recorded later led present stamped transcript => exact later

/-- Folders may come without a change of what was left behind. -/
theorem Past.stay {journal : Path} {start d d' : Disk} {opened : Bool} {ops : List Operation}
    (past : Past journal start opened ops d) (step : d.Later d') (files : d'.file? = d.file?) :
    Past journal start opened ops d' := by
  cases past with
  | untouched later same => exact .untouched (later.trans step) (files.trans same)
  | recorded later led present stamped transcript =>
    refine .recorded (later.trans step) (step.reach led) ?_ stamped ?_
    · rw [files]
      exact present
    · refine transcript.mono step.working step.folder ?_ (by rw [files])
      intro q _
      rw [files]

/-- A journal that does not exist has no file at its place. -/
theorem file?_journal {start : Disk} (tree : start.WellFormed) {journal : Path}
    (direct : journal.Direct) (fresh : start.find? journal = none) (usable : journal.Usable) :
    start.file? (start.nominal journal) = none := by
  rw [tree.find?_direct direct usable] at fresh
  exact file?_eq_none_of_vacant fresh

section Calls

variable {journal : Path} {start : Disk} (tree : start.WellFormed) (direct : journal.Direct)
  (fresh : start.find? journal = none)
include tree direct fresh

/-- At any time the operations that were recorded are a transcript. -/
theorem Past.transcript {opened : Bool} {ops : List Operation} {d : Disk}
    (past : Past journal start opened ops d) :
    ∃ entries, entries.map Prod.snd = ops ∧ (∀ e ∈ entries, e.1.length ≤ Csv.fieldLimit) ∧
      (journal.Usable → Transcript (start.filesOff (start.nominal journal))
        (start.nominal journal) entries d) := by
  cases past with
  | recorded later led present stamped transcript =>
    exact ⟨_, rfl, stamped, fun _ => transcript⟩
  | untouched later same =>
    refine ⟨[], rfl, by simp, ?_⟩
    intro usable
    have off : d.filesOff (start.nominal journal) = start.filesOff (start.nominal journal) := by
      unfold filesOff
      rw [same]
    refine ⟨?_, ?_, by simp⟩
    · rw [same, file?_journal tree direct fresh usable]
      rfl
    · rw [off]
      exact .nil

/-- One more call. -/
theorem Past.next {opened : Bool} {ops : List Operation} {d : Disk} {call : Call}
    (past : Past journal start opened ops d) (fits : call.Fits d journal) :
    Past journal start (opened || (call.organized d).returned) (ops ++ call.operations d)
        (call.organized d).disk ∧
      (call.organized d).transferred = (call.operations d).length := by
  obtain ⟨rfl, real, unreported, source, target, stamped, unhindered, apart⟩ := fits
  have step := organize_later call.clock call.options call.prober call.printer past.later.tree
  unfold Call.log at stamped
  unfold Call.organized Call.operations Call.log Organized.returned Organized.transferred
  cases result : (organize call.clock call.options call.prober call.printer d).result with
  | error error =>
    obtain ⟨files, nothing⟩ :=
      organize_stopped call.clock call.prober call.printer unreported unhindered.heard result
    rw [nothing]
    refine ⟨?_, rfl⟩
    simpa [Except.isOk, Except.toBool] using past.stay step (funext files)
  | ok counters =>
    have place : d.nominal call.options.journal = start.nominal call.options.journal := by
      rw [past.later.nominal]
    obtain ⟨entries, rfl, timely, written⟩ := past.transcript tree direct fresh
    rw [← place] at written
    obtain ⟨transcript, led, present, counted⟩ := organize_transcript call.clock call.prober
      call.printer real unreported past.later.tree source target apart unhindered.target
      unhindered.selected written unhindered.heard result
    rw [place] at led present transcript
    refine ⟨?_, counted.trans (List.length_map _).symm⟩
    have both : ∀ e ∈ entries ++ batchLog call.clock call.options call.prober call.printer d,
        e.1.length ≤ Csv.fieldLimit := by
      intro e member
      exact (List.mem_append.mp member).elim (timely e) (stamped e)
    have recorded := Past.recorded (past.later.trans step) led present both transcript
    simpa [Except.isOk, Except.toBool] using recorded

/-- All calls. -/
theorem Past.all {calls : List Call} {opened : Bool} {ops : List Operation} {d : Disk}
    (past : Past journal start opened ops d)
    (fits : ∀ stage ∈ stages calls d, stage.1.Fits stage.2 journal) :
    Past journal start (opened || (outcomes calls d).any Organized.returned)
        (ops ++ history calls d) (afterCalls calls d) ∧
      Organized.total (outcomes calls d) = (history calls d).length := by
  induction calls generalizing opened ops d with
  | nil => simpa [outcomes, history, stages, afterCalls, Organized.total] using past
  | cons call rest ih =>
    obtain ⟨first, others⟩ := List.forall_mem_cons.mp fits
    obtain ⟨next, counted⟩ := past.next tree direct fresh first
    obtain ⟨whole, total⟩ := ih next others
    constructor
    · simpa [outcomes, history, stages, afterCalls, Bool.or_assoc] using whole
    · unfold outcomes history at total ⊢
      simp only [stages, List.map_cons, Organized.total, List.flatMap_cons, List.length_append]
      rw [total, counted]

end Calls

/-- A journal with no file at its place cannot be read, and nothing happens. -/
theorem undo_unopened {journal : Path} {d : Disk}
    (noFile : journal.Usable → d.file? (d.nominal journal) = none) (mode : Undo.Mode)
    (answers : List String) (printer : Printer) :
    (undo journal mode answers printer d).disk = d ∧
      ∃ stop, (undo journal mode answers printer d).result = .error stop := by
  unfold undo
  cases asked : d.at? journal with
  | error fault => exact ⟨rfl, _, rfl⟩
  | ok entry =>
    cases entry with
    | none => exact ⟨rfl, _, rfl⟩
    | some entry =>
      have unread : ∃ error, Journal.read d journal = .error error := by
        unfold Journal.read
        cases opened : d.openForReading journal with
        | error fault => exact ⟨_, rfl⟩
        | ok file =>
          obtain ⟨place, content⟩ := file
          obtain ⟨led, stands⟩ := openForReading_ok.mp opened
          obtain rfl := reach_eq_nominal led
          have vacant := noFile (usable_of_reach led)
          simp [file?_eq_some_iff.mpr stands] at vacant
      obtain ⟨error, unread⟩ := unread
      rw [unread]
      exact ⟨rfl, _, rfl⟩

private theorem Operation.Plain.readable {d : Disk} {journal : Place} {op : Operation}
    (plain : op.Plain d journal) {time : String} (stamped : time.length ≤ Csv.fieldLimit) :
    Journal.Readable time op := by
  have limits : pathLimit ≤ Csv.fieldLimit := by decide
  have short : ∀ p : Path, p.Usable → p.toString.length ≤ Csv.fieldLimit := by
    intro p usable
    exact p.length_toString_le.trans (usable.short.trans limits)
  exact ⟨plain.text, stamped, short _ plain.source.2, short _ plain.destination.2⟩

/-- The entries of a transcript are read back from the journal. -/
theorem Transcript.read {start : Files} {journal : Path} {entries : List (String × Operation)}
    {d : Disk} {place : Place} (transcript : Transcript start place entries d)
    (stamped : ∀ e ∈ entries, e.1.length ≤ Csv.fieldLimit) (led : d.reach journal = .ok place)
    (present : d.file? place ≠ none) : Journal.read d journal = .ok (entries.map Prod.snd) := by
  obtain ⟨content, text⟩ := Option.ne_none_iff_exists'.mp present
  have written := transcript.written
  rw [text, Option.getD_some] at written
  have opened : d.openForReading journal = .ok (place, content) :=
    openForReading_ok.mpr ⟨led, file?_eq_some_iff.mp text⟩
  unfold Journal.read
  rw [opened, written]
  exact Journal.ofBytes_text fun e member => (transcript.plain e member).readable (stamped e member)

/-- A journal that is a transcript is undone from its last entry to its first. -/
theorem Transcript.undone {start : Files} {journal : Path} {entries : List (String × Operation)}
    {d : Disk} {place : Place} (transcript : Transcript start place entries d)
    (tree : d.WellFormed) (stamped : ∀ e ∈ entries, e.1.length ≤ Csv.fieldLimit)
    (led : d.reach journal = .ok place) (present : d.file? place ≠ none)
    (uncovered : ∀ e ∈ entries, Undo.Uncovered d e.2) (answers : List String)
    {printer : Printer} (heard : (undo journal .sure answers printer d).console.Heard) :
    Undo.Rewound d place start [] (undo journal .sure answers printer d).disk ∧
      (undo journal .sure answers printer d).result = .ok entries.length := by
  have outset : Undo.Rewound d place start (entries.map Prod.snd).reverse d :=
    ⟨tree, rfl, fun _ => Iff.rfl, transcript.leads⟩
  have plain : ∀ op ∈ (entries.map Prod.snd).reverse, op.Plain d place := by
    intro op member
    obtain ⟨e, inside, rfl⟩ := List.mem_map.mp (List.mem_reverse.mp member)
    exact transcript.plain e inside
  have free : ∀ op ∈ (entries.map Prod.snd).reverse, Undo.Uncovered d op := by
    intro op member
    obtain ⟨e, inside, rfl⟩ := List.mem_map.mp (List.mem_reverse.mp member)
    exact uncovered e inside
  obtain ⟨content, text⟩ := Option.ne_none_iff_exists'.mp present
  have stands : d.at? journal = .ok (some (.file content)) := by
    simp [at?, led, file?_eq_some_iff.mp text]
  rw [undo_eq stands (transcript.read stamped led present)] at heard ⊢
  obtain ⟨s', finished, rewound, counted⟩ :=
    @Undo.Rewound.steps d place start _ ⟨d, answers, ⟨printer, []⟩, 0⟩ outset plain free heard
  simp only [finished]
  refine ⟨rewound, ?_⟩
  rw [counted]
  simp

/-- Calls that share a journal which does not exist at the start. In the end no folder stands where
    one of them moved a file from; as folders are never removed, none was put there. -/
structure SharedJournal (journal : Path) (start : Disk) (calls : List Call) : Prop where
  tree : start.WellFormed
  direct : journal.Direct
  fresh : start.find? journal = none
  fits : ∀ stage ∈ stages calls start, stage.1.Fits stage.2 journal
  uncovered : ∀ op ∈ history calls start, Undo.Uncovered (afterCalls calls start) op

instance (journal : Path) (start : Disk) (calls : List Call) :
    Decidable (SharedJournal journal start calls) :=
  decidable_of_iff (start.WellFormed ∧ journal.Direct ∧ start.find? journal = none ∧
      (∀ stage ∈ stages calls start, stage.1.Fits stage.2 journal) ∧
      ∀ op ∈ history calls start, Undo.Uncovered (afterCalls calls start) op)
    ⟨fun ⟨tree, direct, fresh, fits, uncovered⟩ => ⟨tree, direct, fresh, fits, uncovered⟩,
      fun ⟨tree, direct, fresh, fits, uncovered⟩ => ⟨tree, direct, fresh, fits, uncovered⟩⟩

namespace Swap

/-- A collection with two songs. -/
def disk : Disk where
  entries :=
    [((Path.ofString "music").parts, .folder),
     ((Path.ofString "music/a.mp3").parts, .file (Text.Utf8.ofString "TAG:title=song\n")),
     ((Path.ofString "music/b.mp3").parts, .file (Text.Utf8.ofString "TAG:title=tune\n"))]
  workingFolder := []

def journal : Path :=
  Path.ofString "log.csv"

/-- Files one song. -/
def call (action : Action) (source target pattern : String) : Call where
  clock := fun _ => "2024-05-01T12:00:00"
  options :=
    { source := Path.ofString source
      target := Path.ofString target
      pattern := pattern
      placeholder := "_"
      action := action
      dryRun := false
      selection := ⟨["mp3"], [], []⟩
      journal := journal
      report := none
      verbosity := .normal }
  prober := Prober.echo
  printer := .patient

/-- The first song is moved to a library, and the second one copied to where it was. -/
def calls : List Call :=
  [call .move "music/a.mp3" "lib" "\x7btitle\x7d.\x7bextension\x7d",
   call .copy "music/b.mp3" "music" "a.\x7bextension\x7d"]

/-- A call whose pattern is refused. -/
def refused : List Call :=
  [call .copy "music" "lib" "\x7b"]

end Swap

end MusicFiling
