import MusicFiling.Proofs.Organize.Outcomes
import MusicFiling.Proofs.Organize.Transcript

/-!
# Replaying a journal

The rows that a batch adds to its journal tell exactly what the batch did. Replayed one after the
other on the files as they were before, they give the files as they are afterwards, the journal left
out of account; and there is one row for each file that was copied or moved, and none besides.
-/

namespace MusicFiling

open Disk

namespace Operation

section

variable {place : Path → Place} {start files : Files} {ops : List Operation}

/-- A file that is not moved away stays as it is: nothing else can arrive at its place. -/
theorem Leads.unchanged {q : Place} (leads : Leads place start ops files)
    (stood : start q ≠ none)
    (unmoved : ∀ op ∈ ops, op.action = .move → place op.source ≠ q) : files q = start q := by
  induction leads with
  | nil => rfl
  | @cons ops op files files' before present vacant carried ih =>
    obtain ⟨last, earlier⟩ := List.forall_mem_cons.mp unmoved
    have same := ih earlier
    have notGoal : q ≠ place op.destination := by
      rintro rfl
      exact stood (same ▸ vacant)
    have notTaken : ¬(op.action = .move ∧ q = place op.source) :=
      fun taken => last taken.1 taken.2.symm
    rw [carried, carry, if_neg notGoal, if_neg notTaken]
    exact same

/-- A file that stood at a destination was moved away from there. -/
theorem Leads.moved_of_destination (leads : Leads place start ops files) {op : Operation}
    (member : op ∈ ops) (stood : start (place op.destination) ≠ none) :
    ∃ earlier ∈ ops, earlier.action = .move ∧ place earlier.source = place op.destination := by
  induction leads with
  | nil => cases member
  | @cons ops last files files' before present vacant carried ih =>
    rcases List.mem_cons.mp member with rfl | member
    · by_contra unmoved
      push Not at unmoved
      have same := before.unchanged stood
        fun earlier inside => unmoved earlier (List.mem_cons_of_mem _ inside)
      exact stood (same ▸ vacant)
    · obtain ⟨earlier, inside, moved⟩ := ih member
      exact ⟨earlier, List.mem_cons_of_mem last inside, moved⟩

/-- What operations on different files put somewhere is still there: none of them takes it on. -/
theorem Leads.arrived (leads : Leads place start ops files)
    (sources : (ops.map fun op => place op.source).Nodup)
    (stood : ∀ op ∈ ops, start (place op.source) ≠ none) {op : Operation} (member : op ∈ ops) :
    files (place op.destination) ≠ none := by
  induction leads with
  | nil => cases member
  | @cons ops last files files' before present vacant carried ih =>
    obtain ⟨new, sources⟩ := List.nodup_cons.mp sources
    obtain ⟨stands, stood⟩ := List.forall_mem_cons.mp stood
    rcases List.mem_cons.mp member with rfl | member
    · rw [carried, carry, if_pos rfl]
      exact present
    · have unmoved : place op.destination ≠ place last.source := by
        -- What the last operation takes stood at the start, so no other has put it there.
        intro taken
        rw [← taken] at stands
        obtain ⟨earlier, among, -, same⟩ := before.moved_of_destination member stands
        exact new (List.mem_map.mpr ⟨earlier, among, same.trans taken⟩)
      rw [carried, carry]
      split_ifs with here taken
      · exact present
      · exact absurd taken.2 unmoved
      · exact ih sources stood member

end

end Operation

namespace Run

section

variable {clock : Nat → String} {options : Options} {prober : Prober} {run run' : Run} {path : Path}

/-- A run whose journal has, after what was in it before, the rows of the operations that led the
    other files to where they are. -/
structure Telling (start : Files) (journal : Place) (past : List UInt8) (run : Run)
    (done : List (String × Operation)) : Prop where
  only : run.OnlyJournal journal
  written : run.disk.file? journal = some (past ++ Text.Utf8.encode (Journal.text done))
  leads : Operation.Leads run.disk.nominal start (done.map Prod.snd).reverse
    (run.disk.filesOff journal)

variable {start : Files} {journal : Place} {past : List UInt8} {done : List (String × Operation)}

/-- Folders may be new; all files stay. -/
theorem Telling.grows {made written : Place → Prop}
    (telling : run.Telling start journal past done)
    (grown : Grows made written run.disk run'.disk) (unwritten : ∀ q, ¬written q)
    (only : run'.OnlyJournal journal) : run'.Telling start journal past done := by
  have files : ∀ q, run'.disk.file? q = run.disk.file? q := fun q => grown.file?_eq (unwritten q)
  have nominal : run'.disk.nominal = run.disk.nominal := funext grown.nominal
  refine ⟨only, (files journal).trans telling.written, ?_⟩
  rw [nominal, filesOff_congr fun q _ => files q]
  exact telling.leads

private theorem Telling.turn {time : String} {op : Option Operation}
    (telling : run.Telling start journal past done)
    (turn : Turn time options prober run path op run') (tree : run.disk.WellFormed)
    (target : options.target.Direct) (apart : run.disk.nominal path ≠ journal)
    (text : Textual options prober run.disk path) (heard : run'.console.Heard) :
    run'.Telling start journal past (done ++ op.toList.map (time, ·)) := by
  cases turn with
  | still steady =>
    simpa using telling.grows steady.disk telling.only.not_reporting (telling.only.of_steady steady)
  | @carried destination origin goal content delivered _ carried =>
    have opened : run.disk.file? journal ≠ none := by simp [telling.written]
    have told := carried.told telling.only tree target opened apart
      ⟨text.1, text.2 _ carried.planned⟩ heard
    have nominal : run'.disk.nominal = run.disk.nominal := funext (nominal_congr carried.working)
    refine ⟨told.only, told.written telling.written, ?_⟩
    rw [nominal, Option.toList_some, List.map_append, List.reverse_append]
    exact .cons telling.leads told.present told.vacant told.carried

/-- All turns together, with a fact about each operation that is carried out; the induction is on
    the files that are still to be handled. -/
theorem Telling.handleAll_each {fact : Operation → Prop} {total : Nat} {files : List Path}
    (telling : run.Telling start journal past []) (ready : run.Ready files)
    (target : options.target.Direct) (apart : ∀ path ∈ files, run.disk.nominal path ≠ journal)
    (text : options.target.IsText) (texts : ∀ path ∈ files, path.IsText)
    (each : ∀ run' index path done op run'', run'.Telling start journal past done →
      run'.disk.WellFormed → run'.disk.nominal = run.disk.nominal →
      run.disk.nominal path ≠ journal →
      Turn (clock index) options prober run' path (some op) run'' → fact op) {index : Nat}
    (heard : (run.handleAll clock options prober total index files).run.console.Heard) :
    (run.handleAll clock options prober total index files).run.Telling start journal past
        (run.logged clock options prober total index files) ∧
      ∀ op ∈ (run.logged clock options prober total index files).map Prod.snd, fact op := by
  obtain ⟨rest, -, -, -, handled⟩ := @handleAll_preserved clock options prober (fun run' rest done =>
      (∀ path ∈ rest, run.disk.nominal path ≠ journal ∧ path.IsText) ∧
        run'.disk.nominal = run.disk.nominal ∧ (run'.console.Heard →
          run'.Telling start journal past done ∧ ∀ op ∈ done.map Prod.snd, fact op)) total
    (by
      rintro run' index path rest done run'' ready' ⟨clear, nominal, told⟩ turn
      obtain ⟨⟨here, plain⟩, later⟩ := List.forall_mem_cons.mp clear
      refine ⟨later, (funext (nominal_congr turn.working)).trans nominal, fun heard => ?_⟩
      obtain ⟨telling, facts⟩ := told (turn.before.heard heard)
      have next := telling.turn turn ready'.tree target (by rwa [nominal])
        (textual prober run'.disk text plain) heard
      rw [List.map_append, map_snd_logged?]
      refine ⟨by simpa only [logged?, Option.toList_map] using next, fun op member => ?_⟩
      rcases List.mem_append.mp member with before | new
      · exact facts op before
      · rw [Option.mem_toList.mp new] at turn
        exact each run' index path done op run'' telling ready'.tree nominal here turn)
    run files ready index
    ⟨fun path member => ⟨apart path member, texts path member⟩, rfl, fun _ => ⟨telling, by simp⟩⟩
  exact handled heard

private theorem Telling.handleAll {total : Nat} {files : List Path}
    (telling : run.Telling start journal past []) (ready : run.Ready files)
    (target : options.target.Direct) (apart : ∀ path ∈ files, run.disk.nominal path ≠ journal)
    (text : options.target.IsText) (texts : ∀ path ∈ files, path.IsText) {index : Nat}
    (heard : (run.handleAll clock options prober total index files).run.console.Heard) :
    (run.handleAll clock options prober total index files).run.Telling start journal past
      (run.logged clock options prober total index files) :=
  (telling.handleAll_each ready target apart text texts
    (fun _ _ _ _ _ _ _ _ _ _ _ => trivial) heard).1

/-- A batch that has begun has opened its journal and told nothing yet. -/
theorem Begun.telling {d : Disk} {files : List Path} (begun : Begun options d run files)
    (real : options.dryRun = false) (unreported : options.report = none) :
    run.Telling (d.filesOff (d.nominal options.journal)) (d.nominal options.journal)
      ((d.file? (d.nominal options.journal)).getD []) [] := by
  have text := begun.recorded real (by simp [unreported])
  refine ⟨⟨?_, ?_⟩, by simp [text, Journal.text, Text.Utf8.encode], ?_⟩
  · simpa [real] using begun.journal
  · simpa [unreported] using begun.reportFile
  · have others : ∀ q, q ≠ d.nominal options.journal → run.disk.file? q = d.file? q := by
      intro q other
      refine begun.grown.file?_eq ?_
      rintro (reserved | ⟨report, wanted, -⟩)
      · exact other reserved
      · simp [unreported] at wanted
    rw [filesOff_congr others]
    exact .nil

end

end Run

/-! ## The rows of a batch -/

section

variable (clock : Nat → String) (options : Options) (prober : Prober) (printer : Printer) (d : Disk)

/-- Nothing hindered a batch from telling what it did: the printer refused nothing, and the paths of
    the files and the target are text. -/
structure Unhindered : Prop where
  heard : (organize clock options prober printer d).console.Heard
  target : options.target.IsText
  selected : ∀ files, discover d options.selection options.source = .ok files →
    ∀ path ∈ files, path.IsText

end

section

variable {clock : Nat → String} {options : Options} {prober : Prober} {printer : Printer} {d : Disk}

/-- The path of a file that is handled in an unhindered batch is text. -/
theorem Unhindered.isText (unhindered : Unhindered clock options prober printer d) {visit : Visit}
    (member : visit ∈ batchTurns clock options prober printer d) : visit.path.IsText := by
  rcases organize_cases clock options prober printer d with
    ⟨error, stopped⟩ | ⟨run, files, finished⟩
  · rw [stopped.turns] at member
    cases member
  · have found := discover_of_returned (finished.result_of_heard unhindered.heard)
    exact unhindered.selected _ found visit.path (List.mem_map_of_mem member)

section

variable (tree : d.WellFormed) (real : options.dryRun = false)
  (unhindered : Unhindered clock options prober printer d)
include tree real unhindered

variable (traversed : discover d options.selection options.source =
    .ok ((batchTurns clock options prober printer d).map Visit.path))
include traversed

end

end

namespace Twins

/-- The songs of a collection; the first two have the same title. -/
def songs : List Path :=
  ["music/a.mp3", "music/b.mp3", "music/c.mp3"].map Path.ofString

/-- A collection, and a journal in which something stands that is not a row. -/
def disk : Disk where
  entries :=
    [((Path.ofString "music").parts, .folder),
     ((Path.ofString "music/a.mp3").parts, .file (Text.Utf8.ofString "TAG:title=song\n")),
     ((Path.ofString "music/b.mp3").parts, .file (Text.Utf8.ofString "TAG:title=song\n")),
     ((Path.ofString "music/c.mp3").parts, .file (Text.Utf8.ofString "TAG:title=tune\n")),
     ((Path.ofString "log.csv").parts, .file [255])]
  workingFolder := []

/-- Moves the songs to a library. -/
def options : Options where
  source := Path.ofString "music"
  target := Path.ofString "lib"
  pattern := "\x7btitle\x7d.\x7bextension\x7d"
  placeholder := "_"
  action := .move
  dryRun := false
  selection := ⟨["mp3"], [], []⟩
  journal := Path.ofString "log.csv"
  report := none
  verbosity := .normal

/-- Two songs are moved, and one finds the other in its way. -/
def counters : Counters where
  copied := 0
  moved := 2
  skipped := 0
  existing := 1
  failed := 0

theorem discover_songs : discover disk options.selection options.source = .ok songs := by
  have led : disk.reach options.source = .ok options.source.parts := by decide +kernel
  have folder : disk.entry? options.source.parts = some .folder := by decide +kernel
  have files : disk.namesIn (!·.isFolder) options.source.parts =
      songs.flatMap (·.parts.drop 1) := List.mergeSort_of_pairwise (by decide +kernel)
  have folders : disk.namesIn Entry.isFolder options.source.parts = [] :=
    List.mergeSort_of_pairwise (by decide +kernel)
  rw [Disk.discover_of_flat led folder folders, files]
  decide +kernel

theorem organize_songs :
    (organize (fun _ => "") options Prober.echo .patient disk).result = .ok counters ∧
      (organize (fun _ => "") options Prober.echo .patient disk).console.Heard := by
  unfold organize beginBatch Run.prepare
  simp only [discover_songs]
  decide +kernel

private theorem unhindered : Unhindered (fun _ => "") options Prober.echo .patient disk := by
  refine ⟨organize_songs.2, by decide +kernel, fun files same => ?_⟩
  obtain rfl := Except.ok.inj (discover_songs.symm.trans same)
  decide +kernel

end Twins

namespace Mangled

/-- The name of a song with a byte in it that belongs to no character. -/
def song : Component where
  text := Text.letters "caf" ++ .stray 0xE9 (by decide) :: Text.letters ".mp3"
  isName := by decide

/-- A collection of that song alone. -/
def disk : Disk where
  entries :=
    [((Path.ofString "music").parts, .folder),
     ((Path.ofString "music").parts ++ [song], .file (Text.Utf8.ofString "TAG:title=song\n"))]
  workingFolder := []

/-- Moves the song to a library, under a name that is text. -/
def options : Options :=
  { Twins.options with source := (Path.ofString "music").descend [song] }

end Mangled

/-- A song under a name that is no text is moved, counts as failed and has no row in the journal. -/
theorem Mangled.unlogged :
    (organize (fun _ => "") options Prober.echo .patient disk).result =
        .ok { Counters.zero with failed := 1 } ∧
      (organize (fun _ => "") options Prober.echo .patient disk).disk.file?
          (disk.nominal (Path.ofString "lib/song.mp3")) =
        some (Text.Utf8.ofString "TAG:title=song\n") ∧
      (organize (fun _ => "") options Prober.echo .patient disk).disk.file?
        (disk.nominal options.journal) = some [] := by
  decide +kernel

end MusicFiling
