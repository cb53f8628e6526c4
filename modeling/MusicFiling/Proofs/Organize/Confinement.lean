import MusicFiling.Proofs.Organize.Batch

/-!
# What organizing leaves alone

A destination lies below the target whatever tags a file has, so a batch whose paths have no two
dots changes nothing elsewhere: only its journal and its report, the folders that lead to them and
to the target, and the files that it moves away. Every disk that a run comes to keeps to this
(`Confines`), because every turn does.
-/

namespace MusicFiling

open Disk

/-- A place strictly above another. -/
def Above (q place : Place) : Prop :=
  q <+: place ∧ q ≠ place

namespace Disk

private theorem isPrefix_of_aboveFile {d : Disk} {p : Path} (direct : p.Direct) {q : Place}
    (above : d.AboveFile p q) : q <+: d.nominal p.parent := by
  obtain ⟨k, -, rfl⟩ := above
  exact d.isPrefix_nominal_upTo direct.parent k

/-- A folder that is created for a file stands strictly above it. -/
theorem WellFormed.above_of_aboveFile {d : Disk} (tree : d.WellFormed) {p : Path}
    (direct : p.Direct) {q : Place} (above : d.AboveFile p q) (vacant : d.entry? q = none) :
    Above q (d.nominal p) := by
  have upper := isPrefix_of_aboveFile direct above
  refine ⟨upper.trans (d.isPrefix_nominal_parent direct), ?_⟩
  rintro rfl
  have start : d.startOf p.parent = d.startOf p := rfl
  have lengths := upper.length_le
  rw [nominal_direct d direct, nominal_direct d direct.parent, start] at lengths
  simp only [Path.parent, List.length_append, List.length_dropLast] at lengths
  have none : p.parts = [] := List.length_eq_zero_iff.mp (by omega)
  rw [nominal_direct d direct, none, List.append_nil, tree.startOf p] at vacant
  cases vacant

end Disk

/-- Every destination lies strictly below the target. -/
theorem above_of_planDestination {options : Options} {prober : Prober} {d : Disk}
    {path destination : Path} (planned : planDestination options prober d path = .ok destination)
    (d' : Disk) : Above (d'.nominal options.target) (d'.nominal destination) := by
  obtain ⟨cs, rfl, nonempty, proper⟩ := Run.planDestination_ok planned
  rw [d'.nominal_descend_direct options.target proper]
  refine ⟨List.prefix_append _ _, ?_⟩
  simpa using nonempty

namespace Run

/-- The places of the target and of the folders above it, the journal and the report. -/
def Leading (options : Options) (d : Disk) (q : Place) : Prop :=
  q <+: d.nominal options.target ∨ Above q (d.nominal options.journal) ∨
    ∃ report, options.report = some report ∧ Above q (d.nominal report)

/-- What a batch on a disk may have changed at a place, once it carried out some operations. -/
inductive Permitted (options : Options) (d : Disk) (done : List Operation) (after : Disk)
    (q : Place) : Prop where
  /-- The place is strictly below the target. -/
  | inside (below : Above (d.nominal options.target) q)
  /-- It is that of the journal or of the report. -/
  | written (reserved : Reserved options d q)
  /-- A folder is new there, which leads to one of these. -/
  | folder (vacant : d.entry? q = none) (made : after.entry? q = some .folder)
    (leading : Leading options d q)
  /-- A selected file was moved away from there. -/
  | moved {op : Operation} {files : List Path} (moving : options.action = .move)
    (carried : op ∈ done) (found : discover d options.selection options.source = .ok files)
    (selected : op.source ∈ files) (source : d.nominal op.source = q)
    (gone : after.entry? q = none) (outside : ¬q <+: d.nominal options.target)

/-- Every place is as it was or changed as permitted. -/
def Confines (options : Options) (d : Disk) (done : List Operation) (after : Disk) : Prop :=
  ∀ q, after.entry? q = d.entry? q ∨ Permitted options d done after q

section

variable {options : Options} {d : Disk} {done done' : List Operation} {after after' : Disk}
  {q : Place}

private theorem Permitted.keep (permitted : Permitted options d done after q)
    (same : after'.entry? q = after.entry? q) (more : done ⊆ done') :
    Permitted options d done' after' q := by
  cases permitted with
  | inside below => exact .inside below
  | written reserved => exact .written reserved
  | folder vacant made leading => exact .folder vacant (same.trans made) leading
  | moved moving carried found selected source gone outside =>
    exact .moved moving (more carried) found selected source (same.trans gone) outside

private theorem Confines.keep (confines : Confines options d done after)
    (same : after'.entry? q = after.entry? q) (more : done ⊆ done') :
    after'.entry? q = d.entry? q ∨ Permitted options d done' after' q := by
  rcases confines q with before | permitted
  · exact .inl (same.trans before)
  · exact .inr (permitted.keep same more)

/-- A place at which nothing stands and that leads to the target is as it was, so that a folder may
    be created there. -/
theorem Confines.vacant (confines : Confines options d done after)
    (leading : q <+: d.nominal options.target) (vacant : after.entry? q = none) :
    d.entry? q = none ∨ Reserved options d q := by
  rcases confines q with same | permitted
  · exact .inl (same ▸ vacant)
  · cases permitted with
    | inside below => exact absurd (leading.eq_of_length_le below.1.length_le) (Ne.symm below.2)
    | written reserved => exact .inr reserved
    | folder was made => exact .inl was
    | moved moving carried found selected source gone outside => exact absurd leading outside

/-- Folders on the way to a destination, and files below the target or in open files. -/
theorem Confines.grows (confines : Confines options d done after) {made written : Place → Prop}
    (grown : Grows made written after after')
    (way : ∀ q, made q → q <+: d.nominal options.target ∨ Above (d.nominal options.target) q)
    (open_ : ∀ q, written q → Above (d.nominal options.target) q ∨ Reserved options d q) :
    Confines options d done after' := by
  intro q
  rcases grown.entries q with same | ⟨new, vacant, folder⟩ | ⟨new, -, -⟩
  · exact confines.keep same fun _ => id
  · right
    rcases way q new with leading | below
    · rcases confines.vacant leading vacant with was | reserved
      · exact .folder was folder (.inl leading)
      · exact .written reserved
    · exact .inside below
  · right
    rcases open_ q new with below | reserved
    · exact .inside below
    · exact .written reserved

/-- A file that is delivered below the target, and perhaps taken away from where it was. -/
theorem Confines.delivery (confines : Confines options d done after) (tree : after.WellFormed)
    {op : Operation} {destination : Path} {origin goal : Place} {content : List UInt8}
    (delivery : after.Delivery options.action op.source destination origin goal content after')
    (below : Above (d.nominal options.target) goal)
    (working : after.workingFolder = d.workingFolder) {files : List Path}
    (found : discover d options.selection options.source = .ok files)
    (selected : op.source ∈ files) : Confines options d (done ++ [op]) after' := by
  intro q
  have entry := delivery.entry? tree q
  by_cases arrived : q = goal
  · exact .inr (.inside (arrived ▸ below))
  · rw [if_neg arrived] at entry
    by_cases left : options.action = .move ∧ q = origin
    · obtain ⟨moving, rfl⟩ := left
      rw [if_pos ⟨moving, rfl⟩] at entry
      obtain ⟨p, -, led⟩ := delivery.arrival
      have outside : ¬q <+: d.nominal options.target := by
        intro leading
        exact tree.not_below_file delivery.present led delivery.free delivery.apart
          (leading.trans below.1)
      have source : d.nominal op.source = q := by
        rw [← nominal_congr working]
        exact delivery.origin_eq.symm
      exact .inr (.moved moving (by simp) found selected source entry outside)
    · rw [if_neg left] at entry
      exact confines.keep entry (List.subset_append_left done [op])

/-- Opening the journal and the report. -/
theorem confines_of_opening (tree : d.WellFormed) (journal : options.journal.Direct)
    (report : ∀ p, options.report = some p → p.Direct)
    (grown : Grows (ReservedFolders options d) (Reserved options d) d after) :
    Confines options d [] after := by
  intro q
  rcases grown.entries q with same | ⟨new, vacant, folder⟩ | ⟨reserved, -, -⟩
  · exact .inl same
  · right
    refine .folder vacant folder (.inr ?_)
    rcases new with above | ⟨p, wanted, above⟩
    · exact .inl (tree.above_of_aboveFile journal above vacant)
    · exact .inr ⟨p, wanted, tree.above_of_aboveFile (report p wanted) above vacant⟩
  · exact .inr (.written reserved)

end

/-- A run that keeps to what is permitted: its open files stand below the target or where they were
    opened. -/
structure Bounded (options : Options) (d : Disk) (done : List Operation) (run : Run) : Prop where
  working : run.disk.workingFolder = d.workingFolder
  confines : Confines options d done run.disk
  writing : ∀ q, run.Writing q → Above (d.nominal options.target) q ∨ Reserved options d q

section

variable {time : String} {options : Options} {prober : Prober} {d : Disk}
  {done : List Operation} {run run' : Run} {path : Path} (target : options.target.Direct)
  (bounded : Bounded options d done run)
include target bounded

/-- The folders above a destination lead to the target or lie below it. -/
theorem Bounded.way {destination : Path}
    (planned : planDestination options prober run.disk path = .ok destination) {q : Place}
    (above : run.disk.AboveFile destination q) :
    q <+: d.nominal options.target ∨ Above (d.nominal options.target) q := by
  have direct := direct_of_planDestination planned target
  have below := (above_of_planDestination planned run.disk).1
  have upper := (isPrefix_of_aboveFile direct above).trans (run.disk.isPrefix_nominal_parent direct)
  rw [nominal_congr bounded.working options.target] at below
  by_cases leading : q <+: d.nominal options.target
  · exact .inl leading
  · right
    refine ⟨(List.prefix_or_prefix_of_prefix below upper).resolve_right leading, ?_⟩
    rintro rfl
    exact leading List.prefix_rfl

private theorem Bounded.steady (steady : Steady (run.FolderPlaces options prober path) run run') :
    Bounded options d done run' := by
  refine ⟨steady.disk.working.trans bounded.working, ?_, ?_⟩
  · refine bounded.confines.grows steady.disk ?_ fun q reporting =>
      bounded.writing q (.inr reporting)
    rintro q ⟨destination, planned, above⟩
    exact bounded.way target planned above
  · rw [steady.writing]
    exact bounded.writing

/-- An operation creates the folders of its destination, delivers its file and writes to the open
    files, which may have been moved. -/
theorem Bounded.carried {destination : Path} {origin goal : Place} {content : List UInt8}
    {delivered : Disk}
    (carried : Carried time options prober run path destination origin goal content delivered run')
    (tree : run.disk.WellFormed) {files : List Path}
    (found : discover d options.selection options.source = .ok files) (selected : path ∈ files) :
    Bounded options d (done ++ [⟨options.action, path, destination⟩]) run' := by
  have made := aboveFile_grows run.disk destination
  obtain ⟨arrived, -⟩ := carried.goal_of_grounded tree (grounded_of_direct run.disk target)
  have below : Above (d.nominal options.target) goal := by
    rw [arrived, ← nominal_congr bounded.working]
    exact above_of_planDestination carried.planned run.disk
  have writing : ∀ q, run'.Writing q →
      Above (d.nominal options.target) q ∨ Reserved options d q := by
    intro q here
    rw [carried.writing] at here
    rcases writing_arrive here with ⟨before, -⟩ | ⟨rfl, -, -⟩
    · exact bounded.writing q before
    · exact .inl below
  refine ⟨carried.working.trans bounded.working, ?_, writing⟩
  have opened : Confines options d done (run.disk.makeFolders destination.parent).disk :=
    bounded.confines.grows made (fun q => bounded.way target carried.planned) fun _ => False.elim
  have moved : Confines options d (done ++ [⟨options.action, path, destination⟩]) delivered :=
    opened.delivery (made.tree tree) carried.delivery below
      (made.working.trans bounded.working) found selected
  exact moved.grows carried.settled (fun _ => False.elim) writing

private theorem Bounded.turn {op : Option Operation}
    (turn : Turn time options prober run path op run') (tree : run.disk.WellFormed)
    {files : List Path} (found : discover d options.selection options.source = .ok files)
    (selected : path ∈ files) : Bounded options d (done ++ op.toList) run' := by
  cases turn with
  | still steady =>
    rw [Option.toList_none, List.append_nil]
    exact bounded.steady target steady
  | carried carried => exact bounded.carried target carried tree found selected

end

/-- All turns together; the induction is on the files that are still to be handled. -/
theorem Bounded.handleAll {clock : Nat → String} {options : Options} {prober : Prober} {d : Disk}
    {run : Run} {files : List Path} (bounded : Bounded options d [] run) (ready : run.Ready files)
    (target : options.target.Direct)
    (found : discover d options.selection options.source = .ok files) (total index : Nat) :
    Bounded options d ((run.logged clock options prober total index files).map Prod.snd)
      (run.handleAll clock options prober total index files).run := by
  obtain ⟨rest, -, -, handled⟩ := handleAll_preserved
    (motive := fun run rest done => rest ⊆ files ∧ Bounded options d (done.map Prod.snd) run)
    (fun run index path rest done run' ready ⟨selected, bounded⟩ turn => by
      obtain ⟨here, later⟩ := List.cons_subset.mp selected
      rw [List.map_append, map_snd_logged?]
      exact ⟨later, bounded.turn target turn ready.tree found here⟩)
    ready index ⟨List.Subset.refl files, bounded⟩
  exact handled

end Run

/-- Whatever is read from the files and whatever the pattern and the placeholder are, organizing
    changes only what is permitted. -/
theorem organize_confined (clock : Nat → String) {options : Options} (prober : Prober)
    (printer : Printer) {d : Disk} (tree : d.WellFormed) (target : options.target.Direct)
    (journal : options.journal.Direct) (report : ∀ p, options.report = some p → p.Direct)
    (q : Place)
    (changed : (organize clock options prober printer d).disk.entry? q ≠ d.entry? q) :
    Run.Permitted options d (batchOperations clock options prober printer d)
      (organize clock options prober printer d).disk q := by
  have confined : Run.Confines options d (batchOperations clock options prober printer d)
      (organize clock options prober printer d).disk := by
    rw [batchOperations]
    rcases organize_cases clock options prober printer d with
      ⟨error, stopped⟩ | ⟨run, files, finished⟩
    · rw [stopped.logged]
      exact Run.confines_of_opening tree journal report
        (stopped.grown.mono (fun _ => id) fun q written => .inl written.1)
    · have begun := finished.begun
      have start : Run.Bounded options d [] run := by
        refine ⟨begun.grown.working, Run.confines_of_opening tree journal report begun.grown, ?_⟩
        intro q writing
        right
        by_contra unreserved
        exact begun.unwritten unreserved writing
      have handled : Run.Bounded options d
          ((run.logged clock options prober files.length 1 files).map Prod.snd)
          (run.handleAll clock options prober files.length 1 files).run :=
        start.handleAll (begun.ready tree) target begun.found files.length 1
      rw [finished.logged]
      exact handled.confines.grows finished.closed (fun _ => False.elim)
        fun q reporting => handled.writing q (.inr reporting)
  exact (confined q).resolve_left changed

namespace Stray

/-- The place of a song. -/
def origin : Place :=
  (Path.ofString "music/a.mp3").parts

/-- A collection with a song whose title would lead out of any library. -/
def disk : Disk where
  entries :=
    [((Path.ofString "music").parts, .folder),
     (origin, .file (Text.Utf8.ofString "TAG:title=../../music\n"))]
  workingFolder := []

/-- Moves the song to a library, below a folder named after it. -/
def options : Options where
  source := Path.ofString "music"
  target := Path.ofString "lib"
  pattern := "\x7btitle\x7d/song.\x7bextension\x7d"
  placeholder := ".."
  action := .move
  dryRun := false
  selection := ⟨["mp3"], [], []⟩
  journal := Path.ofString "log.csv"
  report := none
  verbosity := .normal

end Stray

theorem confined_stray :
    Stray.disk.WellFormed ∧ Stray.options.target.Direct ∧ Stray.options.journal.Direct ∧
      (organize (fun _ => "") Stray.options Prober.echo .patient Stray.disk).disk.entry?
        Stray.origin = none ∧
      Run.Permitted Stray.options Stray.disk
        (batchOperations (fun _ => "") Stray.options Prober.echo .patient Stray.disk)
        (organize (fun _ => "") Stray.options Prober.echo .patient Stray.disk).disk Stray.origin := by
  have tree : Stray.disk.WellFormed := by decide +kernel
  have target : Stray.options.target.Direct := by decide +kernel
  have journal : Stray.options.journal.Direct := by decide +kernel
  have gone : (organize (fun _ => "") Stray.options Prober.echo .patient Stray.disk).disk.entry?
      Stray.origin = none := by
    decide +kernel
  refine ⟨tree, target, journal, gone, ?_⟩
  refine organize_confined (fun _ => "") Prober.echo .patient tree target journal
    (by simp [Stray.options])
    Stray.origin ?_
  rw [gone]
  decide +kernel

end MusicFiling
