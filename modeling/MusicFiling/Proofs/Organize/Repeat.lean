import MusicFiling.Proofs.Organize.Completion
import MusicFiling.Proofs.Organize.Leaves

/-!
# Organizing again

A batch whose source lies apart from its target and its journal leaves behind only files that no
other batch of the same options will copy or move: those that failed fail again, and those that were
copied find their copies. So organizing again does nothing. The one exception is a source that led
nowhere and cannot be asked about any more once the folders above the journal were made.
-/

namespace MusicFiling

open Disk

namespace Run.Sorting

variable {options : Options} {prober : Prober} (faithful : prober.Faithful)
  (real : options.dryRun = false) {d : Disk} (separate : options.Separate d) {run : Run}
include faithful real separate

/-- For a file that is left behind no operation is carried out, and it gets its status unless the
    printer refuses to tell of it. -/
theorem idle {path : Path} {rest : List Path} {status : Status}
    (sorting : run.Sorting options (path :: rest)) (later : d.Later run.disk)
    (same : run.disk.file? = d.file?) (stuck : Stuck options prober d path status)
    (time : String) :
    run.operation? options prober path = none ∧
      ((run.handle time options prober path).run.console.Heard →
        run.status time options prober path = status) := by
  obtain ⟨below, direct⟩ := sorting.inside path List.mem_cons_self
  obtain ⟨content, stands⟩ := sorting.ready.standing path List.mem_cons_self
  have before : d.file? (d.nominal path) = some content := by
    rw [← same, ← later.nominal, stands]
  have stuck' := stuck.onward separate (.of_file?_eq later same) faithful direct before
    (same ▸ before)
  obtain ⟨none, told⟩ := stuck'.handled sorting.ready.tree sorting.separate.target
    (sorting.separate.elsewhere below) real
    (handle_handled time options prober sorting.ready.tree stands)
  exact ⟨none, fun heard => told heard (.inl sorting.only.unreported)⟩

/-- Files that are left behind stay so; the induction is on those that are still to be handled. -/
theorem stays (clock : Nat → String) {files : List Path} {status : Path → Status}
    (sorting : run.Sorting options files) (later : d.Later run.disk)
    (same : run.disk.file? = d.file?)
    (stuck : ∀ path ∈ files, Stuck options prober d path (status path)) (total index : Nat) :
    run.logged clock options prober total index files = [] ∧
      (run.handleAll clock options prober total index files).run.disk.file? = d.file? ∧
      (run.handleAll clock options prober total index files).run.reportFile = none ∧
      ((run.handleAll clock options prober total index files).run.console.Heard →
        (run.turns clock options prober total index files).map (outcome clock options prober) =
          files.map fun path => (path, status path)) := by
  induction files generalizing run index with
  | nil => exact ⟨rfl, same, sorting.only.unreported, fun _ => rfl⟩
  | cons path rest ih =>
    obtain ⟨here, others⟩ := List.forall_mem_cons.mp stuck
    obtain ⟨undone, told⟩ := sorting.idle faithful real separate later same here (clock index)
    have turn : Turn (clock index) options prober run path (run.operation? options prober path)
        (run.handleNext clock options prober total index path).run := sorting.ready.turn total index
    have next := sorting.next turn
    have later' := later.trans (sorting.onward turn).1.later
    have kept : (run.handleNext clock options prober total index path).run.disk.file? =
        d.file? := by
      rw [undone] at turn
      cases turn with
      | still steady =>
        funext q
        rw [steady.disk.file?_eq (sorting.only.not_reporting q), same]
    have unlogged : (logged? clock options prober ⟨run, index, path⟩).toList = [] := by
      rw [logged?, undone]
      rfl
    rw [Run.handleAll, logged_cons, turns, unlogged]
    cases ended : (run.handleNext clock options prober total index path).outcome with
    | error mishap =>
      rw [Stepped.next_of_error ended]
      refine ⟨rfl, kept, next.only.unreported, fun heard => ?_⟩
      rw [handleNext_outcome clock options prober heard] at ended
      cases ended
    | ok _ =>
      rw [Stepped.next_of_ok ended]
      obtain ⟨none, files, unreported, outcomes⟩ := ih next later' kept others (index + 1)
      refine ⟨none, files, unreported, fun heard => ?_⟩
      have heard' := (handleAll_before clock options prober total
        (run.handleNext clock options prober total index path).run (index + 1) rest).heard heard
      have heard'' := (handleNext_steady clock options prober total index run path).console.heard
        heard'
      rw [List.map_cons, List.map_cons, outcomes heard, outcome, told heard'']

end Run.Sorting

/-- Opening a journal that exists changes no file. -/
theorem Run.Begun.file?_eq {options : Options} {d : Disk} {run : Run} {files : List Path}
    (begun : Begun options d run files) (real : options.dryRun = false)
    (unreported : options.report = none) (opened : d.file? (d.nominal options.journal) ≠ none) :
    run.disk.file? = d.file? := by
  obtain ⟨content, stands⟩ := Option.ne_none_iff_exists'.mp opened
  funext q
  by_cases here : q = d.nominal options.journal
  · rw [here, begun.recorded real (by simp [unreported]), stands, Option.getD_some]
  · refine begun.grown.file?_eq ?_
    rintro (same | ⟨report, wanted, -⟩)
    · exact here same
    · simp [unreported] at wanted

section

variable {clock : Nat → String} {options : Options} {prober : Prober} {printer : Printer} {d : Disk}
  (tree : d.WellFormed) (unreported : options.report = none)
include tree unreported

end

section

variable {clock : Nat → String} {options : Options} {prober : Prober} {printer : Printer} {d : Disk}
  (tree : d.WellFormed)
  (traversed : discover d options.selection options.source =
    .ok ((batchTurns clock options prober printer d).map Visit.path))
include tree traversed

end

/-- A prober that prints of a file what it contains, if its path can be asked about. -/
def Prober.reader : Prober where
  installed := true
  run d path :=
    if path.Usable then
      match d.file? (d.nominal path) with
      | some content => .finished 0 content []
      | none => .finished 1 [] []
    else .finished 1 [] []

theorem Prober.reader_opens : Prober.reader.Opens := by
  intro d path stdout stderr tree direct ran
  simp only [reader] at ran
  split_ifs at ran with usable
  · cases stands : d.file? (d.nominal path) with
    | none => simp [stands] at ran
    | some content =>
      have present : d.entry? (d.nominal path) ≠ none := by simp [file?_eq_some_iff.mp stands]
      exact ⟨_, tree.reach_direct direct usable (tree.nominal_parent_of_present direct present)⟩
  · simp at ran

/-- Copies the songs to a library. -/
def Twins.copying : Options :=
  { Twins.options with action := .copy }

namespace Lengthy

/-- Nothing but the root. -/
def disk : Disk where
  entries := []
  workingFolder := []

/-- A text of letters alone. -/
def letters (n : Nat) : List Letter := List.replicate n (.char 'a')

private theorem isName_letters {n : Nat} (long : 1 < n) :
    letters n ≠ [] ∧ letters n ≠ [.char '.'] ∧ .char '/' ∉ letters n := by
  have length : (letters n).length = n := List.length_replicate
  refine ⟨?_, ?_, ?_⟩
  · intro empty
    rw [empty] at length
    exact absurd long (length ▸ by decide)
  · intro dot
    rw [dot] at length
    exact absurd long (length ▸ by decide)
  · simp [letters]

/-- A name with one byte too many. -/
def name : Component := ⟨letters 256, isName_letters (by decide)⟩

/-- The folder in which the journal is created. -/
def folder : Component := ⟨Text.letters "x", by decide⟩

/-- Organizes a source that does not exist, next to which the journal is kept. -/
def options : Options :=
  { Twins.options with
    source := (Path.ofString "x").child name
    journal := Path.ofString "x/log.csv" }

private theorem separate : options.Separate disk := by decide +kernel

/-- The disk once the journal was created. -/
def after : Disk where
  entries := [((Path.ofString "x/log.csv").parts, .file []), ((Path.ofString "x").parts, .folder)]
  workingFolder := []

private theorem reach_notFound : disk.reach options.source = .error .notFound := by
  decide +kernel

private theorem discover_source : discover disk options.selection options.source = .ok [] :=
  discover_eq_nil reach_notFound nofun nofun

end Lengthy

end MusicFiling
