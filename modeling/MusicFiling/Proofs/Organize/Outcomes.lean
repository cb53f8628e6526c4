import MusicFiling.Proofs.Organize.Counting

/-!
# What becomes of each file

What the disk tells of a file settles what becomes of it, save that an action may fail where nothing
is in its way. The counters of a run that handles all its files tally what became of them.
-/

namespace MusicFiling

open Disk

/-- What becomes of a file on a disk if nothing stops the action. -/
def announced (options : Options) (prober : Prober) (d : Disk) (path : Path) : Status :=
  match d.prospect options prober path with
  | .error _ => .failed
  | .ok (.settled status) => status
  | .ok (.vacant _) => options.action.done

namespace Run

section

variable {time : String} {options : Options} {prober : Prober} {run : Run} {path : Path}
  {op : Option Operation} {s : Stepped Status}
  (handled : Handled time options prober run path op s)
include handled

/-- Unless it is hindered, a run does what is announced, or fails where nothing is in its way. -/
theorem Handled.status_cases (heard : s.run.console.Heard)
    (legible : run.Legible options prober path) :
    s.status = announced options prober run.disk path ∨
      options.dryRun = false ∧ s.status = .failed ∧
        ∃ destination, run.disk.prospect options prober path = .ok (.vacant destination) := by
  unfold announced
  cases handled with
  | settled steady told => exact .inl (by rw [told]; rfl)
  | broken steady told => exact .inl (by rw [told]; rfl)
  | previewed dry steady told => exact .inl (by rw [told]; rfl)
  | prevented real steady told cause => exact .inr ⟨real, rfl, _, told⟩
  | carried told free delivers carried yields =>
    obtain ⟨rfl, -⟩ | ⟨⟨mishap, rfl⟩, -⟩ := yields
    · exact .inl (by rw [told]; rfl)
    · exact .inr ⟨carried.real, rfl, _, told⟩
  | hindered steady refused => exact absurd heard (refused legible)

/-- A file whose paths cannot be written to the journal is delivered all the same: it counts as
    failed, and nothing but the report changes after it arrived. -/
theorem Handled.unlogged (opened : run.journal ≠ none) {action : Action} {destination : Path}
    (carries : op = some ⟨action, path, destination⟩)
    (stray : ¬(path.IsText ∧ destination.IsText)) :
    s.status = .failed ∧ ∃ origin goal content delivered,
      Delivered options prober run path destination origin goal content delivered ∧
        Grows (fun _ => False) (run.arrive options.action origin goal delivered).Reporting
          delivered s.run.disk := by
  cases handled with
  | @carried run' _ origin goal content delivered outcome told free delivers carried yields =>
    obtain ⟨rfl, rfl⟩ : options.action = action ∧ _ = destination := by simpa using carries
    rcases yields with ⟨-, recorded⟩ | ⟨⟨mishap, rfl⟩, -⟩
    · exact absurd recorded (not_or.mpr ⟨opened, stray⟩)
    · refine ⟨rfl, origin, goal, content, delivered, carried.toDelivered, ?_⟩
      cases carried.noted with
      | recorded written =>
        have recorded := isText_of_recordOperation written
        rw [arrive_journal_eq_none] at recorded
        exact absurd recorded (not_or.mpr ⟨opened, stray⟩)
      | lost after => simpa using after.disk
  | _ => cases carries

end

end Run

/-- The counters of some outcomes. -/
def Counters.tally (statuses : List Status) : Counters :=
  statuses.foldl Counters.add Counters.zero

private theorem Counters.foldl_add (statuses : List Status) (c : Counters) :
    statuses.foldl add c =
      ⟨c.copied + statuses.count .copied, c.moved + statuses.count .moved,
        c.skipped + statuses.count .skipped, c.existing + statuses.count .existing,
        c.failed + statuses.count .failed⟩ := by
  induction statuses generalizing c with
  | nil => rfl
  | cons status rest ih =>
    rw [List.foldl_cons, ih]
    cases status <;> simp [add, Nat.add_assoc, Nat.add_comm 1]

/-- A tally has the number of files with each status. -/
theorem Counters.tally_eq (statuses : List Status) :
    tally statuses =
      ⟨statuses.count .copied, statuses.count .moved, statuses.count .skipped,
        statuses.count .existing, statuses.count .failed⟩ := by
  simp [tally, foldl_add, zero]

namespace Run

section

variable (clock : Nat → String) (options : Options) (prober : Prober)

/-- What became of the file of a turn. -/
def outcome (visit : Visit) : Path × Status :=
  (visit.path, visit.run.status (clock visit.index) options prober visit.path)

variable {clock options prober} {total : Nat} {run : Run} {index : Nat} {files : List Path}
  (returned : (run.handleAll clock options prober total index files).outcome = .ok ())
include returned

/-- A run that handles all its files takes a turn for each of them. -/
theorem turns_map_path :
    (run.turns clock options prober total index files).map Visit.path = files := by
  induction files generalizing run index with
  | nil => rfl
  | cons path rest ih =>
    obtain ⟨ended, whole⟩ := handleAll_cons_of_ok returned
    rw [whole] at returned
    simp only [turns, ended, List.map_cons, ih returned]

/-- Each file that is handled is counted once. -/
theorem handleAll_counters :
    (run.handleAll clock options prober total index files).run.counters =
      (((run.turns clock options prober total index files).map
        (outcome clock options prober)).map Prod.snd).foldl Counters.add run.counters := by
  induction files generalizing run index with
  | nil => rfl
  | cons path rest ih =>
    obtain ⟨ended, whole⟩ := handleAll_cons_of_ok returned
    rw [whole] at returned ⊢
    rw [ih returned, handleNext_counters clock options prober ended]
    simp only [turns, ended, List.map_cons, List.foldl_cons, outcome]

end

end Run

section

variable (clock : Nat → String) (options : Options) (prober : Prober) (printer : Printer) (d : Disk)

/-- What became of each file of a batch, in order. -/
def batchOutcomes : List (Path × Status) :=
  (batchTurns clock options prober printer d).map (Run.outcome clock options prober)

end

variable {clock : Nat → String} {options : Options} {prober : Prober} {printer : Printer} {d : Disk}
  {counters : Counters}
  (returned : (organize clock options prober printer d).result = .ok counters)
include returned

/-- The counters that a batch returns tally the outcomes of its files. -/
theorem counters_eq_tally :
    counters =
      Counters.tally ((batchOutcomes clock options prober printer d).map Prod.snd) := by
  obtain ⟨run, files, finished, ended, rfl⟩ := exists_finished_of_returned returned
  rw [Run.handleAll_counters ended, finished.begun.counters, batchOutcomes, finished.turns]
  rfl

/-- A batch that returns takes a turn for each of the selected files, in order. -/
theorem discover_of_returned :
    discover d options.selection options.source =
      .ok ((batchTurns clock options prober printer d).map Visit.path) := by
  obtain ⟨run, files, finished, ended, -⟩ := exists_finished_of_returned returned
  rw [finished.turns, Run.turns_map_path ended]
  exact finished.begun.found

end MusicFiling
