import MusicFiling.Proofs.Organize.Batch

/-!
# Counters

Every file that is handled is counted once. If the printer refuses nothing and the paths are text,
the files counted as copied or moved are those for which an operation was carried out.
-/

namespace MusicFiling

/-- How many files were copied or moved. -/
def Counters.transferred (c : Counters) : Nat :=
  c.copied + c.moved

private theorem Action.done_cases (action : Action) :
    action.done = .copied ∨ action.done = .moved := by
  cases action
  · exact .inl rfl
  · exact .inr rfl

private theorem Counters.transferred_add_done (c : Counters) (action : Action) :
    (c.add action.done).transferred = c.transferred + 1 := by
  cases action <;> simp only [Action.done, Counters.add, Counters.transferred] <;> omega

private theorem Counters.transferred_add_other (c : Counters) {status : Status}
    (other : status = .skipped ∨ status = .existing ∨ status = .failed) :
    (c.add status).transferred = c.transferred := by
  rcases other with rfl | rfl | rfl <;> rfl

namespace Run

theorem handleNext_counters (clock : Nat → String) (options : Options) (prober : Prober)
    {total index : Nat} {run : Run} {path : Path}
    (ended : (run.handleNext clock options prober total index path).outcome = .ok ()) :
    (run.handleNext clock options prober total index path).run.counters =
      run.counters.add (run.status (clock index) options prober path) := by
  rcases handleNext_cases clock options prober total index run path with
    ⟨console, -, next⟩ | ⟨run', reason, -, -, stopped⟩
  · rw [next, ← (handle_tame (clock index) options prober run path).counters]
    rfl
  · rw [stopped] at ended
    cases ended

section

variable {time : String} {options : Options} {prober : Prober} {run : Run} {path : Path}
  {op : Option Operation} {s : Stepped Status}
  (handled : Handled time options prober run path op s) (real : options.dryRun = false)
include handled real

/-- What is not carried out is neither copied nor moved. -/
theorem Handled.status_of_none (none : op = none) :
    s.status = .skipped ∨ s.status = .existing ∨ s.status = .failed := by
  cases handled with
  | settled steady told => exact Disk.prospect_eq_settled told
  | broken steady told => exact .inr (.inr rfl)
  | previewed dry => simp [real] at dry
  | prevented => exact .inr (.inr rfl)
  | carried => cases none
  | hindered => exact .inr (.inr rfl)

/-- An operation is carried out for a file that is copied or moved, and for no other unless telling
    of it is hindered. -/
theorem Handled.isSome_iff (heard : s.run.console.Heard)
    (text : Textual options prober run.disk path) :
    op.isSome ↔ s.status = options.action.done := by
  cases op with
  | none =>
    simp only [Option.isSome_none, Bool.false_eq_true, false_iff]
    have other := handled.status_of_none real rfl
    rintro done
    rcases options.action.done_cases with same | same <;> simp [done, same] at other
  | some op =>
    cases handled with
    | carried told free delivers carried yields =>
      obtain ⟨rfl, -⟩ | ⟨-, refused⟩ := yields
      · simp [Stepped.status]
      · exact absurd heard (refused ⟨text.1, text.2 _ carried.planned⟩)

end

section

variable (clock : Nat → String) {options : Options} (prober : Prober)
  (real : options.dryRun = false) (target : options.target.IsText)
include real target

theorem Ready.isSome_iff {run : Run} {path : Path} {rest : List Path}
    (ready : run.Ready (path :: rest)) (text : path.IsText) {time : String}
    (heard : (run.handle time options prober path).run.console.Heard) :
    (run.operation? options prober path).isSome ↔
      run.status time options prober path = options.action.done := by
  obtain ⟨content, stands⟩ := ready.standing path List.mem_cons_self
  have handled := handle_handled time options prober ready.tree stands
  exact handled.isSome_iff real heard (textual prober run.disk target text)

private theorem handleNext_transferred {run : Run} {path : Path} {rest : List Path}
    (ready : run.Ready (path :: rest)) (text : path.IsText) {total index : Nat}
    (heard : (run.handleNext clock options prober total index path).run.console.Heard)
    (ended : (run.handleNext clock options prober total index path).outcome = .ok ()) :
    (run.handleNext clock options prober total index path).run.counters.transferred =
      run.counters.transferred +
        (logged? clock options prober ⟨run, index, path⟩).toList.length := by
  obtain ⟨content, stands⟩ := ready.standing path List.mem_cons_self
  have handled := handle_handled (clock index) options prober ready.tree stands
  have before := (handleNext_steady clock options prober total index run path).console
  have carried := ready.isSome_iff prober real target text (before.heard heard)
  rw [handleNext_counters clock options prober ended]
  unfold logged?
  cases op : run.operation? options prober path with
  | some op =>
    rw [carried.mp (by simp [op]), Counters.transferred_add_done]
    rfl
  | none =>
    have other : run.status (clock index) options prober path = .skipped ∨ _ ∨ _ :=
      handled.status_of_none real op
    rw [Counters.transferred_add_other _ other]
    rfl

/-- The counters tell how many operations were carried out. -/
theorem handleAll_transferred {total : Nat} {run : Run} {index : Nat} {files : List Path}
    (ready : run.Ready files) (text : ∀ path ∈ files, path.IsText)
    (heard : (run.handleAll clock options prober total index files).run.console.Heard) :
    (run.handleAll clock options prober total index files).run.counters.transferred =
      run.counters.transferred +
        (run.logged clock options prober total index files).length := by
  induction files generalizing run index with
  | nil => rfl
  | cons path rest ih =>
    obtain ⟨here, later⟩ := List.forall_mem_cons.mp text
    have heard' := heard_handleNext heard
    have ended := handleNext_outcome clock options prober heard'
    rw [handleAll, Stepped.next_of_ok ended] at heard ⊢
    rw [ih (ready.handleNext clock options prober total index) later heard, logged_cons, ended,
      handleNext_transferred clock prober real target ready here heard' ended,
      List.length_append, Nat.add_assoc]

end

end Run

end MusicFiling
