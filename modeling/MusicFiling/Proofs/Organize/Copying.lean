import MusicFiling.Proofs.Organize.NeverOverwrites

/-!
# Runs that copy

Copying adds files and folders and takes nothing away. So in a batch that copies, whatever stands
before a file is handled stands for good, and only the journal and the report change.
-/

namespace MusicFiling

open Disk

namespace Run

/-- A later state of a run that only copies: its open files are the same, everything still stands,
    and only the open files may have other contents. -/
structure Filled (run run' : Run) : Prop where
  later : run.disk.Later run'.disk
  reportFile : run'.reportFile = run.reportFile
  writing : run'.Writing = run.Writing
  file : ∀ q, run.disk.file? q ≠ none → run'.disk.file? q ≠ none
  content : ∀ q content, run.disk.file? q = some content → ¬run.Writing q →
    run'.disk.file? q = some content

namespace Filled

variable {run run' run'' : Run}

theorem refl (tree : run.disk.WellFormed) : Filled run run :=
  ⟨.refl tree, rfl, rfl, fun _ => id, fun _ _ stands _ => stands⟩

theorem trans (first : Filled run run') (second : Filled run' run'') : Filled run run'' := by
  refine ⟨first.later.trans second.later, second.reportFile.trans first.reportFile,
    second.writing.trans first.writing, fun q stands => second.file q (first.file q stands), ?_⟩
  intro q content stands unwritten
  exact second.content q content (first.content q content stands unwritten)
    (first.writing ▸ unwritten)

theorem present (filled : Filled run run') {q : Place} (present : run.disk.entry? q ≠ none) :
    run'.disk.entry? q ≠ none := by
  rcases run.disk.entry?_cases q with vacant | folder | ⟨content, file⟩
  · exact absurd vacant present
  · simp [filled.later.folder q folder]
  · have stands : run.disk.file? q ≠ none := by simp [file?_eq_some_iff.mpr file]
    exact present_of_file? (filled.file q stands)

end Filled

section

variable {time : String} {options : Options} {prober : Prober} (copies : options.action = .copy)
  (target : options.target.Direct)
include copies target

theorem Turn.filled {run run' : Run} {path : Path} {op : Option Operation}
    (turn : Turn time options prober run path op run') (tree : run.disk.WellFormed) :
    Filled run run' := by
  have later := turn.later tree
  cases turn with
  | still steady =>
    refine ⟨later, steady.reportFile, steady.writing, ?_, ?_⟩
    · intro q stands
      obtain ⟨content, file⟩ := Option.ne_none_iff_exists'.mp stands
      obtain ⟨content', file'⟩ := steady.disk.file file
      simp [file']
    · intro q content stands unwritten
      rw [steady.disk.file?_eq fun reporting => unwritten (.inr reporting)]
      exact stands
  | @carried destination origin goal content delivered _ carried =>
    obtain ⟨-, free, -⟩ := carried.goal_of_grounded tree (grounded_of_direct run.disk target)
    have unmoved : options.action ≠ .move := by simp [copies]
    refine ⟨later, ?_, ?_, ?_, ?_⟩
    · rw [carried.noted.reportFile, copies]
      rfl
    · rw [carried.writing, copies]
      rfl
    · intro q stands
      have kept : delivered.file? q ≠ none := by
        rw [carried.file_delivered tree]
        split_ifs with here moved
        · exact Option.some_ne_none content
        · exact absurd moved.1 unmoved
        · exact stands
      obtain ⟨content', file⟩ := Option.ne_none_iff_exists'.mp kept
      obtain ⟨content'', file'⟩ := carried.settled.file file
      simp [file']
    · intro q old stands unwritten
      have notGoal : q ≠ goal := by
        rintro rfl
        simp [free] at stands
      exact (carried.kept tree stands unwritten notGoal fun moved => absurd moved unmoved).1

end

section

variable {clock : Nat → String} {options : Options} {prober : Prober}
  (copies : options.action = .copy) (target : options.target.Direct)
include copies target

theorem handleAll_filled {run : Run} {files : List Path} (ready : run.Ready files)
    (total index : Nat) :
    Filled run (run.handleAll clock options prober total index files).run := by
  obtain ⟨rest, -, filled⟩ := handleAll_preserved (motive := fun run' _ _ => Filled run run')
    (fun run' index path rest done run'' ready' filled turn =>
      filled.trans (turn.filled copies target ready'.tree)) ready index (.refl ready.tree)
  exact filled

/-- A turn comes after what was done before, with its file among those to be handled. -/
theorem filled_of_mem_turns {run : Run} {files : List Path} (ready : run.Ready files)
    {total index : Nat} {visit : Visit}
    (member : visit ∈ run.turns clock options prober total index files) :
    (∃ rest, visit.run.Ready (visit.path :: rest)) ∧ Filled run visit.run ∧
      visit.path ∈ files := by
  have step : ∀ run' index path rest run'', run'.Ready (path :: rest) →
      (Filled run run' ∧ path :: rest ⊆ files) →
      Turn (clock index) options prober run' path (run'.operation? options prober path) run'' →
      Filled run run'' ∧ rest ⊆ files := by
    rintro run' index path rest run'' ready' ⟨filled, among⟩ turn
    exact ⟨filled.trans (turn.filled copies target ready'.tree), (List.cons_subset.mp among).2⟩
  obtain ⟨rest, ready', filled, among⟩ := turns_induction
    (motive := fun run' rest => Filled run run' ∧ rest ⊆ files) step ready
    ⟨.refl ready.tree, List.Subset.refl files⟩ member
  exact ⟨⟨rest, ready'⟩, filled, (List.cons_subset.mp among).1⟩

end

end Run

end MusicFiling
