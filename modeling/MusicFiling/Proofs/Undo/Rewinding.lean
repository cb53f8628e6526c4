import MusicFiling.Proofs.Organize.Transcript
import MusicFiling.Proofs.Undo.Steps

/-!
# Undoing the operations of a transcript

The operations of a transcript are undone newest first. When its turn comes nothing stands against
any of them, and undoing it takes the files back to what they were before it. Folders stay.
-/

namespace MusicFiling

open Disk

private theorem Operation.Plain.filesOff_carryBack {d d' : Disk} {journal : Place} {op : Operation}
    (plain : op.Plain d journal) (files : d'.file? = op.carryBack d.nominal d.file?) :
    d'.filesOff journal = op.carryBack d.nominal (d.filesOff journal) := by
  funext q
  by_cases here : q = journal
  · subst here
    simp [filesOff, Operation.carryBack, Ne.symm plain.sourceOff, Ne.symm plain.destinationOff]
  · rw [filesOff_of_ne _ here, files]
    simp only [Operation.carryBack, filesOff_of_ne _ here, filesOff_of_ne _ plain.destinationOff]

namespace Undo

/-- Undoing halfway: the operations that are left, newest first, tell how the files came from those
    at the start, and the folders are those from which undoing set out. -/
structure Rewound (outset : Disk) (journal : Place) (start : Files) (ops : List Operation)
    (d : Disk) : Prop where
  tree : d.WellFormed
  working : d.workingFolder = outset.workingFolder
  folder : ∀ q, d.entry? q = some .folder ↔ outset.entry? q = some .folder
  leads : Operation.Leads outset.nominal start ops (d.filesOff journal)

/-- No folder stands where a move took its file from. -/
def Uncovered (outset : Disk) (op : Operation) : Prop :=
  op.action = .move → outset.entry? (outset.nominal op.source) ≠ some .folder

instance (outset : Disk) (op : Operation) : Decidable (Uncovered outset op) :=
  inferInstanceAs (Decidable (_ → _))

/-- Nothing stands against an operation, and reverting it takes the files back. -/
structure Reverts (d : Disk) (op : Operation) (d' : Disk) : Prop where
  clear : obstacle d op = .ok none
  done : revert d op = .done d'
  tree : d'.WellFormed
  working : d'.workingFolder = d.workingFolder
  folder : ∀ q, d'.entry? q = some .folder ↔ d.entry? q = some .folder
  files : d'.file? = op.carryBack d.nominal d.file?

section Reverting

variable {d : Disk} (tree : d.WellFormed) {journal : Place} {op : Operation}
  (plain : op.Plain d journal) {content : List UInt8}
  (arrived : d.entry? (d.nominal op.destination) = some (.file content))
include tree plain arrived

private theorem at?_destination : d.at? op.destination = .ok (some (.file content)) := by
  rw [tree.at?_direct plain.destination.1 plain.destination.2, arrived]

private theorem reach_destination : d.reach op.destination = .ok (d.nominal op.destination) := by
  have present : d.entry? (d.nominal op.destination) ≠ none := by simp [arrived]
  exact tree.reach_direct plain.destination.1 plain.destination.2
    (tree.nominal_parent_of_present plain.destination.1 present)

/-- A copy is removed while its source exists. -/
theorem reverts_copy (copied : op.action = .copy)
    (kept : d.entry? (d.nominal op.source) ≠ none) : ∃ d', Reverts d op d' := by
  have at' := tree.at?_direct plain.source.1 plain.source.2
  obtain ⟨entry, stands⟩ := Option.ne_none_iff_exists'.mp kept
  rw [stands] at at'
  have led := reach_destination tree plain arrived
  refine ⟨d.clear (d.nominal op.destination), ?_, ?_, tree.clear_file arrived, rfl, ?_, ?_⟩
  · unfold obstacle
    simp [at?_destination tree plain arrived, at', copied, bind, Except.bind]
  · unfold revert
    simp [copied, unlink_file led arrived]
  · intro q
    rw [tree.entry?_clear_file arrived]
    by_cases here : q = d.nominal op.destination
    · simp [here, arrived]
    · rw [if_neg here]
  · funext q
    rw [tree.file?_clear_file arrived]
    simp [Operation.carryBack, copied]

/-- A file that was moved is moved back to where nothing stands. -/
theorem reverts_move (moved : op.action = .move)
    (vacated : d.entry? (d.nominal op.source) = none) : ∃ d', Reverts d op d' := by
  obtain ⟨direct, usable⟩ := plain.source
  have at' := tree.at?_direct direct usable
  rw [vacated] at at'
  have home : d.isFolder op.source.parent = true :=
    tree.isFolder_direct direct.parent usable.parent plain.home
  obtain ⟨d', done, delivery⟩ := tree.move_vacant (reach_destination tree plain arrived) arrived
    (tree.reach_direct direct usable plain.home) vacated
  refine ⟨d', ?_, ?_, delivery.wellFormed tree, delivery.workingFolder,
    fun q => delivery.folder_iff tree, ?_⟩
  · unfold obstacle
    simp [at?_destination tree plain arrived, at', moved, bind, Except.bind]
  · unfold revert
    simp [moved, makeFolders_of_folder home, Attempt.done, Attempt.next, done]
  · funext q
    rw [delivery.file? tree]
    simp [Operation.carryBack, moved, file?_eq_some_iff.mpr arrived]

end Reverting

variable {outset : Disk} {journal : Place} {start : Files} {op : Operation}
  {ops : List Operation}

/-- The newest operation can be undone, which leaves the ones before it. -/
theorem Rewound.next {d : Disk} (rewound : Rewound outset journal start (op :: ops) d)
    (plain : op.Plain outset journal) (uncovered : Uncovered outset op) :
    ∃ d', Reverts d op d' ∧ Rewound outset journal start ops d' := by
  obtain ⟨tree, working, folder, leads⟩ := rewound
  have nominal : outset.nominal = d.nominal := funext fun p => (nominal_congr working p).symm
  have here : op.Plain d journal := plain.mono working fun q => (folder q).mpr
  rw [nominal] at leads
  cases leads with
  | @cons _ _ files _ before present vacant carried =>
    obtain ⟨content, moved⟩ := Option.ne_none_iff_exists'.mp present
    have apart : d.nominal op.source ≠ d.nominal op.destination := by
      intro same
      exact present (same ▸ vacant)
    have arrived : d.entry? (d.nominal op.destination) = some (.file content) := by
      rw [← file?_eq_some_iff, ← filesOff_of_ne d here.destinationOff, carried]
      simp [Operation.carry, moved]
    have source : d.file? (d.nominal op.source) =
        if op.action = .move then none else some content := by
      rw [← filesOff_of_ne d here.sourceOff, carried]
      simp [Operation.carry, apart, moved]
    have reverts : ∃ d', Reverts d op d' := by
      cases action : op.action with
      | copy =>
        rw [action] at source
        have stands := file?_eq_some_iff.mp source
        exact reverts_copy tree here arrived action (by simp [stands])
      | move =>
        rw [action] at source
        refine reverts_move tree here arrived action ?_
        rcases d.entry?_cases (d.nominal op.source) with none | stands | ⟨old, file⟩
        · exact none
        · rw [folder, ← nominal] at stands
          exact absurd stands (uncovered action)
        · simp [file?_eq_some_iff.mpr file] at source
    obtain ⟨d', reverted⟩ := reverts
    refine ⟨d', reverted, reverted.tree, reverted.working.trans working,
      fun q => (reverted.folder q).trans (folder q), ?_⟩
    rw [nominal, here.filesOff_carryBack reverted.files, carried,
      Operation.carryBack_carry present vacant]
    exact before

/-- Every change is made without a question. -/
def Mode.sure : Mode := ⟨false, true⟩

private theorem Reverts.step {s : Progress} {d' : Disk} (reverts : Reverts s.disk op d')
    (heard : (step .sure s op).1.console.Heard) :
    ∃ s', step .sure s op = (s', none) ∧ s'.disk = d' ∧ s'.undone = s.undone + 1 := by
  have allowed : Allowed .sure s op := ⟨reverts.clear, rfl, .inl rfl⟩
  have handled := step_handled .sure s op
  generalize Undo.step .sure s op = outcome at handled heard
  cases handled with
  | left refused => exact absurd allowed refused
  | failed _ failed => simp [reverts.done, Attempt.done] at failed
  | @done s' _ done disk counted =>
    refine ⟨s', rfl, ?_, counted⟩
    rw [disk, reverts.done]
    rfl
  | untold _ _ _ _ _ refused => exact absurd heard refused

/-- All operations of a transcript are undone if nothing is refused. -/
theorem Rewound.steps {s : Progress} (rewound : Rewound outset journal start ops s.disk)
    (plain : ∀ op ∈ ops, op.Plain outset journal) (uncovered : ∀ op ∈ ops, Uncovered outset op)
    (heard : (steps .sure s ops).1.console.Heard) :
    ∃ s', steps .sure s ops = (s', none) ∧ Rewound outset journal start [] s'.disk ∧
      s'.undone = s.undone + ops.length := by
  induction ops generalizing s with
  | nil => exact ⟨s, rfl, rewound, rfl⟩
  | cons op rest ih =>
    obtain ⟨firstPlain, restPlain⟩ := List.forall_mem_cons.mp plain
    obtain ⟨firstUncovered, restUncovered⟩ := List.forall_mem_cons.mp uncovered
    obtain ⟨d', reverts, left⟩ := rewound.next firstPlain firstUncovered
    obtain ⟨s', stepped, rfl, counted⟩ := reverts.step (heard_step heard)
    simp only [Undo.steps, stepped] at heard ⊢
    obtain ⟨s'', finished, done, total⟩ := ih left restPlain restUncovered heard
    refine ⟨s'', finished, done, ?_⟩
    rw [total, counted, List.length_cons]
    omega

end Undo

end MusicFiling
