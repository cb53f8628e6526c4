import MusicFiling.Console
import MusicFiling.Disk.Transfer
import MusicFiling.Journal
import MusicFiling.Text.Case

/-!
# Undoing operations

The operations of a journal are undone newest first. A move is moved back unless something stands
at its source again; a copy is deleted only while its source still exists. What cannot be undone is
skipped, and each change is confirmed unless all are confirmed in advance. Undoing stops where the
disk, the console or the answers do not let it go on.
-/

namespace MusicFiling

namespace Undo

/-- Why undoing stops. -/
inductive Stop where
  | noJournal (path : Path)
  | journal (error : Journal.ReadError)
  | disk (fault : Fault)
  /-- The printer refused an output. -/
  | unprinted (reason : List Letter)
  /-- A question was asked and no answer is left. -/
  | noAnswer
  deriving DecidableEq

/-- The wording of a stop. -/
def Stop.message : Stop → List Letter
  | .noJournal path => Text.letters "Undo log not found: " ++ path.text
  | .journal error => error.message
  | .disk fault => fault.message
  | .unprinted reason => reason
  | .noAnswer => Text.letters "no more input"

/-- Whether the disk is left alone, and whether questions are asked. -/
structure Mode where
  dryRun : Bool
  confirmed : Bool

/-- Undoing between two operations: the disk, the answers still to come, the console, and how many
    operations were undone. -/
structure Progress where
  disk : Disk
  answers : List String
  console : Console
  undone : Nat

/-- Prints something, and goes on unless it is refused. -/
def Progress.print (s : Progress) (output : Output) (next : Progress → Progress × Option Stop) :
    Progress × Option Stop :=
  let handed := { s with console := s.console.hand output }
  match s.console.refusal? output with
  | none => next handed
  | some reason => (handed, some (.unprinted reason))

/-- Prints a line. -/
def Progress.say (s : Progress) (text : List Letter) : Progress × Option Stop :=
  s.print (.line text) fun s => (s, none)

/-- What undoing an action is called. -/
def verb : Action → String
  | .move => "Move back"
  | .copy => "Delete copy"

/-- What undoing an action is called within a sentence. -/
def verbWithin : Action → String
  | .move => "move back"
  | .copy => "delete copy"

/-- Whether an answer agrees. -/
def agrees (answer : String) : Bool :=
  Text.lower (Text.strip answer) ∈ ["y", "yes"]

/-- The line for an operation that is skipped, from the entries at its source and destination. -/
def obstacle (d : Disk) (op : Operation) : Except Fault (Option (List Letter)) := do
  match ← d.at? op.destination with
  | none => .ok (some (Text.letters "Missing, skipping undo: " ++ op.destination.text))
  | some _ =>
    match op.action, ← d.at? op.source with
    | .move, some _ => .ok (some (Text.letters "Conflict, skipping undo: " ++ op.source.text))
    | .copy, none =>
      .ok (some (Text.letters "Source gone, keeping copy: " ++ op.destination.text))
    | _, _ => .ok none

/-- Moves a file back or removes a copy. -/
def revert (d : Disk) (op : Operation) : Attempt :=
  match op.action with
  | .move => (d.makeFolders op.source.parent).next fun d => d.move op.destination op.source
  | .copy => d.unlink op.destination

/-- The line that tells what was undone. -/
def undoneText (op : Operation) : List Letter :=
  match op.action with
  | .move => Text.letters "Undone: " ++ op.destination.text ++ Text.letters " -> " ++ op.source.text
  | .copy => Text.letters "Removed copy: " ++ op.destination.text

/-- The line that announces what would be undone. -/
def previewText (op : Operation) : List Letter :=
  Text.letters s!"DRY RUN UNDO: {verbWithin op.action} " ++ op.destination.text

/-- The question whether to undo an operation. -/
def questionText (op : Operation) : List Letter :=
  Text.letters s!"{verb op.action}?\n  " ++ op.destination.text ++ Text.letters "\n[y/N]: "

/-- The line for an operation that is not to be undone. -/
def declinedText (op : Operation) : List Letter :=
  Text.letters "Skipping undo: " ++ op.destination.text

/-- Undoes an operation that nothing stands against. It counts once it was told. -/
def carryOut (s : Progress) (op : Operation) : Progress × Option Stop :=
  let attempt := revert s.disk op
  let s := { s with disk := attempt.disk }
  match attempt.fault with
  | some fault => (s, some (.disk fault))
  | none => s.print (.line (undoneText op)) fun s => ({ s with undone := s.undone + 1 }, none)

/-- Handles one operation. -/
def step (mode : Mode) (s : Progress) (op : Operation) : Progress × Option Stop :=
  match obstacle s.disk op with
  | .error fault => (s, some (.disk fault))
  | .ok (some reason) => s.say reason
  | .ok none =>
    if mode.dryRun then s.say (previewText op)
    else if mode.confirmed then carryOut s op
    else
      s.print (.question (questionText op)) fun s =>
        match s.answers with
        | [] => (s, some .noAnswer)
        | answer :: answers =>
          let s := { s with answers := answers }
          if agrees answer then carryOut s op else s.say (declinedText op)

/-- Handles operations in order until one stops. -/
def steps (mode : Mode) (s : Progress) : List Operation → Progress × Option Stop
  | [] => (s, none)
  | op :: rest =>
    match step mode s op with
    | (s, none) => steps mode s rest
    | (s, some stop) => (s, some stop)

end Undo

/-- The disk and the console afterwards, and how many operations were undone unless undoing
    stopped. -/
structure Undone where
  disk : Disk
  console : Console
  result : Except Undo.Stop Nat

/-- Undoes the operations of a journal, newest first. -/
def undo (journal : Path) (mode : Undo.Mode) (answers : List String) (printer : Printer)
    (d : Disk) : Undone :=
  let console : Console := ⟨printer, []⟩
  match d.at? journal with
  | .error fault => ⟨d, console, .error (.disk fault)⟩
  | .ok none => ⟨d, console, .error (.noJournal journal)⟩
  | .ok (some _) =>
    match Journal.read d journal with
    | .error error => ⟨d, console, .error (.journal error)⟩
    | .ok operations =>
      match Undo.steps mode ⟨d, answers, console, 0⟩ operations.reverse with
      | (s, none) => ⟨s.disk, s.console, .ok s.undone⟩
      | (s, some stop) => ⟨s.disk, s.console, .error stop⟩

end MusicFiling
