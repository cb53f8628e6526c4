import MusicFiling.CommandLine.Ended

/-!
# The command that undoes a journal

It asks before each change, unless all are confirmed in advance or nothing is to be changed.
-/

namespace MusicFiling.CommandLine

/-- The options of undoing. -/
inductive UndoOption where
  | dryRun
  | yes
  | help
  deriving DecidableEq, Repr

/-- The options of undoing under their names. -/
def undoForms : List (OptionForm UndoOption) :=
  [⟨.dryRun, ["--dry-run"], false⟩, ⟨.yes, ["--yes"], false⟩, ⟨.help, ["--help"], false⟩]

/-- The journal to undo, from the positional arguments. -/
def journalArgument (positional : List String) : Except Failure Path := do
  let journal ← usablePath (← required positional 0)
  atMost 1 positional
  return journal

/-- Undoes the operations of a journal and tells how many were undone. -/
def runUndo (setting : Setting) (d : Disk) (args : List String) : Ended :=
  match read undoForms true args with
  | .error failure => refuse setting d failure
  | .ok a =>
    if a.has .help then succeed d setting.console []
    else
      match journalArgument a.positional with
      | .error failure => refuse setting d failure
      | .ok journal =>
        let undone := undo journal ⟨a.has .dryRun, a.has .yes⟩ setting.answers setting.printer d
        match undone.result with
        | .ok count => succeed undone.disk undone.console [.line (Text.letters s!"Undone: {count}")]
        | .error .noAnswer => ⟨undone.disk, undone.console, .error .aborted⟩
        | .error stop => ⟨undone.disk, undone.console, .error (.undo stop)⟩

end MusicFiling.CommandLine
