import MusicFiling.Text.Letter

/-!
# The console

What the program prints, in order: lines on the console and on the error console, questions, tables
and plain text. Printing is not part of the program. The printer may refuse what it is handed, for
instance a line with markup in it that closes what was never opened; what it makes of a line that it
accepts (its colours, its wrapping) is left out.
-/

namespace MusicFiling

/-- How much is printed. -/
inductive Verbosity where
  | quiet
  | normal
  | verbose
  deriving DecidableEq, Repr

/-- Whether what is shown from the verbosity `level` on is shown at the given one. -/
def Verbosity.shows : Verbosity → Verbosity → Bool
  | _, .quiet => true
  | .quiet, .normal => false
  | _, .normal => true
  | .verbose, .verbose => true
  | _, .verbose => false

/-- One thing that is printed. -/
inductive Output where
  | line (text : List Letter)
  | errorLine (text : List Letter)
  | question (prompt : List Letter)
  | table (title : String) (headers : List String) (rows : List (List String))
  | plain (text : String)
  deriving DecidableEq, Repr

/-- An output that was handed to the printer, and why it was refused if it was. -/
structure Handed where
  output : Output
  refusal : Option (List Letter)
  deriving DecidableEq, Repr

/-- The printer tells, after all that it was handed before, whether and why it refuses an output. -/
abbrev Printer := List Handed → Output → Option (List Letter)

/-- The printer and all that it was handed so far. -/
structure Console where
  printer : Printer
  handed : List Handed

namespace Console

/-- Why the printer would now refuse an output, if it would. -/
def refusal? (c : Console) (output : Output) : Option (List Letter) :=
  c.printer c.handed output

/-- Hands an output to the printer. -/
def hand (c : Console) (output : Output) : Console :=
  { c with handed := c.handed ++ [⟨output, c.refusal? output⟩] }

/-- Hands outputs to the printer until it refuses one. -/
def handAll (c : Console) : List Output → Console × Option (List Letter)
  | [] => (c, none)
  | output :: rest =>
    match c.refusal? output with
    | none => (c.hand output).handAll rest
    | some reason => (c.hand output, some reason)

/-- What was printed. -/
def printed (c : Console) : List Output :=
  (c.handed.filter (·.refusal.isNone)).map Handed.output

/-- What was refused. -/
def refused (c : Console) : List Output :=
  (c.handed.filter (·.refusal.isSome)).map Handed.output

end Console

/-- A printer that refuses nothing. -/
def Printer.patient : Printer := fun _ _ => none

end MusicFiling
