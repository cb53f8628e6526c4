import MusicFiling.CommandLine.Arguments
import MusicFiling.Organize.Batch
import MusicFiling.Undo

/-!
# How commands end

A command changes the disk, prints, and ends with an exit code or with the reason why it ended
early. Its parameters are checked before anything is done.
-/

namespace MusicFiling.CommandLine

/-- What a command needs from outside the disk: the time at which it handles each file, the prober,
    the printer, and what is typed when a question is asked. -/
structure Setting where
  clock : Nat → String
  prober : Prober
  printer : Printer
  answers : List String

/-- The console before anything is printed. -/
def Setting.console (setting : Setting) : Console := ⟨setting.printer, []⟩

/-- Why a command ends early. -/
inductive Failure where
  | usage (error : UsageError)
  /-- A parameter with a value that the program refuses, and which parameter that is. -/
  | badParameter (message : String) (hint : Option String)
  | organize (error : OrganizeError)
  | undo (stop : Undo.Stop)
  /-- The printer refused an output. -/
  | unprinted (reason : List Letter)
  /-- A question was asked and no answer is left. -/
  | aborted

/-- The disk and the console afterwards, and the exit code unless the command ended early. -/
structure Ended where
  disk : Disk
  console : Console
  result : Except Failure Nat

/-- A command that succeeds if its last outputs are printed. -/
def succeed (d : Disk) (console : Console) (outputs : List Output) : Ended :=
  match console.handAll outputs with
  | (console, none) => ⟨d, console, .ok 0⟩
  | (console, some reason) => ⟨d, console, .error (.unprinted reason)⟩

/-- A command that did nothing. -/
def refuse (setting : Setting) (d : Disk) (failure : Failure) : Ended :=
  ⟨d, setting.console, .error failure⟩

/-- A pattern that can be read. -/
def checkedPattern (pattern hint : String) : Except Failure Unit :=
  match checkPattern pattern with
  | .ok () => .ok ()
  | .error error => .error (.badParameter error.message (some hint))

/-- A placeholder that may be used. -/
def checkedPlaceholder (placeholder : String) : Except Failure String :=
  match validatePlaceholder placeholder with
  | .ok placeholder => .ok placeholder
  | .error error => .error (.badParameter error.message (some "--placeholder"))

/-- How much is printed; one cannot ask for more and for less. -/
def chosenVerbosity (verbose quiet : Bool) : Except Failure Verbosity :=
  if verbose ∧ quiet then
    .error (.badParameter "--verbose and --quiet are mutually exclusive" none)
  else .ok (if verbose then .verbose else if quiet then .quiet else .normal)

/-- A tag and its value, separated by the first equals sign. -/
def assignment (text : String) : Except Failure (String × String) :=
  match splitValue text with
  | (key, some value) => if key = "" then refusal else .ok (key, value)
  | (_, none) => refusal
where
  refusal : Except Failure (String × String) :=
    .error (.badParameter s!"Expected TAG=VALUE, got '{text}'" none)

/-- A positional argument that must be given. -/
def required (positional : List String) (index : Nat) : Except Failure String :=
  match positional[index]? with
  | some text => .ok text
  | none => .error (.usage .missingParameter)

/-- At most the given number of positional arguments. -/
def atMost (count : Nat) (positional : List String) : Except Failure Unit :=
  if positional.length > count then .error (.usage .misuse) else .ok ()

/-- A path without null bytes. -/
def usablePath (text : String) : Except Failure Path :=
  if text.toList.contains '\x00' then .error (.usage .badPath) else .ok (Path.ofString text)

/-- A path at which something stands. -/
def existingPath (d : Disk) (text : String) : Except Failure Path := do
  let path ← usablePath text
  if (d.find? path).isNone then .error (.usage .badPath) else return path

/-- A path at which no file stands. -/
def folderPath (d : Disk) (text : String) : Except Failure Path := do
  let path ← usablePath text
  if (d.find? path).any (!·.isFolder) then .error (.usage .badPath) else return path

/-- Usage errors as failures. -/
def read {κ : Type} (forms : List (OptionForm κ)) (mixed : Bool) (args : List String) :
    Except Failure (Arguments κ) :=
  match readArguments forms mixed args with
  | .ok arguments => .ok arguments
  | .error error => .error (.usage error)

end MusicFiling.CommandLine
