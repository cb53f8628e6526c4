import MusicFiling.CommandLine.Organize
import MusicFiling.CommandLine.Patterns
import MusicFiling.CommandLine.Undo

/-!
# The command line

The first positional argument names a command and the arguments after it belong to the command.
-/

namespace MusicFiling.CommandLine

/-- The version of the program. -/
def version : String := "0.1.0"

/-- Tells whether the prober is installed. -/
def diagnoseOutputs (prober : Prober) (positional : List String) :
    Except Failure (List Output) := do
  atMost 0 positional
  let state := if prober.installed then "OK" else "missing"
  return ["[bold]Tagshelf diagnose[/bold]", s!"{probeProgram}: {state}"].map
    (.line <| Text.letters ·)

/-- The options that stand before a command. -/
inductive ProgramOption where
  | version
  | help
  deriving DecidableEq, Repr

/-- The options before a command under their names. -/
def programForms : List (OptionForm ProgramOption) :=
  [⟨.version, ["--version"], false⟩, ⟨.help, ["--help"], false⟩]

/-- Answers the options before a command, or else goes on with the positional arguments. -/
def afterProgramOptions (setting : Setting) (d : Disk) (args : List String)
    (next : List String → Ended) : Ended :=
  match read programForms false args with
  | .error failure => refuse setting d failure
  | .ok a =>
    match a.given with
    | (.version, _) :: _ => succeed d setting.console [.line (Text.letters version)]
    | (.help, _) :: _ => succeed d setting.console []
    | [] => next a.positional

/-- Runs the command that the arguments name. What names no command may still be an option that
    stands behind two hyphens, and is read as one before it is refused. -/
def run (setting : Setting) (d : Disk) (args : List String) : Ended :=
  afterProgramOptions setting d args fun
    | "organize" :: args => runOrganize setting d args
    | "render" :: args => runRender setting d args
    | "check" :: args => runPlain setting d args checkOutputs
    | "tags" :: args => runPlain setting d args tagsOutputs
    | "undo" :: args => runUndo setting d args
    | "diagnose" :: args => runPlain setting d args (diagnoseOutputs setting.prober)
    | args => afterProgramOptions setting d args fun _ => refuse setting d (.usage .misuse)

end MusicFiling.CommandLine
