import MusicFiling.CommandLine.Run

/-!
# The program

Runs a command and prints what it has to say. The program itself has no access to files: commands
see an empty folder and no prober, which is all that is needed to check and render patterns.
-/

namespace MusicFiling

/-- The cells of a table row, separated by a tab. -/
def rowText (cells : List String) : String := "\t".intercalate cells

/-- Prints one output. -/
def printOutput : Output → IO Unit
  | .line text => IO.println (Text.shown text)
  | .errorLine text => IO.eprintln (Text.shown text)
  | .question prompt => IO.print (Text.shown prompt)
  | .table title headers rows => do
    IO.println title
    (headers :: rows).forM fun cells => IO.println (rowText cells)
  | .plain text => IO.print text

/-- Tells why a command ended early, and the exit code for it. -/
def printFailure : CommandLine.Failure → IO UInt32
  | .usage _ => do
    IO.eprintln "Error: the arguments do not fit the command"
    return 2
  | .badParameter message none => do
    IO.eprintln s!"Error: Invalid value: {message}"
    return 2
  | .badParameter message (some hint) => do
    IO.eprintln s!"Error: Invalid value for {hint}: {message}"
    return 2
  | .organize (.pattern error) => do
    IO.eprintln error.message
    return 1
  | .organize (.mishap mishap) => do
    IO.eprintln (Text.shown mishap.message)
    return 1
  | .undo stop => do
    IO.eprintln (Text.shown stop.message)
    return 1
  | .unprinted reason => do
    IO.eprintln (Text.shown reason)
    return 1
  | .aborted => do
    IO.eprintln "Aborted!"
    return 1

end MusicFiling

/-- Runs the command that the arguments name. -/
def main (args : List String) : IO UInt32 := do
  let prober : MusicFiling.Prober := ⟨false, fun _ _ => .timedOut⟩
  let setting : MusicFiling.CommandLine.Setting :=
    ⟨fun _ => "", prober, MusicFiling.Printer.patient, []⟩
  let ended := MusicFiling.CommandLine.run setting ⟨[], []⟩ args
  ended.console.printed.forM MusicFiling.printOutput
  match ended.result with
  | .ok code => return UInt32.ofNat code
  | .error failure => MusicFiling.printFailure failure
