import MusicFiling.Dictionary
import MusicFiling.Path
import MusicFiling.Text.Lines
import MusicFiling.Text.Quoted
import MusicFiling.Text.Utf8

/-!
# Probing files

The tags of a music file are what `ffprobe` prints about it: lines that begin with a mark, a key
and an equals sign. Bytes that are no text are replaced, so that a corrupt line affects only
itself.
-/

namespace MusicFiling

/-- The program that reads tags. -/
def probeProgram : String := "ffprobe"

/-- The command that prints the tags of a file. -/
def probeCommand (path : Path) : List (List Letter) :=
  [probeProgram, "-v", "fatal", "-print_format", "default", "-show_format", "-show_streams",
   "-select_streams", "a"].map Text.letters ++ [path.text]

/-- The key and value of a tag line. The key is not empty and ends at the first equals sign; the
    value is all that follows. -/
def tagLine? : List Char → Option (String × String)
  | 'T' :: 'A' :: 'G' :: ':' :: rest =>
    let key := rest.takeWhile (· ≠ '=')
    match rest.drop key.length with
    | [] => none
    | _ :: value => if key.isEmpty then none else some (String.ofList key, String.ofList value)
  | _ => none

/-- The pairs on the tag lines of a text, in order. -/
def tagPairs (text : List Char) : List (String × String) :=
  (Text.lines text).filterMap tagLine?

/-- How running the command ended. -/
inductive ProbeRun where
  | finished (code : Int) (stdout stderr : List UInt8)
  | notStarted (reason : String)
  | timedOut

/-- The text of bytes that the program wrote, with line feeds alone at line ends. -/
def probeText (bytes : List UInt8) : List Char :=
  Text.unifyNewlines (Text.Utf8.decodeLenient bytes)

/-- Why tags cannot be read. -/
inductive ProbeError where
  | missing
  | notRun (path : Path) (reason : String)
  | rejected (path : Path) (diagnostics : String) (code : Int)
  deriving DecidableEq

/-- The wording of a failed probe, with what the program said or else its exit code. -/
def ProbeError.message : ProbeError → List Letter
  | .missing => Text.letters s!"{probeProgram} not found on PATH"
  | .notRun path reason =>
    Text.letters s!"{probeProgram} failed on " ++ path.text ++ Text.letters s!": {reason}"
  | .rejected path diagnostics code =>
    let reason := if diagnostics = "" then s!"exit {code}" else diagnostics
    Text.letters s!"{probeProgram} could not read " ++ path.text ++ Text.letters s!": {reason}"

/-- The wording of a command that ran out of time. -/
def timeoutMessage (command : List (List Letter)) : String :=
  let shown := ", ".intercalate (command.map Text.quoted)
  s!"Command '[{shown}]' timed out after 30 seconds"

/-- The tags of a file, from a run of the command if the program is installed. The extension is the
    file's own unless another one is given. -/
def readTags (installed : Bool) (run : ProbeRun) (path : Path) (extension : Option String) :
    Except ProbeError Dictionary :=
  if installed then
    match run with
    | .notStarted reason => .error (.notRun path reason)
    | .timedOut => .error (.notRun path (timeoutMessage (probeCommand path)))
    | .finished code stdout stderr =>
      if code = 0 then
        .ok (Dictionary.ofPairs (tagPairs (probeText stdout)) (extension.getD path.extension))
      else
        .error (.rejected path (Text.strip (String.ofList (probeText stderr))) code)
  else .error .missing

end MusicFiling
