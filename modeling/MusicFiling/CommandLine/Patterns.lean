import MusicFiling.CommandLine.Ended
import MusicFiling.Text.Plain

/-!
# Commands about patterns

A pattern is rendered for tags given as assignments, or checked, and the accepted tag names are
listed.
-/

namespace MusicFiling.CommandLine

/-- The options of rendering. -/
inductive RenderOption where
  | extension
  | placeholder
  | help
  deriving DecidableEq, Repr

/-- The options of rendering under their names. -/
def renderForms : List (OptionForm RenderOption) :=
  [⟨.extension, ["--extension", "-e"], true⟩, ⟨.placeholder, ["--placeholder", "-p"], true⟩,
   ⟨.help, ["--help"], false⟩]

/-- What a pattern yields for tags given as assignments. -/
def previewPattern (pattern : String) (assignments : List (String × String))
    (extension : Option String) (placeholder : String) : Except PatternError String :=
  renderPattern (Dictionary.ofPairs assignments extension).lookup placeholder pattern

/-- Renders a pattern for tags given on the command line. -/
def renderedText (a : Arguments RenderOption) : Except Failure String := do
  let pattern ← required a.positional 0
  let assignments ← (a.positional.drop 1).mapM assignment
  let placeholder ← checkedPlaceholder ((a.value? .placeholder).getD defaultPlaceholder)
  match previewPattern pattern assignments (a.value? .extension) placeholder with
  | .ok text => return text
  | .error error => .error (.badParameter error.message (some "PATTERN"))

/-- Prints a rendered pattern as plain text. -/
def runRender (setting : Setting) (d : Disk) (args : List String) : Ended :=
  match read renderForms true args with
  | .error failure => refuse setting d failure
  | .ok a =>
    if a.has .help then succeed d setting.console []
    else
      match renderedText a with
      | .error failure => refuse setting d failure
      | .ok text =>
        succeed d setting.console [.plain (String.ofList (Text.plainText text.toList) ++ "\n")]

/-- The only option of a command without options of its own. -/
inductive HelpOption where
  | help
  deriving DecidableEq, Repr

/-- The help option under its name. -/
def helpForms : List (OptionForm HelpOption) := [⟨.help, ["--help"], false⟩]

/-- Runs a command that has no options. -/
def runPlain (setting : Setting) (d : Disk) (args : List String)
    (outputs : List String → Except Failure (List Output)) : Ended :=
  match read helpForms true args with
  | .error failure => refuse setting d failure
  | .ok a =>
    if a.has .help then succeed d setting.console []
    else
      match outputs a.positional with
      | .error failure => refuse setting d failure
      | .ok outputs => succeed d setting.console outputs

/-- Checks a pattern. -/
def checkOutputs (positional : List String) : Except Failure (List Output) := do
  let pattern ← required positional 0
  atMost 1 positional
  checkedPattern pattern "PATTERN"
  return [.line (Text.letters "[green]OK[/green]")]

/-- Lists the accepted tag names. -/
def tagsOutputs (positional : List String) : Except Failure (List Output) := do
  atMost 0 positional
  return [.table "Accepted tag names" ["Name", "Canonical tag"]
    (Tag.available.map fun entry => [entry.1, entry.2.canonicalName])]

end MusicFiling.CommandLine
