import MusicFiling.CommandLine.Ended

/-!
# The command that organizes a collection

Its two positional arguments are the source, which must exist, and the target, which must not be a
file.
-/

namespace MusicFiling.CommandLine

/-- The options of organizing. -/
inductive OrganizeOption where
  | format
  | placeholder
  | move
  | dryRun
  | log
  | report
  | verbose
  | quiet
  | extension
  | included
  | excluded
  | help
  deriving DecidableEq, Repr

/-- The options of organizing under their names. -/
def organizeForms : List (OptionForm OrganizeOption) :=
  [⟨.format, ["--format", "-f"], true⟩, ⟨.placeholder, ["--placeholder", "-p"], true⟩,
   ⟨.move, ["--move"], false⟩, ⟨.dryRun, ["--dry-run"], false⟩, ⟨.log, ["--log"], true⟩,
   ⟨.report, ["--report"], true⟩, ⟨.verbose, ["--verbose", "-v"], false⟩,
   ⟨.quiet, ["--quiet", "-q"], false⟩, ⟨.extension, ["--ext"], true⟩,
   ⟨.included, ["--include"], true⟩, ⟨.excluded, ["--exclude"], true⟩, ⟨.help, ["--help"], false⟩]

/-- The options of a run, from the arguments. Paths are checked first, then the pattern, the
    placeholder and the verbosity. -/
def organizeOptions (d : Disk) (a : Arguments OrganizeOption) : Except Failure Options := do
  let log ← (a.value? .log).mapM usablePath
  let report ← (a.value? .report).mapM usablePath
  let source ← existingPath d (← required a.positional 0)
  let target ← folderPath d (← required a.positional 1)
  atMost 2 a.positional
  let pattern := (a.value? .format).getD defaultPattern
  checkedPattern pattern "--format"
  let placeholder ← checkedPlaceholder ((a.value? .placeholder).getD defaultPlaceholder)
  let verbosity ← chosenVerbosity (a.has .verbose) (a.has .quiet)
  let extensions := if a.has .extension then a.values .extension else defaultExtensions
  return {
    source, target, pattern, placeholder, report, verbosity
    action := if a.has .move then .move else .copy
    dryRun := a.has .dryRun
    selection := ⟨extensions, a.values .included, a.values .excluded⟩
    journal := log.getD (target.child Journal.defaultName) }

/-- Organizes a collection; the exit code tells whether a file failed. -/
def runOrganize (setting : Setting) (d : Disk) (args : List String) : Ended :=
  match read organizeForms true args with
  | .error failure => refuse setting d failure
  | .ok a =>
    if a.has .help then succeed d setting.console []
    else
      match organizeOptions d a with
      | .error failure => refuse setting d failure
      | .ok options =>
        let organized := organize setting.clock options setting.prober setting.printer d
        let result := match organized.result with
          | .ok counters => .ok (if counters.failed = 0 then 0 else 1)
          | .error error => .error (.organize error)
        ⟨organized.disk, organized.console, result⟩

end MusicFiling.CommandLine
