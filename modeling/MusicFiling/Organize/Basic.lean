import MusicFiling.Console
import MusicFiling.Journal
import MusicFiling.Naming
import MusicFiling.Pattern.Scan
import MusicFiling.Probe
import MusicFiling.Selection

/-!
# Organizing: options, outcomes and destinations

What a run of the organizer is asked to do, what may become of a file, and where a file goes: its
destination is what the pattern yields from its tags, below the target folder.
-/

namespace MusicFiling

/-- What to organize, and how. -/
structure Options where
  source : Path
  target : Path
  pattern : String
  placeholder : String
  action : Action
  dryRun : Bool
  selection : Selection
  journal : Path
  report : Option Path
  verbosity : Verbosity

/-- The program that reads tags: whether it is installed, and how it runs on a file. -/
structure Prober where
  installed : Bool
  run : Disk → Path → ProbeRun

/-- What became of a file. -/
inductive Status where
  | copied
  | moved
  | skipped
  | existing
  | failed
  deriving DecidableEq, Repr

/-- The word for a status. -/
def Status.text : Status → String
  | .copied => "copied"
  | .moved => "moved"
  | .skipped => "skipped"
  | .existing => "exists"
  | .failed => "failed"

/-- How many files had each status. -/
structure Counters where
  copied : Nat
  moved : Nat
  skipped : Nat
  existing : Nat
  failed : Nat
  deriving DecidableEq, Repr

namespace Counters

/-- No files yet. -/
def zero : Counters := ⟨0, 0, 0, 0, 0⟩

/-- One more file with the given status. -/
def add (c : Counters) : Status → Counters
  | .copied => { c with copied := c.copied + 1 }
  | .moved => { c with moved := c.moved + 1 }
  | .skipped => { c with skipped := c.skipped + 1 }
  | .existing => { c with existing := c.existing + 1 }
  | .failed => { c with failed := c.failed + 1 }

end Counters

/-- The status of a file that an action was carried out on. -/
def Action.done : Action → Status
  | .copy => .copied
  | .move => .moved

/-- Why a file gets no destination. -/
inductive Refusal where
  | probe (error : ProbeError)
  | pattern (error : PatternError)
  | destination (error : DestinationError)

/-- The wording of a refusal. -/
def Refusal.message : Refusal → List Letter
  | .probe error => error.message
  | .pattern error => Text.letters error.message
  | .destination error => Text.letters error.message

/-- The destination of a file, from the tags that the prober reads. -/
def planDestination (options : Options) (prober : Prober) (d : Disk) (path : Path) :
    Except Refusal Path :=
  match readTags prober.installed (prober.run d path) path none with
  | .error error => .error (.probe error)
  | .ok tags =>
    match renderPattern tags.lookup options.placeholder options.pattern with
    | .error error => .error (.pattern error)
    | .ok relative =>
      match buildDestination options.target relative with
      | .error error => .error (.destination error)
      | .ok destination => .ok destination

end MusicFiling
