import MusicFiling.Organize.Batch
import MusicFiling.Proofs.Disk.Listing
import MusicFiling.Proofs.Organize.Turn

/-!
# The turns of a batch

A batch is a sequence of turns, each with the run before it and the file that it handles. The disk
stays a tree, and the files that are still to be handled stand, whatever the turns do: an operation
may replace a file by another but removes none save its source. Only a printer that refuses to be
told of a file can end the sequence early.
-/

namespace MusicFiling

open Disk

/-- The turn of a file: the run before it, and the file with its number. -/
structure Visit where
  run : Run
  index : Nat
  path : Path

/-- What becomes of a file. Where a mishap ended the handling, the file has failed. -/
def Stepped.status (s : Stepped Status) : Status :=
  match s.outcome with
  | .ok status => status
  | .error _ => .failed

/-- What becomes of a file in a run. -/
def Run.status (time : String) (options : Options) (prober : Prober) (run : Run) (path : Path) :
    Status :=
  (run.handle time options prober path).status

namespace Run

/-- Telling of a mishap changes nothing but the console, and goes on unless that is refused. -/
theorem rescue_cases (path : Path) (s : Stepped Status) :
    ∃ console, s.run.console.Before console ∧
      (rescue path s = ⟨s.run.withConsole console, .ok s.status⟩ ∨
        ∃ reason, rescue path s = ⟨s.run.withConsole console, .error (.unprinted reason)⟩ ∧
          ¬console.Heard) := by
  obtain ⟨run, outcome⟩ := s
  cases outcome with
  | ok status => exact ⟨run.console, .refl _, .inl rfl⟩
  | error mishap =>
    obtain ⟨console, before, told | ⟨reason, told, refused⟩⟩ :=
      prints_complain run path mishap.message
    · exact ⟨console, before, .inl (by simp only [rescue, told, Stepped.next_ok]; rfl)⟩
    · exact ⟨console, before,
        .inr ⟨reason, by simp only [rescue, told, Stepped.next_error], refused⟩⟩

section

variable (clock : Nat → String) (options : Options) (prober : Prober)

/-- What became of a file is counted, and nothing else changes but the console; only a refusal of
    the printer keeps a run from its next file. -/
theorem handleNext_cases (total index : Nat) (run : Run) (path : Path) :
    let handled := run.handle (clock index) options prober path
    (∃ console, handled.run.console.Before console ∧
      run.handleNext clock options prober total index path =
        ⟨(handled.run.count (run.status (clock index) options prober path)).withConsole console,
          .ok ()⟩) ∨
    ∃ run' reason, Steady (fun _ => False) handled.run run' ∧ ¬run'.console.Heard ∧
      run.handleNext clock options prober total index path = ⟨run', .error (.unprinted reason)⟩ := by
  unfold handleNext status
  generalize run.handle (clock index) options prober path = handled
  simp only
  obtain ⟨console, before, rescued | ⟨reason, rescued, refused⟩⟩ := rescue_cases path handled
  · obtain ⟨console', before', told | ⟨reason, told, refused⟩⟩ := prints_debug options
      ((handled.run.withConsole console).count handled.status)
      (Text.letters s!"Handled {100 * index / total}% of all files ({index}/{total})")
    · exact .inl ⟨console', before.trans before',
        by simp only [rescued, Stepped.next_ok, told]; rfl⟩
    · refine .inr ⟨(handled.run.count handled.status).withConsole console', reason, ?_, refused,
        by simp only [rescued, Stepped.next_ok, told]; rfl⟩
      exact ⟨Grows.refl _ _ _, rfl, rfl, before.trans before'⟩
  · exact .inr ⟨_, reason, .of_console _ before, refused,
      by simp only [rescued, Stepped.next_error]⟩

theorem handleNext_steady (total index : Nat) (run : Run) (path : Path) :
    Steady (fun _ => False) (run.handle (clock index) options prober path).run
      (run.handleNext clock options prober total index path).run := by
  rcases handleNext_cases clock options prober total index run path with
    ⟨console, before, next⟩ | ⟨run', reason, steady, -, ended⟩
  · rw [next]
    exact ⟨Grows.refl _ _ _, rfl, rfl, before⟩
  · rw [ended]
    exact steady

theorem handleNext_outcome {total index : Nat} {run : Run} {path : Path}
    (heard : (run.handleNext clock options prober total index path).run.console.Heard) :
    (run.handleNext clock options prober total index path).outcome = .ok () := by
  rcases handleNext_cases clock options prober total index run path with
    ⟨console, -, next⟩ | ⟨run', reason, -, refused, ended⟩
  · rw [next]
  · rw [ended] at heard
    exact absurd heard refused

private theorem handleNext_before (total index : Nat) (run : Run) (path : Path) :
    run.console.Before (run.handleNext clock options prober total index path).run.console :=
  (handle_tame (clock index) options prober run path).console.trans
    (handleNext_steady clock options prober total index run path).console

theorem handleAll_before (total : Nat) (run : Run) (index : Nat) (files : List Path) :
    run.console.Before (run.handleAll clock options prober total index files).run.console := by
  induction files generalizing run index with
  | nil => exact .refl _
  | cons path rest ih =>
    have before := handleNext_before clock options prober total index run path
    rw [handleAll, Stepped.next]
    split
    · exact before.trans (ih _ _)
    · exact before

/-- The turns in which files are handled. The last one may end the run. -/
def turns (total : Nat) (run : Run) : Nat → List Path → List Visit
  | _, [] => []
  | index, path :: rest =>
    let handled := run.handleNext clock options prober total index path
    ⟨run, index, path⟩ ::
      match handled.outcome with
      | .ok () => turns total handled.run (index + 1) rest
      | .error _ => []

/-- The journal's entry for a turn, if an operation is carried out in it. -/
def logged? (visit : Visit) : Option (String × Operation) :=
  (visit.run.operation? options prober visit.path).map (clock visit.index, ·)

@[simp] theorem map_snd_logged? (visit : Visit) :
    (logged? clock options prober visit).toList.map Prod.snd =
      (visit.run.operation? options prober visit.path).toList := by
  unfold logged?
  cases visit.run.operation? options prober visit.path <;> rfl

/-- The entries for the operations that are carried out while files are handled. -/
def logged (total : Nat) (run : Run) (index : Nat) (files : List Path) :
    List (String × Operation) :=
  (run.turns clock options prober total index files).filterMap (logged? clock options prober)

theorem logged_cons (total : Nat) (run : Run) (index : Nat) (path : Path) (rest : List Path) :
    run.logged clock options prober total index (path :: rest) =
      (logged? clock options prober ⟨run, index, path⟩).toList ++
        match (run.handleNext clock options prober total index path).outcome with
        | .ok () => (run.handleNext clock options prober total index path).run.logged clock options
            prober total (index + 1) rest
        | .error _ => [] := by
  rw [logged, turns, List.filterMap_cons]
  cases (run.handleNext clock options prober total index path).outcome <;>
    cases logged? clock options prober ⟨run, index, path⟩ <;> rfl

end

/-! ## Files still to be handled -/

/-- A tree in which every file that is still to be handled stands, each at a place of its own. -/
structure Ready (run : Run) (files : List Path) : Prop where
  tree : run.disk.WellFormed
  standing : ∀ path ∈ files, ∃ content, run.disk.file? (run.disk.nominal path) = some content
  distinct : (files.map run.disk.nominal).Nodup

variable {clock : Nat → String} {options : Options} {prober : Prober}

namespace Ready

variable {run : Run} {path : Path} {rest : List Path}

/-- Any of the files that stand can be handled. -/
theorem turn (ready : run.Ready (path :: rest)) (total index : Nat) :
    Turn (clock index) options prober run path (run.operation? options prober path)
      (run.handleNext clock options prober total index path).run := by
  obtain ⟨content, stands⟩ := ready.standing path List.mem_cons_self
  exact (handle_turn (clock index) options prober ready.tree stands).trans
    (handleNext_steady clock options prober total index run path)

private theorem nominal_ne (ready : run.Ready (path :: rest)) {other : Path}
    (member : other ∈ rest) :
    run.disk.nominal other ≠ run.disk.nominal path := by
  obtain ⟨absent, -⟩ := List.nodup_cons.mp ready.distinct
  intro same
  exact absent (List.mem_map.mpr ⟨other, member, same⟩)

theorem next {time : String} {op : Option Operation} {run' : Run}
    (ready : run.Ready (path :: rest)) (turn : Turn time options prober run path op run') :
    run'.Ready rest := by
  have same : run'.disk.nominal = run.disk.nominal := funext (nominal_congr turn.working)
  refine ⟨turn.wellFormed ready.tree, ?_, ?_⟩
  · intro other member
    obtain ⟨content, stands⟩ := ready.standing other (List.mem_cons_of_mem path member)
    rw [same]
    exact turn.file ready.tree stands (ready.nominal_ne member)
  · rw [same]
    exact (List.nodup_cons.mp ready.distinct).2

theorem handleNext (clock : Nat → String) (options : Options) (prober : Prober)
    (ready : run.Ready (path :: rest)) (total index : Nat) :
    (run.handleNext clock options prober total index path).run.Ready rest := by
  have turn : Turn (clock index) options prober run path (run.operation? options prober path)
      (run.handleNext clock options prober total index path).run := ready.turn total index
  exact ready.next turn

end Ready

section Induction

/-- What the turns preserve holds where the run ends, given a fact about each of them. -/
theorem handleAll_induction {motive : Run → List Path → List (String × Operation) → Prop}
    {fact : Visit → Prop} {total : Nat}
    (step : ∀ run index path rest done run', run.Ready (path :: rest) → fact ⟨run, index, path⟩ →
      motive run (path :: rest) done →
      Turn (clock index) options prober run path (run.operation? options prober path) run' →
      motive run' rest (done ++ (logged? clock options prober ⟨run, index, path⟩).toList))
    {run : Run} {files : List Path} {done : List (String × Operation)} (ready : run.Ready files)
    {index : Nat} (facts : ∀ visit ∈ run.turns clock options prober total index files, fact visit)
    (start : motive run files done) :
    ∃ rest, ((run.handleAll clock options prober total index files).outcome = .ok () → rest = []) ∧
      motive (run.handleAll clock options prober total index files).run rest
        (done ++ run.logged clock options prober total index files) := by
  induction files generalizing run done index with
  | nil => exact ⟨[], fun _ => rfl, by simpa [handleAll, yield, logged, turns] using start⟩
  | cons path rest ih =>
    have turn : Turn (clock index) options prober run path (run.operation? options prober path)
        (run.handleNext clock options prober total index path).run := ready.turn total index
    rw [turns] at facts
    obtain ⟨here, later⟩ := List.forall_mem_cons.mp facts
    have stepped := step run index path rest done _ ready here start turn
    rw [handleAll, logged_cons, ← List.append_assoc]
    cases ended : (run.handleNext clock options prober total index path).outcome with
    | ok _ =>
      rw [Stepped.next_of_ok ended]
      exact ih (ready.next turn) (by simpa only [ended] using later) stepped
    | error mishap =>
      rw [Stepped.next_of_error ended]
      refine ⟨rest, fun returned => ?_, ?_⟩
      · cases returned
      · simpa using stepped

/-- What all turns preserve holds where the run ends. -/
theorem handleAll_preserved {motive : Run → List Path → List (String × Operation) → Prop}
    {total : Nat}
    (step : ∀ run index path rest done run', run.Ready (path :: rest) →
      motive run (path :: rest) done →
      Turn (clock index) options prober run path (run.operation? options prober path) run' →
      motive run' rest (done ++ (logged? clock options prober ⟨run, index, path⟩).toList))
    {run : Run} {files : List Path} (ready : run.Ready files) (index : Nat)
    (start : motive run files []) :
    ∃ rest, ((run.handleAll clock options prober total index files).outcome = .ok () → rest = []) ∧
      motive (run.handleAll clock options prober total index files).run rest
        (run.logged clock options prober total index files) := by
  have handled := @handleAll_induction clock options prober motive (fun _ => True) total
    (fun run index path rest done run' ready _ => step run index path rest done run' ready) run
    files [] ready index (fun _ _ => trivial) start
  rwa [List.nil_append] at handled

/-- What turns preserve holds at every turn. -/
theorem turns_induction {motive : Run → List Path → Prop} {total : Nat}
    (step : ∀ run index path rest run', run.Ready (path :: rest) → motive run (path :: rest) →
      Turn (clock index) options prober run path (run.operation? options prober path) run' →
      motive run' rest)
    {run : Run} {files : List Path} (ready : run.Ready files) (start : motive run files)
    {index : Nat} {visit : Visit}
    (member : visit ∈ run.turns clock options prober total index files) :
    ∃ rest, visit.run.Ready (visit.path :: rest) ∧ motive visit.run (visit.path :: rest) := by
  induction files generalizing run index with
  | nil => cases member
  | cons path rest ih =>
    rw [turns] at member
    rcases List.mem_cons.mp member with rfl | later
    · exact ⟨rest, ready, start⟩
    · have first : Turn (clock index) options prober run path (run.operation? options prober path)
          (run.handleNext clock options prober total index path).run := ready.turn total index
      split at later
      · exact ih (ready.next first) (step run index path rest _ ready start first) later
      · cases later

/-- Every turn starts from a run in which its file stands. -/
theorem ready_of_mem_turns {total : Nat} {run : Run} {files : List Path} (ready : run.Ready files)
    {index : Nat} {visit : Visit}
    (member : visit ∈ run.turns clock options prober total index files) :
    ∃ rest, visit.run.Ready (visit.path :: rest) := by
  obtain ⟨rest, standing, -⟩ :=
    turns_induction (motive := fun _ _ => True) (fun _ _ _ _ _ _ _ _ => trivial) ready trivial
      member
  exact ⟨rest, standing⟩

private theorem later_of_mem_turns {total : Nat} {run : Run} {files : List Path}
    (ready : run.Ready files) {index : Nat} {visit : Visit}
    (member : visit ∈ run.turns clock options prober total index files) :
    run.disk.Later visit.run.disk := by
  have start : run.disk.Later run.disk := .refl ready.tree
  have step : ∀ run' index path rest run'', run'.Ready (path :: rest) →
      run.disk.Later run'.disk →
      Turn (clock index) options prober run' path (run'.operation? options prober path) run'' →
      run.disk.Later run''.disk :=
    fun _ _ _ _ _ ready' later turn => later.trans (turn.later ready'.tree)
  obtain ⟨rest, -, later⟩ :=
    turns_induction (motive := fun run' _ => run.disk.Later run'.disk) step ready start member
  exact later

theorem handleAll_later {total : Nat} {run : Run} {files : List Path} (ready : run.Ready files)
    (index : Nat) :
    run.disk.Later (run.handleAll clock options prober total index files).run.disk := by
  have start : run.disk.Later run.disk := .refl ready.tree
  obtain ⟨rest, -, later⟩ := handleAll_preserved (motive := fun run' _ _ => run.disk.Later run'.disk)
    (fun run' index path rest done run'' ready' later turn =>
      later.trans (turn.later ready'.tree)) ready index start
  exact later

end Induction

/-- A run that handles all its files goes on after each. -/
theorem handleAll_cons_of_ok {total : Nat} {run : Run} {index : Nat} {path : Path}
    {rest : List Path}
    (returned : (run.handleAll clock options prober total index (path :: rest)).outcome = .ok ()) :
    (run.handleNext clock options prober total index path).outcome = .ok () ∧
      run.handleAll clock options prober total index (path :: rest) =
        (run.handleNext clock options prober total index path).run.handleAll clock options prober
          total (index + 1) rest := by
  rw [handleAll] at returned ⊢
  cases ended : (run.handleNext clock options prober total index path).outcome with
  | ok _ => exact ⟨rfl, Stepped.next_of_ok ended⟩
  | error mishap =>
    rw [Stepped.next_of_error ended] at returned
    cases returned

/-- Only a refusal of the printer keeps a run from handling all its files. -/
theorem handleAll_outcome (clock : Nat → String) (options : Options) (prober : Prober) (total : Nat)
    (run : Run) (index : Nat) (files : List Path) :
    (run.handleAll clock options prober total index files).outcome = .ok () ∨
      (∃ reason, (run.handleAll clock options prober total index files).outcome =
        .error (.unprinted reason)) ∧
      ¬(run.handleAll clock options prober total index files).run.console.Heard := by
  induction files generalizing run index with
  | nil => exact .inl rfl
  | cons path rest ih =>
    rw [handleAll]
    rcases handleNext_cases clock options prober total index run path with
      ⟨console, -, next⟩ | ⟨run', reason, -, refused, ended⟩
    · rw [next, Stepped.next_ok]
      exact ih _ _
    · rw [ended, Stepped.next_error]
      exact .inr ⟨⟨reason, rfl⟩, refused⟩

/-- Where nothing is refused in the end, nothing was refused after the first file. -/
theorem heard_handleNext {total : Nat} {run : Run} {index : Nat} {path : Path} {rest : List Path}
    (heard : (run.handleAll clock options prober total index (path :: rest)).run.console.Heard) :
    (run.handleNext clock options prober total index path).run.console.Heard := by
  have returned := (handleAll_outcome clock options prober total run index
    (path :: rest)).resolve_right fun ended => ended.2 heard
  rw [(handleAll_cons_of_ok returned).2] at heard
  exact (handleAll_before clock options prober total _ _ rest).heard heard

/-- Where nothing is refused in the end, nothing was refused in any turn. -/
theorem heard_of_mem_turns {total : Nat} {run : Run} {index : Nat} {files : List Path}
    (heard : (run.handleAll clock options prober total index files).run.console.Heard)
    {visit : Visit} (member : visit ∈ run.turns clock options prober total index files) :
    (visit.run.handle (clock visit.index) options prober visit.path).run.console.Heard := by
  induction files generalizing run index with
  | nil => cases member
  | cons path rest ih =>
    have heard' := heard_handleNext heard
    have ended := handleNext_outcome clock options prober heard'
    simp only [turns, ended] at member
    rcases List.mem_cons.mp member with rfl | among
    · exact (handleNext_steady clock options prober total index run path).console.heard heard'
    · rw [handleAll, Stepped.next_of_ok ended] at heard
      exact ih heard among

/-! ## Beginning and ending -/

/-- Whether a place is that of the journal or of the report. -/
def Reserved (options : Options) (d : Disk) (q : Place) : Prop :=
  q = d.nominal options.journal ∨
    ∃ report, options.report = some report ∧ q = d.nominal report

/-- The places of the folders above the journal and the report. -/
def ReservedFolders (options : Options) (d : Disk) (q : Place) : Prop :=
  d.AboveFile options.journal q ∨
    ∃ report, options.report = some report ∧ d.AboveFile report q

theorem openJournal_grows (options : Options) (run : Run) :
    Grows (run.disk.AboveFile options.journal) (· = run.disk.nominal options.journal) run.disk
      (openJournal options run).run.disk := by
  unfold openJournal
  split_ifs
  · exact Grows.refl _ _ _
  · cases opened : run.disk.openToAppend options.journal with
    | opened disk file => exact (openKeeping_opened opened).1
    | failed disk fault =>
      exact (openKeeping_failed opened).mono (fun _ => id) fun _ => False.elim

private theorem openJournal_opened {options : Options} {run run' : Run}
    (opened : openJournal options run = ⟨run', .ok ()⟩) :
    run'.journal = (if options.dryRun then run.journal
      else some ⟨some (run.disk.nominal options.journal)⟩) ∧
    run'.report = run.report ∧ run'.counters = run.counters ∧
    (options.dryRun = false →
      run'.disk.reach options.journal = .ok (run.disk.nominal options.journal) ∧
        run'.disk.file? (run.disk.nominal options.journal) =
          some ((run.disk.file? (run.disk.nominal options.journal)).getD [])) := by
  unfold openJournal at opened
  cases dry : options.dryRun with
  | true =>
    obtain rfl : run = run' := by simpa [dry, yield] using opened
    simp
  | false =>
    cases tried : run.disk.openToAppend options.journal with
    | failed disk fault => simp [dry, tried, stop] at opened
    | opened disk file =>
      obtain ⟨-, rfl, led, text⟩ := openKeeping_opened tried
      simp only [dry, tried, Bool.false_eq_true, if_false, yield, Stepped.mk.injEq, and_true]
        at opened
      subst opened
      simpa using ⟨led, text⟩

private theorem openReport_grows (options : Options) (run : Run) :
    Grows (fun q => ∃ report, options.report = some report ∧ run.disk.AboveFile report q)
      (fun q => ∃ report, options.report = some report ∧ q = run.disk.nominal report) run.disk
      (openReport options run).run.disk := by
  unfold openReport
  cases wanted : options.report with
  | none => exact Grows.refl _ _ _
  | some path =>
    cases opened : run.disk.openToReplace path with
    | opened disk file =>
      simp only [opened]
      exact (openKeeping_opened opened).1.mono (fun q above => ⟨path, rfl, above⟩)
        fun q same => ⟨path, rfl, same⟩
    | failed disk fault =>
      simp only [opened]
      exact (openKeeping_failed opened).mono (fun q above => ⟨path, rfl, above⟩)
        fun _ => False.elim

private theorem openReport_opened {options : Options} {run run' : Run}
    (opened : openReport options run = ⟨run', .ok ()⟩) (unreported : run.report = none) :
    run'.reportFile = (options.report.map fun path => ⟨some (run.disk.nominal path)⟩) ∧
      run'.journal = run.journal ∧ run'.counters = run.counters := by
  unfold openReport at opened
  cases wanted : options.report with
  | none =>
    obtain rfl : run = run' := by simpa [wanted, yield] using opened
    simp [reportFile, unreported]
  | some path =>
    cases tried : run.disk.openToReplace path with
    | failed disk fault => simp [wanted, tried, stop] at opened
    | opened disk file =>
      obtain ⟨-, rfl, -, -⟩ := openKeeping_opened tried
      simp only [wanted, tried, yield, Stepped.mk.injEq, and_true] at opened
      subst opened
      simp [reportFile, Report.ofFile]

theorem openJournal_failed {options : Options} {run run' : Run} {mishap : Mishap}
    (failed : openJournal options run = ⟨run', .error mishap⟩) :
    Grows (run.disk.AboveFile options.journal) (fun _ => False) run.disk run'.disk := by
  unfold openJournal at failed
  split_ifs at failed
  · simp [yield] at failed
  · cases tried : run.disk.openToAppend options.journal with
    | opened disk file => simp [tried, yield] at failed
    | failed disk fault' =>
      simp only [tried, stop, Stepped.mk.injEq] at failed
      obtain ⟨rfl, -⟩ := failed
      exact openKeeping_failed tried

theorem openReport_failed {options : Options} {run run' : Run} {mishap : Mishap}
    (failed : openReport options run = ⟨run', .error mishap⟩) :
    options.report ≠ none ∧
      Grows (fun q => ∃ report, options.report = some report ∧ run.disk.AboveFile report q)
        (fun _ => False) run.disk run'.disk := by
  unfold openReport at failed
  cases wanted : options.report with
  | none => simp [wanted, yield] at failed
  | some path =>
    cases tried : run.disk.openToReplace path with
    | opened disk file => simp [wanted, tried, yield] at failed
    | failed disk fault' =>
      simp only [wanted, tried, stop, Stepped.mk.injEq] at failed
      obtain ⟨rfl, -⟩ := failed
      exact ⟨by simp, (openKeeping_failed tried).mono (fun q above => ⟨path, rfl, above⟩)
        fun _ => id⟩

/-- A batch that has begun: its files, and the journal and the report that it opened. -/
structure Begun (options : Options) (d : Disk) (run : Run) (files : List Path) : Prop where
  found : discover d options.selection options.source = .ok files
  grown : Grows (ReservedFolders options d) (Reserved options d) d run.disk
  journal : run.journal =
    if options.dryRun then none else some ⟨some (d.nominal options.journal)⟩
  reportFile : run.reportFile = options.report.map fun path => ⟨some (d.nominal path)⟩
  counters : run.counters = Counters.zero
  reached : options.dryRun = false →
    run.disk.reach options.journal = .ok (d.nominal options.journal)
  recorded : options.dryRun = false →
    (∀ report, options.report = some report → d.nominal report ≠ d.nominal options.journal) →
    run.disk.file? (d.nominal options.journal) =
      some ((d.file? (d.nominal options.journal)).getD [])

/-- Opening the journal and the report, one after the other. -/
theorem open_grows (options : Options) (run : Run) :
    Grows (ReservedFolders options run.disk) (Reserved options run.disk) run.disk
      (openReport options (openJournal options run).run).run.disk := by
  have first := openJournal_grows options run
  have second := openReport_grows options (openJournal options run).run
  simp only [first.nominal, first.aboveFile] at second
  exact (first.mono (fun _ => .inl) fun _ => .inl).trans (second.mono (fun _ => .inr) fun _ => .inr)

private theorem Prints.next {run : Run} {s : Stepped Unit} {f : Run → Unit → Stepped Unit}
    (first : Prints run s)
    (second : ∀ console, Prints (run.withConsole console) (f (run.withConsole console) ())) :
    Prints run (s.next f) := by
  obtain ⟨console, before, rfl | ⟨reason, rfl, refused⟩⟩ := first
  · obtain ⟨console', before', told⟩ := second console
    exact ⟨console', before.trans before', told⟩
  · exact ⟨console, before, .inr ⟨reason, rfl, refused⟩⟩

theorem prints_announce (options : Options) (run : Run) (files : List Path) :
    Prints run (run.announce options files) := by
  refine (prints_debug options run _).next fun console => ?_
  split
  · exact prints_log options _ _
  · exact prints_yield _

/-- A run in which nothing was opened or counted yet. -/
structure Fresh (d : Disk) (run : Run) : Prop where
  disk : run.disk = d
  journal : run.journal = none
  report : run.report = none
  counters : run.counters = Counters.zero

/-- How far a batch gets before it handles a file. -/
inductive Beginning (options : Options) (d : Disk) :
    Run → Except OrganizeError (List Path) → Prop where
  | refused {run : Run} {error : OrganizeError} (fresh : Fresh d run) :
    Beginning options d run (.error error)
  | noJournal {first run : Run} {mishap : Mishap} (fresh : Fresh d first)
    (failed : openJournal options first = ⟨run, .error mishap⟩) :
    Beginning options d run (.error (.mishap mishap))
  | noReport {first second run : Run} {mishap : Mishap} (fresh : Fresh d first)
    (opened : openJournal options first = ⟨second, .ok ()⟩)
    (failed : openReport options second = ⟨run, .error mishap⟩) :
    Beginning options d run (.error (.mishap mishap))
  | begun {first second run : Run} {files : List Path} (fresh : Fresh d first)
    (found : discover d options.selection options.source = .ok files)
    (opened : openJournal options first = ⟨second, .ok ()⟩)
    (opened' : openReport options second = ⟨run, .ok ()⟩) : Beginning options d run (.ok files)

theorem beginBatch_beginning (options : Options) (printer : Printer) (d : Disk) :
    Beginning options d (beginBatch options printer d).1 (beginBatch options printer d).2 := by
  have fresh : ∀ console, Fresh d ⟨d, none, none, console, Counters.zero⟩ :=
    fun _ => ⟨rfl, rfl, rfl, rfl⟩
  unfold beginBatch
  cases checked : checkPattern options.pattern with
  | error error => exact .refused (fresh _)
  | ok accepted =>
    simp only [prepare]
    cases found : discover d options.selection options.source with
    | error fault => exact .refused (fresh _)
    | ok files =>
      obtain ⟨console, -, told | ⟨reason, told, -⟩⟩ :=
        prints_announce options ⟨d, none, none, ⟨printer, []⟩, Counters.zero⟩ files
      · simp only [told, Stepped.next_ok]
        cases opened : openJournal options ⟨d, none, none, console, Counters.zero⟩ with
        | mk second outcome =>
          cases outcome with
          | error mishap => exact .noJournal (fresh console) opened
          | ok _ =>
            simp only [Stepped.next_ok]
            cases opened' : openReport options second with
            | mk third outcome =>
              cases outcome with
              | error mishap => exact .noReport (fresh console) opened opened'
              | ok _ => exact .begun (fresh console) found opened opened'
      · simp only [told, Stepped.next_error]
        exact .refused (fresh console)

theorem beginBatch_ok {options : Options} {printer : Printer} {d : Disk} {run : Run}
    {files : List Path} (begun : beginBatch options printer d = (run, .ok files)) :
    Begun options d run files := by
  have beginning := beginBatch_beginning options printer d
  rw [begun] at beginning
  cases beginning with
  | @begun first second _ _ fresh found opened opened' =>
    obtain ⟨rfl, noJournal, noReport, zero⟩ := fresh
    have grown := open_grows options first
    have later := openReport_grows options second
    have working := (openJournal_grows options first).nominal
    obtain ⟨journal, report, counters, text⟩ := openJournal_opened opened
    obtain ⟨reportFile, kept, counted⟩ := openReport_opened opened' (report.trans noReport)
    simp only [opened] at grown working
    simp only [opened'] at grown later
    simp only [working] at reportFile later
    refine ⟨found, grown, ?_, reportFile, ?_, ?_, ?_⟩
    · rw [kept, journal, noJournal]
    · rw [counted, counters, zero]
    · intro real
      exact later.reach (text real).1
    · intro real different
      rw [later.file?_eq ?_]
      · exact (text real).2
      · rintro ⟨report, wanted, same⟩
        exact different report wanted same.symm

/-- A batch that does not begin leaves every file alone, save that it opens its journal before a
    report that cannot be opened. -/
theorem beginBatch_error {options : Options} {printer : Printer} {d : Disk} {run : Run}
    {error : OrganizeError} (stopped : beginBatch options printer d = (run, .error error)) :
    Grows (ReservedFolders options d)
      (fun q => q = d.nominal options.journal ∧ options.report ≠ none) d run.disk := by
  have beginning := beginBatch_beginning options printer d
  rw [stopped] at beginning
  cases beginning with
  | refused fresh =>
    rw [fresh.disk]
    exact Grows.refl _ _ d
  | noJournal fresh failed =>
    obtain ⟨rfl, -, -, -⟩ := fresh
    exact (openJournal_failed failed).mono (fun _ => .inl) fun _ => False.elim
  | @noReport first second _ _ fresh opened failed =>
    obtain ⟨rfl, -, -, -⟩ := fresh
    have opening := openJournal_grows options first
    obtain ⟨wanted, later⟩ := openReport_failed failed
    rw [opened] at opening
    simp only [opening.aboveFile] at later
    exact (opening.mono (fun _ => .inl) fun q same => ⟨same, wanted⟩).trans
      (later.mono (fun _ => .inr) fun _ => False.elim)

theorem close_grows (run : Run) :
    Grows (fun _ => False) run.Reporting run.disk run.close.disk := by
  unfold close
  cases kept : run.report with
  | none => exact Grows.refl _ _ _
  | some report =>
    simp only [Report.close, Report.write]
    split_ifs
    · exact Grows.refl _ _ _
    · exact (OpenFile.modify_grows report.file _ run.disk).mono (fun _ => id)
        fun q here => ⟨report.file, by simp [reportFile, kept], here⟩

/-- Printing the summary changes nothing but the console. -/
theorem prints_summarize (options : Options) (run : Run) : Prints run (run.summarize options) := by
  have before := Console.before_handAll run.console ((summary options run.counters).map .line)
  have all := @Console.handAll_of_heard run.console ((summary options run.counters).map .line)
  unfold summarize
  generalize run.console.handAll ((summary options run.counters).map .line) = told at before all
  obtain ⟨console, refusal⟩ := told
  refine ⟨console, before, ?_⟩
  cases refusal with
  | none => exact .inl rfl
  | some reason =>
    refine .inr ⟨reason, rfl, fun heard => ?_⟩
    cases all heard

/-- A summary that is not refused is printed as a whole. -/
theorem printed_summarize {options : Options} {run run' : Run}
    (told : run.summarize options = ⟨run', .ok ()⟩) :
    run'.console.printed = run.console.printed ++ (summary options run.counters).map .line := by
  have all := @Console.printed_handAll run.console ((summary options run.counters).map .line)
  unfold summarize at told
  generalize run.console.handAll ((summary options run.counters).map .line) = outcome at told all
  obtain ⟨console, refusal⟩ := outcome
  cases refusal with
  | none =>
    obtain rfl := (Stepped.mk.inj told).1
    exact all rfl
  | some reason => cases (Stepped.mk.inj told).2

end Run

/-! ## Whole batches -/

section

variable (clock : Nat → String) (options : Options) (prober : Prober) (printer : Printer) (d : Disk)

/-- The turns of a batch, none if it does not begin. -/
def batchTurns : List Visit :=
  match beginBatch options printer d with
  | (run, .ok files) => run.turns clock options prober files.length 1 files
  | (_, .error _) => []

/-- The journal's entries for the operations that a batch carries out. -/
def batchLog : List (String × Operation) :=
  (batchTurns clock options prober printer d).filterMap (Run.logged? clock options prober)

/-- The operations that a batch carries out. -/
def batchOperations : List Operation :=
  (batchLog clock options prober printer d).map Prod.snd

/-- A batch that did not begin: it took no turn, and created at most the folders and the file of its
    journal and the folders of its report. -/
structure BatchStopped (error : OrganizeError) : Prop where
  grown : Grows (Run.ReservedFolders options d)
    (fun q => q = d.nominal options.journal ∧ options.report ≠ none) d
    (organize clock options prober printer d).disk
  result : (organize clock options prober printer d).result = .error error
  turns : batchTurns clock options prober printer d = []

/-- A batch that began with a run and its files. It returns if the printer refused nothing, and then
    it has handled all of them. -/
structure BatchFinished (run : Run) (files : List Path) : Prop where
  begun : Run.Begun options d run files
  disk : (organize clock options prober printer d).disk =
    (run.handleAll clock options prober files.length 1 files).run.close.disk
  before : (run.handleAll clock options prober files.length 1 files).run.console.Before
    (organize clock options prober printer d).console
  result : (organize clock options prober printer d).result =
      .ok (run.handleAll clock options prober files.length 1 files).run.counters ∧
        (run.handleAll clock options prober files.length 1 files).outcome = .ok () ∨
    (∃ reason, (organize clock options prober printer d).result =
      .error (.mishap (.unprinted reason))) ∧
        ¬(organize clock options prober printer d).console.Heard
  summary : (organize clock options prober printer d).console.Heard →
    (organize clock options prober printer d).console.printed =
      (run.handleAll clock options prober files.length 1 files).run.console.printed ++
        (Run.summary options
          (run.handleAll clock options prober files.length 1 files).run.counters).map .line
  turns : batchTurns clock options prober printer d =
    run.turns clock options prober files.length 1 files

variable {clock options prober printer d} in
theorem batchFinished_of_begun {run : Run} {files : List Path}
    (begun : beginBatch options printer d = (run, .ok files)) :
    BatchFinished clock options prober printer d run files := by
  have turns : batchTurns clock options prober printer d =
      run.turns clock options prober files.length 1 files := by simp [batchTurns, begun]
  have whole : organize clock options prober printer d =
      ⟨(finishBatch clock options prober run files).run.disk,
        (finishBatch clock options prober run files).run.console,
        (finishBatch clock options prober run files).outcome.mapError .mishap⟩ := by
    simp [organize, begun]
  unfold finishBatch at whole
  rcases Run.handleAll_outcome clock options prober files.length run 1 files with
    returned | ⟨⟨reason, ended⟩, refused⟩
  · obtain ⟨console, before, told | ⟨reason, told, refused⟩⟩ := Run.prints_summarize options
      (run.handleAll clock options prober files.length 1 files).run.close
    · have printed := Run.printed_summarize told
      simp only [returned, told, Stepped.next_ok] at whole
      exact ⟨Run.beginBatch_ok begun, by rw [whole]; rfl, by rw [whole]; exact before,
        .inl ⟨by rw [whole]; rfl, returned⟩, fun _ => by rw [whole]; exact printed, turns⟩
    · simp only [returned, told, Stepped.next_ok, Stepped.next_error] at whole
      refine ⟨Run.beginBatch_ok begun, by rw [whole], by rw [whole]; exact before,
        .inr ⟨⟨reason, by rw [whole]; rfl⟩, by rw [whole]; exact refused⟩, fun heard => ?_, turns⟩
      rw [whole] at heard
      exact absurd heard refused
  · simp only [ended, Stepped.next_error] at whole
    refine ⟨Run.beginBatch_ok begun, by rw [whole], by rw [whole]; exact .refl _,
      .inr ⟨⟨reason, by rw [whole]; rfl⟩, by rw [whole]; exact refused⟩, fun heard => ?_, turns⟩
    rw [whole] at heard
    exact absurd heard refused

theorem organize_cases :
    (∃ error, BatchStopped clock options prober printer d error) ∨
      ∃ run files, BatchFinished clock options prober printer d run files := by
  cases begun : beginBatch options printer d with
  | mk run outcome =>
    cases outcome with
    | error error =>
      left
      refine ⟨error, ?_, by simp [organize, begun], by simp [batchTurns, begun]⟩
      simpa [organize, begun] using Run.beginBatch_error begun
    | ok files => exact .inr ⟨run, files, batchFinished_of_begun begun⟩

end

theorem Run.Begun.ready {options : Options} {d : Disk} {run : Run} {files : List Path}
    (begun : Run.Begun options d run files) (tree : d.WellFormed) : run.Ready files := by
  obtain ⟨stand, distinct⟩ := tree.discover_spec begun.found
  have same : run.disk.nominal = d.nominal := funext begun.grown.nominal
  refine ⟨begun.grown.tree tree, ?_, same ▸ distinct⟩
  intro path member
  obtain ⟨⟨content, stands⟩, -⟩ := stand path member
  rw [same]
  exact begun.grown.file stands

/-- Once a batch has begun, no open file is written outside the reserved places. -/
theorem Run.Begun.unwritten {options : Options} {d : Disk} {run : Run} {files : List Path}
    (begun : Begun options d run files) {place : Place} (unreserved : ¬Reserved options d place) :
    ¬run.Writing place := by
  rintro (⟨file, kept, here⟩ | ⟨file, kept, here⟩)
  · rw [begun.journal] at kept
    split_ifs at kept
    obtain rfl := Option.some.inj kept
    exact unreserved (.inl (Option.some.inj here).symm)
  · rw [begun.reportFile] at kept
    obtain ⟨report, wanted, rfl⟩ := Option.map_eq_some_iff.mp kept
    exact unreserved (.inr ⟨report, wanted, (Option.some.inj here).symm⟩)

section

variable {clock : Nat → String} {options : Options} {prober : Prober} {printer : Printer} {d : Disk}

/-- A batch that returns counters has begun. -/
theorem exists_begun_of_returned {counters : Counters}
    (returned : (organize clock options prober printer d).result = .ok counters) :
    ∃ run files, beginBatch options printer d = (run, .ok files) := by
  cases begun : beginBatch options printer d with
  | mk run outcome =>
    cases outcome with
    | error error => simp [organize, begun] at returned
    | ok files => exact ⟨run, files, rfl⟩

namespace BatchFinished

variable {run : Run} {files : List Path}
  (finished : BatchFinished clock options prober printer d run files)
include finished

/-- A batch that returns has handled all its files. -/
theorem returned {counters : Counters}
    (returned : (organize clock options prober printer d).result = .ok counters) :
    (run.handleAll clock options prober files.length 1 files).outcome = .ok () ∧
      (run.handleAll clock options prober files.length 1 files).run.counters = counters := by
  rcases finished.result with ⟨result, ended⟩ | ⟨⟨reason, result⟩, -⟩
  · rw [result] at returned
    exact ⟨ended, Except.ok.inj returned⟩
  · rw [result] at returned
    cases returned

/-- A batch to which the printer refuses nothing returns. -/
theorem result_of_heard (heard : (organize clock options prober printer d).console.Heard) :
    (organize clock options prober printer d).result =
      .ok (run.handleAll clock options prober files.length 1 files).run.counters :=
  (finished.result.resolve_right fun stopped => stopped.2 heard).1

theorem heard (heard : (organize clock options prober printer d).console.Heard) :
    (run.handleAll clock options prober files.length 1 files).run.console.Heard :=
  finished.before.heard heard

theorem logged : batchLog clock options prober printer d =
    run.logged clock options prober files.length 1 files := by
  rw [batchLog, finished.turns, Run.logged]

/-- Once all files are handled, only the report is written. -/
theorem closed : Grows (fun _ => False)
    (run.handleAll clock options prober files.length 1 files).run.Reporting
    (run.handleAll clock options prober files.length 1 files).run.disk
    (organize clock options prober printer d).disk := by
  rw [finished.disk]
  exact Run.close_grows _

end BatchFinished

/-- A batch that returns counters has handled its files. -/
theorem exists_finished_of_returned {counters : Counters}
    (returned : (organize clock options prober printer d).result = .ok counters) :
    ∃ run files, BatchFinished clock options prober printer d run files ∧
      (run.handleAll clock options prober files.length 1 files).outcome = .ok () ∧
      (run.handleAll clock options prober files.length 1 files).run.counters = counters := by
  obtain ⟨run, files, begun⟩ := exists_begun_of_returned returned
  have finished : BatchFinished clock options prober printer d run files :=
    batchFinished_of_begun begun
  exact ⟨run, files, finished, finished.returned returned⟩

theorem BatchStopped.logged {error : OrganizeError}
    (stopped : BatchStopped clock options prober printer d error) :
    batchLog clock options prober printer d = [] := by
  rw [batchLog, stopped.turns, List.filterMap_nil]

/-- Where nothing is refused in the end, nothing was refused in any turn. -/
theorem heard_of_mem_batchTurns (heard : (organize clock options prober printer d).console.Heard)
    {visit : Visit} (member : visit ∈ batchTurns clock options prober printer d) :
    (visit.run.handle (clock visit.index) options prober visit.path).run.console.Heard := by
  rcases organize_cases clock options prober printer d with
    ⟨error, stopped⟩ | ⟨run, files, finished⟩
  · rw [stopped.turns] at member
    cases member
  · rw [finished.turns] at member
    exact Run.heard_of_mem_turns (finished.heard heard) member

variable (tree : d.WellFormed)
include tree

theorem exists_ready_of_mem_batchTurns {visit : Visit}
    (member : visit ∈ batchTurns clock options prober printer d) :
    ∃ rest, visit.run.Ready (visit.path :: rest) := by
  rcases organize_cases clock options prober printer d with
    ⟨error, stopped⟩ | ⟨run, files, finished⟩
  · rw [stopped.turns] at member
    cases member
  · rw [finished.turns] at member
    exact Run.ready_of_mem_turns (finished.begun.ready tree) member

theorem later_of_mem_batchTurns {visit : Visit}
    (member : visit ∈ batchTurns clock options prober printer d) : d.Later visit.run.disk := by
  rcases organize_cases clock options prober printer d with
    ⟨error, stopped⟩ | ⟨run, files, finished⟩
  · rw [stopped.turns] at member
    cases member
  · rw [finished.turns] at member
    exact (finished.begun.grown.later tree).trans
      (Run.later_of_mem_turns (finished.begun.ready tree) member)

end

/-- Organizing leaves a tree in which all folders still stand. -/
theorem organize_later (clock : Nat → String) (options : Options) (prober : Prober)
    (printer : Printer) {d : Disk} (tree : d.WellFormed) :
    d.Later (organize clock options prober printer d).disk := by
  rcases organize_cases clock options prober printer d with
    ⟨error, stopped⟩ | ⟨run, files, finished⟩
  · exact stopped.grown.later tree
  · have handled : run.disk.Later
        (run.handleAll clock options prober files.length 1 files).run.disk :=
      Run.handleAll_later (finished.begun.ready tree) 1
    exact ((finished.begun.grown.later tree).trans handled).trans
      (finished.closed.later handled.tree)

end MusicFiling
