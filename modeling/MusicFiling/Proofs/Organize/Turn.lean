import MusicFiling.Proofs.Journal
import MusicFiling.Proofs.Organize.Steps

/-!
# One turn of a run

Handling one file does one of two things. Either it leaves every file but the report alone, and
adds folders at most; or it carries out an operation, which delivers the file. The operation is then
recorded in the journal, unless the printer refuses to tell of it or its row is no text.
`handle_turn` says so for every run.
-/

namespace MusicFiling

open Disk

/-- A prober that prints of a file what it contains. -/
def Prober.echo : Prober where
  installed := true
  run d path := .finished 0 ((d.file? (d.nominal path)).getD []) []

/-- Carries out an action on a file, for which folders are created. -/
def Disk.deliver (d : Disk) (action : Action) (path destination : Path) : Attempt :=
  (d.makeFolders destination.parent).next fun d =>
    match action with
    | .copy => d.copy path destination
    | .move => d.move path destination

/-- Whether something other than a folder stands where a file is to be put. -/
def Disk.blocks (d : Disk) (destination : Path) : Bool :=
  (d.find? destination.parent).any (!·.isFolder)

namespace Run

/-- The run once a file was delivered. -/
def arrive (action : Action) (run : Run) (origin goal : Place) (delivered : Disk) : Run :=
  match action with
  | .copy => { run with disk := delivered }
  | .move => { run with disk := delivered }.followMove origin goal

@[simp] theorem arrive_disk (action : Action) (run : Run) (origin goal : Place)
    (delivered : Disk) : (run.arrive action origin goal delivered).disk = delivered := by
  cases action <;> rfl

@[simp] theorem arrive_console (action : Action) (run : Run) (origin goal : Place)
    (delivered : Disk) : (run.arrive action origin goal delivered).console = run.console := by
  cases action <;> rfl

theorem arrive_journal_eq_none (action : Action) (run : Run) (origin goal : Place)
    (delivered : Disk) :
    (run.arrive action origin goal delivered).journal = none ↔ run.journal = none := by
  cases action <;> simp [arrive, followMove]

private theorem arrive_printed (action : Action) (run : Run) (console : Console)
    (origin goal : Place)
    (delivered : Disk) :
    (run.withConsole console).arrive action origin goal delivered =
      (run.arrive action origin goal delivered).withConsole console := by
  cases action <;> rfl

theorem recordOperation_printed (run : Run) (console : Console) (time : String) (op : Operation) :
    (run.withConsole console).recordOperation time op =
      ⟨(run.recordOperation time op).run.withConsole console,
        (run.recordOperation time op).outcome⟩ := by
  obtain ⟨disk, journal, report, before, counters⟩ := run
  cases journal with
  | none => rfl
  | some file =>
    simp only [recordOperation]
    cases Journal.record time op file disk <;> rfl

@[simp] theorem recordOperation_console (run : Run) (time : String) (op : Operation) :
    (run.recordOperation time op).run.console = run.console := by
  unfold recordOperation
  cases run.journal with
  | none => rfl
  | some file =>
    simp only
    cases Journal.record time op file run.disk <;> rfl

/-- Where a journal is open, an operation is recorded if and only if it is text; one that is not
    recorded changes nothing. -/
theorem recordOperation_cases (run : Run) (time : String) (op : Operation) :
    (run.recordOperation time op).outcome = .ok () ∧ (run.journal = none ∨ op.IsText) ∨
      (∃ mishap, run.recordOperation time op = run.stop mishap) ∧ ¬op.IsText := by
  unfold recordOperation
  cases run.journal with
  | none => exact .inl ⟨rfl, .inl rfl⟩
  | some file =>
    simp only
    cases recorded : Journal.record time op file run.disk with
    | ok disk => exact .inl ⟨rfl, .inr (Journal.isText_of_record recorded)⟩
    | error error =>
      refine .inr ⟨⟨_, rfl⟩, fun text => ?_⟩
      rw [Journal.record_of_isText time text] at recorded
      cases recorded

theorem isText_of_recordOperation {run : Run} {time : String} {op : Operation}
    (written : (run.recordOperation time op).outcome = .ok ()) :
    run.journal = none ∨ op.IsText := by
  rcases recordOperation_cases run time op with ⟨-, recorded⟩ | ⟨⟨mishap, stopped⟩, -⟩
  · exact recorded
  · rw [stopped] at written
    cases written

/-- The run once an operation was carried out: it was recorded in the journal, unless the printer
    refused to tell of it or its row is no text. -/
inductive Noted (time : String) (op : Operation) (run : Run) : Run → Prop where
  | recorded {run' : Run} (written : (run.recordOperation time op).outcome = .ok ())
    (after : Steady (fun _ => False) (run.recordOperation time op).run run') : Noted time op run run'
  | lost {run' : Run} (after : Steady (fun _ => False) run run')
    (cause : op.IsText → ¬run'.console.Heard) : Noted time op run run'

/-- A file was delivered to a destination at which nothing stood, once its folders were made. -/
structure Delivered (options : Options) (prober : Prober) (run : Run) (path destination : Path)
    (origin goal : Place) (content : List UInt8) (delivered : Disk) : Prop where
  real : options.dryRun = false
  planned : planDestination options prober run.disk path = .ok destination
  vacant : run.disk.at? destination = .ok none
  elsewhere : run.disk.nominal destination ≠ run.disk.nominal path
  made : (run.disk.makeFolders destination.parent).fault = none
  delivery : (run.disk.makeFolders destination.parent).disk.Delivery options.action path
    destination origin goal content delivered

/-- An operation was carried out: a file was delivered, and the journal and the report were
    written. -/
structure Carried (time : String) (options : Options) (prober : Prober) (run : Run)
    (path destination : Path) (origin goal : Place) (content : List UInt8) (delivered : Disk)
    (run' : Run) : Prop extends
    Delivered options prober run path destination origin goal content delivered where
  noted : Noted time ⟨options.action, path, destination⟩
    (run.arrive options.action origin goal delivered) run'

/-- The places where handling a file may create folders: above its destination. -/
def FolderPlaces (options : Options) (prober : Prober) (run : Run) (path : Path) (q : Place) :
    Prop :=
  ∃ destination, planDestination options prober run.disk path = .ok destination ∧
    run.disk.AboveFile destination q

/-- What handling a file can do to a run, with the operation it carries out. -/
inductive Turn (time : String) (options : Options) (prober : Prober) (run : Run) (path : Path) :
    Option Operation → Run → Prop where
  | still {run' : Run} (steady : Steady (run.FolderPlaces options prober path) run run') :
    Turn time options prober run path none run'
  | carried {destination : Path} {origin goal : Place} {content : List UInt8} {delivered : Disk}
    {run' : Run}
    (carried : Carried time options prober run path destination origin goal content delivered
      run') :
    Turn time options prober run path (some ⟨options.action, path, destination⟩) run'

private theorem exists_built_of_planned {options : Options} {prober : Prober} {d : Disk}
    {path destination : Path} (planned : planDestination options prober d path = .ok destination) :
    ∃ relative, buildDestination options.target relative = .ok destination := by
  unfold planDestination at planned
  split at planned
  · cases planned
  · split at planned
    · cases planned
    case h_2 relative rendered =>
      split at planned
      · cases planned
      case h_2 destination' built => exact ⟨relative, Except.ok.inj planned ▸ built⟩

/-- A destination descends from the target, by names only. -/
theorem planDestination_ok {options : Options} {prober : Prober} {d : Disk}
    {path destination : Path} (planned : planDestination options prober d path = .ok destination) :
    ∃ cs, destination = options.target.descend cs ∧ cs ≠ [] ∧ ∀ c ∈ cs, c.isParent = false := by
  obtain ⟨relative, built⟩ := exists_built_of_planned planned
  exact buildDestination_ok built

theorem direct_of_planDestination {options : Options} {prober : Prober} {d : Disk}
    {path destination : Path} (planned : planDestination options prober d path = .ok destination)
    (target : options.target.Direct) : destination.Direct := by
  obtain ⟨cs, rfl, -, proper⟩ := planDestination_ok planned
  exact target.descend proper

/-- Below a target that is text, every destination is. -/
theorem textual {options : Options} (prober : Prober) (d : Disk) {path : Path}
    (target : options.target.IsText) (text : path.IsText) : Textual options prober d path := by
  refine ⟨text, fun destination planned => ?_⟩
  obtain ⟨relative, built⟩ := exists_built_of_planned planned
  exact isText_of_buildDestination target built

/-- Creating the folders above a file keeps the open files. -/
theorem steady_makeFolders (run : Run) (destination : Path) :
    Steady (run.disk.AboveFile destination) run
      { run with disk := (run.disk.makeFolders destination.parent).disk } :=
  ⟨(makeFolders_grows run.disk destination.parent).mono (fun _ => id) fun _ => False.elim, rfl, rfl,
    .refl _⟩

section Transfer

variable {run : Run} (tree : run.disk.WellFormed) {path : Path} {content : List UInt8}
  (stands : run.disk.file? (run.disk.nominal path) = some content)
include tree stands

/-- A transfer that stops creates folders at most; one that does not delivers the file. -/
theorem transfer_cases (action : Action) {destination : Path}
    (elsewhere : run.disk.nominal destination ≠ run.disk.nominal path) :
    (∃ fault, (run.disk.deliver action path destination).fault = some fault ∧
      run.transfer action path destination =
        ({ run with disk := (run.disk.makeFolders destination.parent).disk }, some fault)) ∨
    (run.disk.deliver action path destination).fault = none ∧
    ∃ origin goal content' delivered, (run.disk.makeFolders destination.parent).fault = none ∧
      (run.disk.makeFolders destination.parent).disk.Delivery action path destination origin goal
        content' delivered ∧
      run.transfer action path destination = (run.arrive action origin goal delivered, none) := by
  have grown := makeFolders_grows run.disk destination.parent
  unfold transfer deliver Attempt.next
  cases stopped : (run.disk.makeFolders destination.parent).fault with
  | some fault =>
    left
    exact ⟨fault, by simp [stopped]⟩
  | none =>
    simp only [stopped]
    generalize (run.disk.makeFolders destination.parent).disk = d at grown ⊢
    have tree' := grown.tree tree
    have file : d.entry? (run.disk.nominal path) = some (.file content) := by
      rw [← file?_eq_some_iff, grown.file?_eq id]
      exact stands
    cases action with
    | copy =>
      rcases d.copy_cases path destination with ⟨fault, stop⟩ | ⟨origin, goal, content', delivered,
        done, delivery⟩
      · left
        exact ⟨fault, by simp [stop, Attempt.stopped]⟩
      · right
        exact ⟨by simp [done, Attempt.done], origin, goal, content', delivered, trivial, delivery,
          by simp [done, Attempt.done, arrive]⟩
    | move =>
      have noFolder : d.isFolder path = false := by
        rw [← Bool.not_eq_true, isFolder_iff]
        rintro ⟨q, led, folder⟩
        rw [reach_eq_nominal led, grown.nominal, file] at folder
        cases folder
      have apart : d.Apart path destination := by
        intro place _ led _ led'
        rw [← grown.nominal, ← grown.nominal path] at elsewhere
        exact elsewhere ((reach_eq_nominal led').symm.trans (reach_eq_nominal led))
      rcases tree'.move_cases noFolder apart with ⟨fault, stop⟩ | ⟨origin, goal, content',
        delivered, done, delivery⟩
      · left
        exact ⟨fault, by simp [stop, Attempt.stopped]⟩
      · right
        obtain ⟨p, landed, arrived⟩ := delivery.arrival
        exact ⟨by simp [done, Attempt.done], origin, goal, content', delivered, trivial, delivery,
          by simp [done, Attempt.done, delivery.led, landed, arrived, arrive]⟩

end Transfer

/-- Why a file fails is printed, and a row added to the report. -/
theorem fail_goes {made : Place → Prop} {legible : Prop} (run : Run) (path destination : Path)
    (action : Action) (reason : List Letter)
    (clear : legible → run.reportFile = none ∨ path.IsText ∧ destination.IsText) :
    Goes made legible run
      ((run.complain path reason).next fun run _ =>
        (run.reportRow path (some destination) action Status.failed.text).next fun run _ =>
          run.yield Status.failed) .failed := by
  refine ((prints_complain run path reason).goes _ _).next fun run' steady => ?_
  refine (reportRow_goes run' path _ action _ fun legible => ?_).next fun _ _ => goes_yield _
  rw [steady.reportFile]
  refine (clear legible).imp_right fun text => ⟨text.1, fun p same => ?_⟩
  rw [← Option.some.inj same]
  exact text.2

/-- Once a file was delivered, it is told of, recorded and reported, unless this is hindered. -/
theorem note_noted (time : String) (options : Options) (run : Run) (path destination : Path)
    (news : List Letter) (status : Status) :
    let op : Operation := ⟨options.action, path, destination⟩
    let s := (run.log options news).next fun run _ =>
      (run.recordOperation time op).next fun run _ =>
        (run.reportRow path (some destination) options.action status.text).next fun run _ =>
          run.yield status
    Noted time op run s.run ∧ (s.outcome = .ok status ∧ (run.journal = none ∨ op.IsText) ∨
      (∃ mishap, s.outcome = .error mishap) ∧ (op.IsText → ¬s.run.console.Heard)) := by
  intro op s
  obtain ⟨console, before, told | ⟨reason, told, refused⟩⟩ := prints_log options run news
  · rcases recordOperation_cases run time op with
      ⟨written, recorded⟩ | ⟨⟨mishap, stopped⟩, stray⟩
    · have goes : Goes (fun _ => False) op.IsText
          ((run.recordOperation time op).run.withConsole console) s status := by
        simp only [s, told, Stepped.next_ok, recordOperation_printed, written]
        refine (reportRow_goes _ path _ options.action _ fun text => ?_).next fun _ _ => goes_yield _
        refine .inr ⟨text.1, fun p same => ?_⟩
        rw [← Option.some.inj same]
        exact text.2
      have start : Steady (fun _ => False) (run.recordOperation time op).run
          ((run.recordOperation time op).run.withConsole console) :=
        .of_console _ (by simpa using before)
      exact ⟨.recorded written (start.trans goes.steady),
        goes.yields.imp_left fun yielded => ⟨yielded, recorded⟩⟩
    · have ended : s = ⟨run.withConsole console, .error mishap⟩ := by
        simp only [s, told, Stepped.next_ok, recordOperation_printed, stopped, stop,
          Stepped.next_error]
      rw [ended]
      exact ⟨.lost (.of_console _ before) fun text => absurd text stray,
        .inr ⟨⟨mishap, rfl⟩, fun text => absurd text stray⟩⟩
  · have ended : s = ⟨run.withConsole console, .error (.unprinted reason)⟩ := by
      simp only [s, told, Stepped.next_error]
    rw [ended]
    exact ⟨.lost (.of_console _ before) fun _ => refused, .inr ⟨⟨_, rfl⟩, fun _ => refused⟩⟩

/-! ## Turns -/

/-- The operation that handling a file carries out, if it carries one out. -/
def operation? (options : Options) (prober : Prober) (run : Run) (path : Path) :
    Option Operation :=
  match (run.inspect options prober path).outcome with
  | .ok (.vacant destination) =>
    if options.dryRun ∨ run.disk.blocks destination ∨
        (run.disk.deliver options.action path destination).fault.isSome then none
    else some ⟨options.action, path, destination⟩
  | _ => none

/-- All that handling a file can do, with the operation it carries out and what it yields. -/
inductive Handled (time : String) (options : Options) (prober : Prober) (run : Run) (path : Path) :
    Option Operation → Stepped Status → Prop where
  | settled {run' : Run} {status : Status} (steady : Steady (fun _ => False) run run')
    (told : run.disk.prospect options prober path = .ok (.settled status)) :
    Handled time options prober run path none ⟨run', .ok status⟩
  | broken {run' : Run} {fault : Fault} (steady : Steady (fun _ => False) run run')
    (told : run.disk.prospect options prober path = .error fault) :
    Handled time options prober run path none ⟨run', .error (.disk fault)⟩
  | previewed {run' : Run} {destination : Path} (dry : options.dryRun = true)
    (steady : Steady (fun _ => False) run run')
    (told : run.disk.prospect options prober path = .ok (.vacant destination)) :
    Handled time options prober run path none ⟨run', .ok options.action.done⟩
  | prevented {run' : Run} {destination : Path} (real : options.dryRun = false)
    (steady : Steady (run.disk.AboveFile destination) run run')
    (told : run.disk.prospect options prober path = .ok (.vacant destination))
    (cause : run.disk.blocks destination = true ∨
      (run.disk.deliver options.action path destination).fault ≠ none) :
    Handled time options prober run path none ⟨run', .ok .failed⟩
  | carried {run' : Run} {destination : Path} {origin goal : Place} {content : List UInt8}
    {delivered : Disk} {outcome : Except Mishap Status}
    (told : run.disk.prospect options prober path = .ok (.vacant destination))
    (free : run.disk.blocks destination = false)
    (delivers : (run.disk.deliver options.action path destination).fault = none)
    (carried : Carried time options prober run path destination origin goal content delivered run')
    (yields : outcome = .ok options.action.done ∧
        (run.journal = none ∨ path.IsText ∧ destination.IsText) ∨
      (∃ mishap, outcome = .error mishap) ∧
        (path.IsText ∧ destination.IsText → ¬run'.console.Heard)) :
    Handled time options prober run path (some ⟨options.action, path, destination⟩) ⟨run', outcome⟩
  | hindered {run' : Run} {mishap : Mishap}
    (steady : Steady (run.FolderPlaces options prober path) run run')
    (refused : run.Legible options prober path → ¬run'.console.Heard) :
    Handled time options prober run path none ⟨run', .error mishap⟩

section Handle

variable {options : Options} {prober : Prober} {run : Run} {path : Path}

private theorem Carried.of_print {time : String} {console : Console} {run' : Run}
    {destination : Path}
    {origin goal : Place} {content : List UInt8} {delivered : Disk}
    (before : run.console.Before console)
    (carried : Carried time options prober (run.withConsole console) path destination origin
      goal content delivered run') :
    Carried time options prober run path destination origin goal content delivered run' := by
  obtain ⟨⟨real, planned, vacant, elsewhere, made, delivery⟩, noted⟩ := carried
  refine ⟨⟨real, planned, vacant, elsewhere, made, delivery⟩, ?_⟩
  rw [arrive_printed] at noted
  cases noted with
  | recorded written after =>
    rw [recordOperation_printed] at written after
    exact .recorded written ((Steady.of_console _ (by simpa using before)).trans after)
  | lost after cause => exact .lost ((Steady.of_console _ (by simpa using before)).trans after) cause

/-- A file whose destination is vacant is delivered, unless the disk prevents it. -/
theorem place_cases (time : String) (tree : run.disk.WellFormed) {content : List UInt8}
    (stands : run.disk.file? (run.disk.nominal path) = some content) {destination : Path}
    (real : options.dryRun = false)
    (told : run.disk.prospect options prober path = .ok (.vacant destination)) :
    (run.disk.blocks destination = true ∨
        (run.disk.deliver options.action path destination).fault ≠ none) ∧
      Goes (run.disk.AboveFile destination)
        (run.reportFile = none ∨ path.IsText ∧ destination.IsText) run
        (run.place time options path destination) .failed ∨
    (run.disk.blocks destination = false ∧
        (run.disk.deliver options.action path destination).fault = none) ∧
      (∃ origin goal content delivered, Carried time options prober run path destination origin
        goal content delivered (run.place time options path destination).run) ∧
      ((run.place time options path destination).outcome = .ok options.action.done ∧
          (run.journal = none ∨ path.IsText ∧ destination.IsText) ∨
        (∃ mishap, (run.place time options path destination).outcome = .error mishap) ∧
          (path.IsText ∧ destination.IsText →
            ¬(run.place time options path destination).run.console.Heard)) := by
  obtain ⟨planned, vacant, elsewhere⟩ := prospect_eq_vacant told
  unfold place
  cases blocked : run.disk.blocks destination with
  | true =>
    have stop : (run.disk.find? destination.parent).any (!·.isFolder) = true := blocked
    simp only [stop, if_true]
    exact .inl ⟨.inl trivial, fail_goes run path destination options.action _ id⟩
  | false =>
    have free : (run.disk.find? destination.parent).any (!·.isFolder) = false := blocked
    simp only [free, Bool.false_eq_true, if_false]
    rcases transfer_cases tree stands options.action elsewhere with
      ⟨fault, stops, stopped⟩ | ⟨delivers, origin, goal, content', delivered, made, delivery, done⟩
    · have made := steady_makeFolders run destination
      obtain ⟨steady, yields⟩ := fail_goes
        { run with disk := (run.disk.makeFolders destination.parent).disk } path destination
        options.action fault.message (id : run.reportFile = none ∨ _ → _)
      simp only [stopped]
      exact .inl ⟨.inr (by simp [stops]), made.trans steady, yields⟩
    · obtain ⟨noted, yields⟩ := note_noted time options
        (run.arrive options.action origin goal delivered) path destination
        (Text.letters s!"{options.action.done.text.capitalize}: " ++ path.text ++
          Text.letters " -> " ++ destination.text) options.action.done
      simp only [done]
      rw [arrive_journal_eq_none] at yields
      exact .inr ⟨⟨trivial, delivers⟩, ⟨origin, goal, content', delivered, ⟨real, planned,
        vacant, elsewhere, made, delivery⟩, noted⟩, yields⟩

theorem handle_handled (time : String) (options : Options) (prober : Prober)
    (tree : run.disk.WellFormed) {content : List UInt8}
    (stands : run.disk.file? (run.disk.nominal path) = some content) :
    Handled time options prober run path (run.operation? options prober path)
      (run.handle time options prober path) := by
  have inspected := inspect_inspected options prober run path
  unfold operation? handle
  generalize run.inspect options prober path = s at inspected ⊢
  cases inspected with
  | settled steady told => exact .settled steady told
  | broken steady told => exact .broken steady told
  | hindered steady refused => exact .hindered (steady.mono fun _ => False.elim) refused
  | @vacant console destination before told =>
    have planned := (prospect_eq_vacant told).1
    have spoken := Steady.of_console (fun _ => False) before
    have spoken' := Steady.of_console (run.disk.AboveFile destination) before
    have clear : run.Legible options prober path →
        run.reportFile = none ∨ path.IsText ∧ destination.IsText :=
      fun legible => legible.imp_right fun text => ⟨text.1, text.2 destination planned⟩
    simp only [Stepped.next]
    cases dry : options.dryRun with
    | true =>
      simp only [if_true, true_or]
      have goes := preview_goes options (run.withConsole console) path destination clear
      generalize (run.withConsole console).preview options path destination = s
        at goes ⊢
      obtain ⟨run', outcome⟩ := s
      obtain ⟨steady, rfl | ⟨⟨mishap, rfl⟩, refused⟩⟩ := goes
      · exact .previewed dry (spoken.trans steady) told
      · exact .hindered ((spoken.trans steady).mono fun _ => False.elim) refused
    | false =>
      have placed := @place_cases options prober (run.withConsole console) path time tree
        content stands destination dry told
      simp only [Bool.false_eq_true, if_false, false_or]
      generalize (run.withConsole console).place time options path destination = s
        at placed ⊢
      obtain ⟨run', outcome⟩ := s
      rcases placed with ⟨cause, steady, yields⟩ | ⟨⟨free, delivers⟩, ⟨origin, goal, content,
        delivered, carried⟩, yields⟩
      · rw [if_pos (cause.imp_right Option.isSome_iff_ne_none.mpr)]
        rcases yields with rfl | ⟨⟨mishap, rfl⟩, refused⟩
        · exact .prevented dry (spoken'.trans steady) told cause
        · exact .hindered ((spoken'.trans steady).mono fun q above => ⟨destination, planned, above⟩)
            fun legible => refused (clear legible)
      · rw [if_neg (by simp [free, delivers])]
        exact .carried told free delivers (carried.of_print before) yields

private theorem Handled.turn {time : String} {op : Option Operation} {s : Stepped Status}
    (handled : Handled time options prober run path op s) :
    Turn time options prober run path op s.run := by
  cases handled with
  | settled steady told => exact .still (steady.mono fun _ => False.elim)
  | broken steady told => exact .still (steady.mono fun _ => False.elim)
  | previewed dry steady told => exact .still (steady.mono fun _ => False.elim)
  | prevented real steady told cause =>
    exact .still (steady.mono fun q above => ⟨_, (prospect_eq_vacant told).1, above⟩)
  | carried told free delivers carried yields => exact .carried carried
  | hindered steady refused => exact .still steady

/-- Handling a file that stands is a turn. -/
theorem handle_turn (time : String) (options : Options) (prober : Prober)
    (tree : run.disk.WellFormed) {content : List UInt8}
    (stands : run.disk.file? (run.disk.nominal path) = some content) :
    Turn time options prober run path (run.operation? options prober path)
      (run.handle time options prober path).run :=
  (handle_handled time options prober tree stands).turn

end Handle

/-! ## What a turn leaves -/

theorem recordOperation_grows (run : Run) (time : String) (op : Operation) :
    Grows (fun _ => False) run.Journaling run.disk (run.recordOperation time op).run.disk := by
  unfold recordOperation
  cases kept : run.journal with
  | none => exact Grows.refl _ _ _
  | some file =>
    simp only [Journal.record]
    cases Text.Utf8.encodeText (Journal.row time op) with
    | error error => exact Grows.refl _ _ _
    | ok bytes =>
      exact (OpenFile.modify_grows file _ run.disk).mono (fun _ => id)
        fun q here => ⟨file, kept, here⟩

@[simp] theorem recordOperation_journal (run : Run) (time : String) (op : Operation) :
    (run.recordOperation time op).run.journal = run.journal := by
  unfold recordOperation
  split
  · rfl
  · split <;> rfl

@[simp] theorem recordOperation_reportFile (run : Run) (time : String) (op : Operation) :
    (run.recordOperation time op).run.reportFile = run.reportFile := by
  unfold recordOperation
  split
  · rfl
  · split <;> rfl

namespace Noted

variable {time : String} {op : Operation} {run run' run'' : Run} (noted : Noted time op run run')
include noted

private theorem before : run.console.Before run'.console := by
  cases noted with
  | recorded written after => simpa using after.console
  | lost after cause => exact after.console

theorem trans (steady : Steady (fun _ => False) run' run'') : Noted time op run run'' := by
  cases noted with
  | recorded written after => exact .recorded written (after.trans steady)
  | lost after cause =>
    exact .lost (after.trans steady) fun text heard => cause text (steady.console.heard heard)

theorem reportFile : run'.reportFile = run.reportFile := by
  cases noted with
  | recorded written after => simpa using after.reportFile
  | lost after cause => exact after.reportFile

private theorem writing : run'.Writing = run.Writing := by
  cases noted with
  | recorded written after =>
    rw [after.writing]
    funext q
    simp [Writing, Journaling, Reporting]
  | lost after cause => exact after.writing

/-- Noting an operation only writes the open files. -/
theorem grows : Grows (fun _ => False) run'.Writing run.disk run'.disk := by
  have same := noted.writing
  cases noted with
  | recorded written after =>
    have recorded := recordOperation_grows run time op
    have reported := after.disk
    rw [← after.reporting] at reported
    refine (recorded.mono (fun _ => id) fun q here => ?_).trans (reported.mono (fun _ => id) ?_)
    · rw [same]
      exact .inl here
    · exact fun q here => .inr here
  | lost after cause =>
    refine after.disk.mono (fun _ => id) fun q here => ?_
    rw [same]
    exact .inr here

end Noted

/-- An open file is followed to the goal; one that stood at the goal is lost. -/
theorem follow_place {file : OpenFile} {origin goal q : Place}
    (kept : (file.follow origin goal).place = some q) :
    q = goal ∧ file.place = some origin ∨
      file.place = some q ∧ q ≠ origin ∧ q ≠ goal := by
  unfold OpenFile.follow at kept
  split_ifs at kept with atOrigin atGoal
  · exact .inl ⟨(Option.some.inj kept).symm, atOrigin⟩
  · refine .inr ⟨kept, ?_, ?_⟩
    · rintro rfl
      exact atOrigin kept
    · rintro rfl
      exact atGoal kept

theorem writing_arrive {action : Action} {run : Run} {origin goal q : Place} {delivered : Disk}
    (writing : (run.arrive action origin goal delivered).Writing q) :
    run.Writing q ∧ (action = .move → q ≠ origin ∧ q ≠ goal) ∨
      q = goal ∧ action = .move ∧ run.Writing origin := by
  cases action with
  | copy => exact .inl ⟨writing, by simp⟩
  | move =>
    rcases writing with ⟨file, kept, here⟩ | ⟨file, kept, here⟩
    · obtain ⟨before, open', rfl⟩ := Option.map_eq_some_iff.mp kept
      rcases follow_place here with ⟨rfl, there⟩ | ⟨there, apart⟩
      · exact .inr ⟨rfl, rfl, .inl ⟨before, open', there⟩⟩
      · exact .inl ⟨.inl ⟨before, open', there⟩, fun _ => apart⟩
    · simp only [reportFile, arrive, followMove, Option.map_map, Option.map_eq_some_iff] at kept
      obtain ⟨report, open', rfl⟩ := kept
      have before : run.reportFile = some report.file := by simp [reportFile, open']
      rcases follow_place here with ⟨rfl, there⟩ | ⟨there, apart⟩
      · exact .inr ⟨rfl, rfl, .inr ⟨report.file, before, there⟩⟩
      · exact .inl ⟨.inr ⟨report.file, before, there⟩, fun _ => apart⟩

namespace Delivered

variable {options : Options} {prober : Prober} {run : Run} {path destination : Path}
  {origin goal : Place} {content : List UInt8} {delivered : Disk}
  (arrived : Delivered options prober run path destination origin goal content delivered)
include arrived

theorem origin_eq : origin = run.disk.nominal path :=
  arrived.delivery.origin_eq.trans ((aboveFile_grows run.disk destination).nominal path)

/-- The file that is delivered is the one that is handled. -/
theorem stands : run.disk.file? (run.disk.nominal path) = some content := by
  have present := file?_eq_some_iff.mpr arrived.delivery.present
  rwa [(aboveFile_grows run.disk destination).file?_eq id, arrived.origin_eq] at present

variable (tree : run.disk.WellFormed)
include tree

theorem file_delivered (q : Place) :
    delivered.file? q =
      if q = goal then some content
      else if options.action = .move ∧ q = origin then none
      else run.disk.file? q := by
  have made := aboveFile_grows run.disk destination
  rw [arrived.delivery.file? (made.tree tree), made.file?_eq id]

/-- Below a grounded target, a destination stays vacant when its folders are made. -/
theorem vacant_of_grounded (grounded : run.disk.Grounded options.target) :
    (run.disk.makeFolders destination.parent).disk.find? destination = none := by
  obtain ⟨cs, rfl, nonempty, proper⟩ := planDestination_ok arrived.planned
  exact grounded.find?_makeFolders tree proper nonempty arrived.vacant

/-- Below a grounded target, a file is delivered to the place that its destination names, at which
    nothing stood. -/
theorem goal_of_grounded (grounded : run.disk.Grounded options.target) :
    goal = run.disk.nominal destination ∧ run.disk.file? goal = none ∧ destination.Usable := by
  have made := aboveFile_grows run.disk destination
  have vacant := arrived.vacant_of_grounded tree grounded
  obtain ⟨led, same, free⟩ := arrived.delivery.goal_eq vacant
  refine ⟨same.trans (made.nominal destination), ?_, usable_of_reach led⟩
  rw [← made.file?_eq id]
  exact file?_eq_none_of_vacant free

end Delivered

namespace Carried

variable {time : String} {options : Options} {prober : Prober} {run run' : Run}
  {path destination : Path} {origin goal : Place} {content : List UInt8} {delivered : Disk}
  (carried : Carried time options prober run path destination origin goal content delivered run')
include carried

private theorem before : run.console.Before run'.console := by
  simpa using carried.noted.before

theorem writing : run'.Writing = (run.arrive options.action origin goal delivered).Writing :=
  carried.noted.writing

/-- Once the file is delivered, only the open files are written. -/
theorem settled : Grows (fun _ => False) run'.Writing delivered run'.disk := by
  simpa using carried.noted.grows

theorem working : run'.disk.workingFolder = run.disk.workingFolder :=
  (carried.settled.working.trans carried.delivery.workingFolder).trans
    (aboveFile_grows run.disk destination).working

variable (tree : run.disk.WellFormed)
include tree

private theorem wellFormed : run'.disk.WellFormed := by
  have made := (aboveFile_grows run.disk destination).tree tree
  exact carried.settled.tree (carried.delivery.wellFormed made)

theorem folder {q : Place} (folder : run.disk.entry? q = some .folder) :
    run'.disk.entry? q = some .folder := by
  have made := aboveFile_grows run.disk destination
  exact carried.settled.folder (carried.delivery.folder (made.tree tree) (made.folder folder))

/-- Where a file stands that is not moved, a file still stands. -/
theorem file {q : Place} {old : List UInt8} (file : run.disk.file? q = some old)
    (other : q ≠ run.disk.nominal path) : ∃ content', run'.disk.file? q = some content' := by
  have kept : ∃ content', delivered.file? q = some content' := by
    rw [carried.file_delivered tree, carried.origin_eq]
    split_ifs with _ moved
    · exact ⟨content, rfl⟩
    · exact absurd moved.2 other
    · exact ⟨old, file⟩
  obtain ⟨content', kept⟩ := kept
  exact carried.settled.file kept

end Carried

namespace Turn

variable {time : String} {options : Options} {prober : Prober} {run run' : Run} {path : Path}
  {op : Option Operation} (turn : Turn time options prober run path op run')
include turn

theorem before : run.console.Before run'.console := by
  cases turn with
  | still steady => exact steady.console
  | carried carried => exact carried.before

theorem working : run'.disk.workingFolder = run.disk.workingFolder := by
  cases turn with
  | still steady => exact steady.disk.working
  | carried carried => exact carried.working

/-- What is printed or counted after a turn belongs to it. -/
theorem trans {run'' : Run} (steady : Steady (fun _ => False) run' run'') :
    Turn time options prober run path op run'' := by
  cases turn with
  | still before => exact .still (before.trans (steady.mono fun _ => False.elim))
  | carried carried =>
    exact .carried ⟨carried.toDelivered, carried.noted.trans steady⟩

variable (tree : run.disk.WellFormed)
include tree

theorem wellFormed : run'.disk.WellFormed := by
  cases turn with
  | still steady => exact steady.disk.tree tree
  | carried carried => exact carried.wellFormed tree

/-- No folder is ever removed. -/
theorem folder {q : Place} (folder : run.disk.entry? q = some .folder) :
    run'.disk.entry? q = some .folder := by
  cases turn with
  | still steady => exact steady.disk.folder folder
  | carried carried => exact carried.folder tree folder

theorem later : run.disk.Later run'.disk :=
  ⟨turn.wellFormed tree, turn.working, fun _ => turn.folder tree⟩

theorem file {q : Place} {old : List UInt8} (file : run.disk.file? q = some old)
    (other : q ≠ run.disk.nominal path) : ∃ content, run'.disk.file? q = some content := by
  cases turn with
  | still steady => exact steady.disk.file file
  | carried carried => exact carried.file tree file other

end Turn

end Run

end MusicFiling
