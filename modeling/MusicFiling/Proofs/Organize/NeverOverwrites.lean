import MusicFiling.Proofs.Organize.Batch

/-!
# Whether organizing overwrites files

A destination is checked before the folders above it are created. Two dots behind a folder that is
only then created can lead to a file that the check did not see, and the transfer replaces it. This
is the only way in which organizing loses a file: as long as every operation arrives where nothing
stands, every file keeps its content, at its place or at the destination of its move.
-/

namespace MusicFiling

open Disk

namespace Run

/-- The operation of a turn, if there is one, arrives where nothing stands. -/
def Spares (options : Options) (prober : Prober) (run : Run) (path : Path) : Prop :=
  ∀ op, run.operation? options prober path = some op →
    run.disk.ArrivesFree op.action op.source op.destination

/-- The operation of a turn arrives at another file and puts the content of its own in that place,
    unless an open file is written there; or it is a move into a folder that stands at the recorded
    destination. -/
def Overwrites (time : String) (options : Options) (prober : Prober) (run : Run) (path : Path) :
    Prop :=
  let run' := (run.handle time options prober path).run
  ∃ op goal, run.operation? options prober path = some op ∧
    run.disk.ArrivesAt op.source op.destination goal ∧ goal ≠ run.disk.nominal path ∧
    ((∃ old content, run.disk.file? goal = some old ∧
        run.disk.file? (run.disk.nominal path) = some content ∧
        (¬run'.Writing goal → run'.disk.file? goal = some content)) ∨
      options.action = .move ∧ run'.disk.entry? (run.disk.nominal op.destination) = some .folder)

namespace Carried

variable {time : String} {options : Options} {prober : Prober} {run run' : Run}
  {path destination : Path} {origin goal : Place} {content : List UInt8} {delivered : Disk}
  (carried : Carried time options prober run path destination origin goal content delivered run')
include carried

/-- A file that an operation neither moves nor meets keeps its content, if no open file is
    written there. -/
theorem kept (tree : run.disk.WellFormed) {q : Place} {old : List UInt8}
    (stands : run.disk.file? q = some old) (unwritten : ¬run.Writing q) (notGoal : q ≠ goal)
    (unmoved : options.action = .move → q ≠ run.disk.nominal path) :
    run'.disk.file? q = some old ∧ ¬run'.Writing q := by
  have unwritten' : ¬run'.Writing q := by
    rw [carried.writing]
    intro writing
    rcases writing_arrive writing with ⟨before, -⟩ | ⟨atGoal, -⟩
    · exact unwritten before
    · exact notGoal atGoal
  refine ⟨?_, unwritten'⟩
  rw [carried.settled.file?_eq unwritten', carried.file_delivered tree, if_neg notGoal,
    carried.origin_eq, if_neg fun moved => unmoved moved.1 moved.2]
  exact stands

/-- An operation that arrives free puts its file where nothing stood, and a move puts it at the
    recorded destination. -/
theorem goal_free (free : run.disk.ArrivesFree options.action path destination) :
    run.disk.file? goal = none ∧
      (options.action = .move → goal = run.disk.nominal destination) := by
  have made := aboveFile_grows run.disk destination
  have vacant : entry? (run.disk.makeFolders destination.parent).disk goal = none ∧
      (options.action = .move → goal = run.disk.nominal destination) := by
    have delivery := carried.delivery
    unfold ArrivesFree at free
    cases action : options.action with
    | copy =>
      rw [action] at free delivery
      obtain ⟨p, landed, led⟩ := delivery.arrival
      have vacant := free p landed
      simp only [find?, led] at vacant
      refine ⟨vacant, ?_⟩
      intro moving
      cases moving
    | move =>
      rw [action] at free delivery
      obtain ⟨-, same, vacant⟩ := delivery.goal_eq free
      exact ⟨vacant, fun _ => same.trans (made.nominal destination)⟩
  refine ⟨?_, vacant.2⟩
  rw [← made.file?_eq id]
  exact file?_eq_none_of_vacant vacant.1

/-- After a move no open file is written at the goal. -/
theorem unwritten_goal (moving : options.action = .move)
    (unwritten : ¬run.Writing (run.disk.nominal path)) : ¬run'.Writing goal := by
  rw [carried.writing]
  intro writing
  rcases writing_arrive writing with ⟨-, apart⟩ | ⟨-, -, before⟩
  · exact (apart moving).2 rfl
  · rw [carried.origin_eq] at before
    exact unwritten before

end Carried

/-- A file keeps its content: it is still at its place, or where its move has put it. No open file
    is written there, and no file that is still to be handled stands there after a move. -/
inductive Keeps (options : Options) (d : Disk) (files : List Path) (run : Run) (rest : List Path)
    (done : List Operation) (place : Place) (content : List UInt8) : Prop where
  | unmoved (stands : run.disk.file? place = some content) (unwritten : ¬run.Writing place)
  | moved (moving : options.action = .move) (op : Operation) (carried : op ∈ done)
    (selected : op.source ∈ files) (source : d.nominal op.source = place)
    (stands : run.disk.file? (d.nominal op.destination) = some content)
    (unwritten : ¬run.Writing (d.nominal op.destination))
    (settled : ∀ path ∈ rest, d.nominal path ≠ d.nominal op.destination)

/-- A turn that arrives free keeps every file's content. -/
theorem Keeps.next {time : String} {options : Options} {prober : Prober} {d : Disk}
    {files : List Path} {run run' : Run} {path : Path} {rest : List Path}
    {done : List Operation} {place : Place} {content : List UInt8}
    (keeps : Keeps options d files run (path :: rest) done place content)
    (ready : run.Ready (path :: rest)) (spares : run.Spares options prober path)
    (working : run.disk.workingFolder = d.workingFolder) (selected : path ∈ files)
    (turn : Turn time options prober run path (run.operation? options prober path) run') :
    Keeps options d files run' rest
      (done ++ (run.operation? options prober path).toList) place content := by
  have nominal : ∀ p, run.disk.nominal p = d.nominal p := nominal_congr working
  unfold Spares at spares
  generalize run.operation? options prober path = op at turn spares
  cases turn with
  | still steady =>
    have still : ∀ q, ¬run.Writing q → run'.disk.file? q = run.disk.file? q :=
      fun q unwritten => steady.disk.file?_eq fun reporting => unwritten (.inr reporting)
    cases keeps with
    | unmoved stands unwritten =>
      exact .unmoved (still place unwritten ▸ stands) (steady.writing ▸ unwritten)
    | moved moving op carried selected source stands unwritten settled =>
      exact .moved moving op (List.mem_append_left _ carried) selected source
        (still _ unwritten ▸ stands) (steady.writing ▸ unwritten)
        fun other member => settled other (List.mem_cons_of_mem path member)
  | @carried destination origin goal moved delivered _ carried =>
    obtain ⟨vacant, arrived⟩ := carried.goal_free (spares _ rfl)
    have notGoal : ∀ q old, run.disk.file? q = some old → q ≠ goal := by
      rintro q old stands rfl
      simp [vacant] at stands
    cases keeps with
    | unmoved stands unwritten =>
      by_cases here : options.action = .move ∧ place = run.disk.nominal path
      · obtain ⟨moving, rfl⟩ := here
        obtain rfl := arrived moving
        obtain rfl : content = moved := by simpa [stands] using carried.stands
        have unwritten' := carried.unwritten_goal moving unwritten
        rw [nominal] at unwritten'
        refine .moved moving ⟨options.action, path, destination⟩ (by simp) selected
          (nominal path).symm ?_ unwritten' ?_
        · rw [carried.settled.file?_eq unwritten', carried.file_delivered ready.tree,
            if_pos (nominal destination).symm]
        · intro other member same
          obtain ⟨_, standing⟩ := ready.standing other (List.mem_cons_of_mem path member)
          rw [← nominal, ← nominal] at same
          exact notGoal _ _ standing same
      · have unmoved : options.action = .move → place ≠ run.disk.nominal path :=
          fun moving same => here ⟨moving, same⟩
        obtain ⟨stands', unwritten'⟩ := carried.kept ready.tree stands unwritten
          (notGoal place content stands) unmoved
        exact .unmoved stands' unwritten'
    | moved moving op before selected source stands unwritten settled =>
      have unmoved : options.action = .move → d.nominal op.destination ≠ run.disk.nominal path :=
        fun _ same => settled path List.mem_cons_self (nominal path ▸ same).symm
      obtain ⟨stands', unwritten'⟩ := carried.kept ready.tree stands unwritten
        (notGoal _ content stands) unmoved
      exact .moved moving op (List.mem_append_left _ before) selected source stands' unwritten'
        fun other member => settled other (List.mem_cons_of_mem path member)

/-- An operation that does not arrive free overwrites. -/
theorem Turn.overwrites {time : String} {options : Options} {prober : Prober} {run : Run}
    {path : Path} (tree : run.disk.WellFormed)
    (turn : Turn time options prober run path (run.operation? options prober path)
      (run.handle time options prober path).run)
    (careless : ¬run.Spares options prober path) :
    run.Overwrites time options prober path := by
  unfold Overwrites
  unfold Spares at careless
  generalize run.operation? options prober path = op at turn careless
  generalize (run.handle time options prober path).run = run' at turn
  cases turn with
  | still steady => simp at careless
  | @carried destination origin goal content delivered _ carried =>
    have made := aboveFile_grows run.disk destination
    have delivery := carried.delivery
    obtain ⟨p, landed, led⟩ := delivery.arrival
    refine ⟨_, goal, rfl, ⟨p, landed, led⟩, carried.origin_eq ▸ delivery.apart, ?_⟩
    have replaced : entry? (run.disk.makeFolders destination.parent).disk goal ≠ none →
        ∃ old content, run.disk.file? goal = some old ∧
          run.disk.file? (run.disk.nominal path) = some content ∧
          (¬run'.Writing goal → run'.disk.file? goal = some content) := by
      intro present
      rcases Disk.entry?_cases _ goal with vacant | folder | ⟨old, file⟩
      · exact absurd vacant present
      · exact absurd folder delivery.free
      · rw [← file?_eq_some_iff, made.file?_eq id] at file
        refine ⟨old, content, file, carried.stands, ?_⟩
        intro unwritten
        rw [carried.settled.file?_eq unwritten, carried.file_delivered tree, if_pos rfl]
    simp only [Option.some.injEq, forall_eq'] at careless
    unfold ArrivesFree at careless
    cases action : options.action with
    | copy =>
      left
      simp only [action, not_forall] at careless
      obtain ⟨p', landed', present⟩ := careless
      obtain rfl : p = p' := by simpa [landed] using landed'
      exact replaced (by simpa [find?, led] using present)
    | move =>
      simp only [action] at careless
      by_cases folder : (run.disk.makeFolders destination.parent).disk.isFolder destination = true
      · right
        obtain ⟨q, led', stands⟩ := isFolder_iff.mp folder
        obtain rfl := reach_eq_nominal led'
        rw [made.nominal] at stands
        exact ⟨rfl, carried.settled.folder (delivery.folder (made.tree tree) stands)⟩
      · left
        obtain rfl : p = destination := by simpa [landing, folder, eq_comm] using landed
        exact replaced (by simpa [find?, led] using careless)

/-- Below a grounded target every operation arrives free. -/
theorem Turn.spares_of_grounded {time : String} {options : Options} {prober : Prober}
    {run run' : Run} {path : Path} (tree : run.disk.WellFormed)
    (grounded : run.disk.Grounded options.target)
    (turn : Turn time options prober run path (run.operation? options prober path) run') :
    run.Spares options prober path := by
  unfold Spares
  generalize run.operation? options prober path = op at turn
  rintro op rfl
  cases turn with
  | carried carried => exact arrivesFree_of_vacant (carried.vacant_of_grounded tree grounded) _ _

end Run

section

variable (clock : Nat → String) (options : Options) (prober : Prober) (printer : Printer) (d : Disk)

/-- Every file but the journal and the report keeps its content: it is still at its place, or was
    selected and moved, and stands at the destination of its move. -/
def KeepsFiles : Prop :=
  let after := (organize clock options prober printer d).disk
  ∀ place content, d.file? place = some content → ¬Run.Reserved options d place →
    after.file? place = some content ∨
    options.action = .move ∧ ∃ op ∈ batchOperations clock options prober printer d,
      (∃ files, discover d options.selection options.source = .ok files ∧ op.source ∈ files) ∧
      d.nominal op.source = place ∧ after.file? (d.nominal op.destination) = some content

end

variable {clock : Nat → String} {options : Options} {prober : Prober} {printer : Printer} {d : Disk}

private theorem keepsFiles_of_spares (tree : d.WellFormed)
    (spares : ∀ visit ∈ batchTurns clock options prober printer d,
      visit.run.Spares options prober visit.path) : KeepsFiles clock options prober printer d := by
  intro place content stands unreserved
  rcases organize_cases clock options prober printer d with
    ⟨error, stopped⟩ | ⟨run, files, finished⟩
  · left
    rw [stopped.grown.file?_eq fun written => unreserved (.inl written.1)]
    exact stands
  · have begun := finished.begun
    have closed := finished.closed
    rw [finished.turns] at spares
    rw [batchOperations, finished.logged]
    have start : Run.Keeps options d files run files
        (([] : List (String × Operation)).map Prod.snd) place content := by
      refine .unmoved ?_ (begun.unwritten unreserved)
      rw [begun.grown.file?_eq unreserved]
      exact stands
    obtain ⟨rest, -, -, -, keeps⟩ := Run.handleAll_induction
      (motive := fun run rest done => run.disk.workingFolder = d.workingFolder ∧ rest ⊆ files ∧
        Run.Keeps options d files run rest (done.map Prod.snd) place content)
      (fun run index path rest done run' ready spared ⟨working, selected, keeps⟩ turn => by
        rw [List.map_append, Run.map_snd_logged?]
        exact ⟨turn.working.trans working, (List.cons_subset.mp selected).2,
          keeps.next ready spared working (List.cons_subset.mp selected).1 turn⟩)
      (begun.ready tree) spares
      ⟨begun.grown.working, List.Subset.refl files, start⟩
    cases keeps with
    | unmoved stands' unwritten =>
      left
      rw [closed.file?_eq fun reporting => unwritten (.inr reporting)]
      exact stands'
    | moved moving op carried selected source stands' unwritten settled =>
      right
      rw [List.nil_append] at carried
      refine ⟨moving, op, carried, ⟨files, begun.found, selected⟩, source, ?_⟩
      rw [closed.file?_eq fun reporting => unwritten (.inr reporting)]
      exact stands'

/-- Organizing keeps every file as long as all operations arrive free, which they do where every
    two dots of the target follow a folder; an operation that does not arrive free overwrites. -/
theorem organize_keepsFiles (clock : Nat → String) (options : Options) (prober : Prober)
    (printer : Printer) {d : Disk} (tree : d.WellFormed) :
    ((∀ visit ∈ batchTurns clock options prober printer d,
        visit.run.Spares options prober visit.path) →
      KeepsFiles clock options prober printer d) ∧
    (d.Grounded options.target →
      ∀ visit ∈ batchTurns clock options prober printer d,
        visit.run.Spares options prober visit.path) ∧
    ∀ visit ∈ batchTurns clock options prober printer d,
      ¬visit.run.Spares options prober visit.path →
      visit.run.Overwrites (clock visit.index) options prober visit.path := by
  have handled : ∀ visit ∈ batchTurns clock options prober printer d, visit.run.disk.WellFormed ∧
      Run.Turn (clock visit.index) options prober visit.run visit.path
        (visit.run.operation? options prober visit.path)
        (visit.run.handle (clock visit.index) options prober visit.path).run := by
    intro visit member
    obtain ⟨rest, ready⟩ := exists_ready_of_mem_batchTurns tree member
    obtain ⟨content, stands⟩ := ready.standing visit.path List.mem_cons_self
    exact ⟨ready.tree, Run.handle_turn _ options prober ready.tree stands⟩
  refine ⟨keepsFiles_of_spares tree, ?_, ?_⟩
  · intro grounded visit member
    obtain ⟨tree', outcome⟩ := handled visit member
    have later := later_of_mem_batchTurns tree member
    exact outcome.spares_of_grounded tree' (grounded.mono later.working later.folder)
  · intro visit member careless
    obtain ⟨tree', outcome⟩ := handled visit member
    exact outcome.overwrites tree' careless

namespace Detour

/-- The place of the song that stands in the library. -/
def inTheWay : Place :=
  (Path.ofString "lib/song.mp3").parts

/-- A collection with one song and a library with another of the same title. -/
def disk : Disk where
  entries :=
    [((Path.ofString "music").parts, .folder),
     ((Path.ofString "music/a.mp3").parts, .file (Text.Utf8.ofString "TAG:title=song\n")),
     ((Path.ofString "lib").parts, .folder),
     (inTheWay, .file (Text.Utf8.ofString "old"))]
  workingFolder := []

/-- Copies the song of the collection to a library. -/
def into (target : String) : Options where
  source := Path.ofString "music/a.mp3"
  target := Path.ofString target
  pattern := "\x7btitle\x7d.\x7bextension\x7d"
  placeholder := "_"
  action := .copy
  dryRun := false
  selection := ⟨["mp3"], [], []⟩
  journal := Path.ofString "log.csv"
  report := none
  verbosity := .normal

end Detour

/-- The library is named directly: the song in it is kept. -/
theorem keepsFiles_into_library :
    Detour.disk.WellFormed ∧
      KeepsFiles (fun _ => "") (Detour.into "lib") Prober.echo .patient Detour.disk := by
  have tree : Detour.disk.WellFormed := by decide +kernel
  have direct : (Detour.into "lib").target.Direct := by decide +kernel
  obtain ⟨kept, spared, -⟩ :=
    organize_keepsFiles (fun _ => "") (Detour.into "lib") Prober.echo .patient tree
  exact ⟨tree, kept (spared (grounded_of_direct _ direct))⟩

/-- The library is named through a folder that does not exist yet: the song in it is replaced. -/
theorem not_keepsFiles_through_new_folder :
    Detour.disk.WellFormed ∧
      ¬KeepsFiles (fun _ => "") (Detour.into "new/../lib") Prober.echo .patient Detour.disk := by
  refine ⟨by decide +kernel, ?_⟩
  intro keeps
  have stands : Detour.disk.file? Detour.inTheWay = some (Text.Utf8.ofString "old") := by
    decide +kernel
  have replaced : (organize (fun _ => "") (Detour.into "new/../lib") Prober.echo .patient
      Detour.disk).disk.file?
      Detour.inTheWay = some (Text.Utf8.ofString "TAG:title=song\n") := by
    decide +kernel
  have unreserved : ¬Run.Reserved (Detour.into "new/../lib") Detour.disk Detour.inTheWay := by
    rintro (same | ⟨_, wanted, -⟩)
    · exact absurd same (by decide +kernel)
    · cases wanted
  rcases keeps Detour.inTheWay _ stands unreserved with kept | ⟨moving, -⟩
  · rw [replaced] at kept
    exact absurd kept (by decide +kernel)
  · cases moving

end MusicFiling
