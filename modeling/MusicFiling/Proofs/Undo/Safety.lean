import MusicFiling.Proofs.Disk.Arrival
import MusicFiling.Proofs.Disk.Moving
import MusicFiling.Proofs.Undo.Steps

/-!
# Undoing is safe

A journal may name any paths, and undoing it may stop halfway. Whatever the journal says, an
operation that is not undone leaves the disk alone, a move takes files along to where there were
none, and a copy is removed only while its source exists. So the contents of all files stay but for
those of the copies that were removed. The one exception is a move whose source is found vacant
because two dots follow a folder that does not exist: once that folder is created the source may
lead to a file, and this file is replaced.
-/

namespace MusicFiling

open Disk

namespace Undo

/-- A move back arrives at another file once the folders above its source exist. -/
def Overwrites (d : Disk) (op : Operation) : Prop :=
  op.action = .move ∧ (d.makeFolders op.source.parent).fault = none ∧
    (d.makeFolders op.source.parent).disk.Replaces op.destination op.source

/-- Where two dots follow folders that exist, what was found vacant stays so. -/
theorem not_overwrites_of_grounded {d : Disk} (tree : d.WellFormed) {op : Operation}
    (clear : obstacle d op = .ok none) (grounded : d.Grounded op.source) : ¬Overwrites d op := by
  rintro ⟨moved, -, -, b, -, lost, -, -, arrived, file, -⟩
  have asked := (obstacle_eq_none clear).2
  simp only [moved] at asked
  have vacant := grounded.find?_of_vacant tree asked
  simp [find?, arrived, file] at vacant

/-- What reverting an operation does to the files. -/
inductive Reverted (d : Disk) (op : Operation) (attempt : Attempt) : Prop where
  | stood (files : attempt.disk.file? = d.file?)
    (stopped : op.action = .copy → attempt.fault ≠ none)
  | moved {a b : Place} (action : op.action = .move) (led : d.reach op.destination = .ok a)
    (shifted : Shifted a b d attempt.disk)
  | removed {a : Place} {content : List UInt8} (action : op.action = .copy)
    (led : d.reach op.destination = .ok a) (file : d.file? a = some content)
    (files : ∀ q, attempt.disk.file? q = if q = a then none else d.file? q)
    (done : attempt.fault = none)
  | replaced (overwrites : Overwrites d op) {lost : List UInt8}
    (contents : d.contents.Perm (lost :: attempt.disk.contents))

/-- Every file still has a place of its own, and unless an operation stopped the disk is a tree. -/
structure Intact (attempt : Attempt) : Prop where
  keyed : attempt.disk.Keyed
  tree : attempt.fault = none → attempt.disk.WellFormed

private theorem intact_of_tree {attempt : Attempt} (tree : attempt.disk.WellFormed) :
    Intact attempt :=
  ⟨tree.keyed, fun _ => tree⟩

section

variable {d : Disk} (tree : d.WellFormed) {op : Operation}
include tree

private theorem reverted_copy (action : op.action = .copy) :
    Reverted d op (d.unlink op.destination) ∧ Intact (d.unlink op.destination) := by
  unfold unlink
  cases opened : d.openForReading op.destination with
  | error fault => exact ⟨.stood rfl (by simp [Attempt.stopped]), intact_of_tree tree⟩
  | ok found =>
    obtain ⟨a, content⟩ := found
    obtain ⟨led, stands⟩ := openForReading_ok.mp opened
    exact ⟨.removed action led (file?_eq_some_iff.mpr stands) (tree.file?_clear_file stands) rfl,
      intact_of_tree (tree.clear_file stands)⟩

/-- Overwriting loses a content. -/
theorem Overwrites.revert (overwrites : Overwrites d op) :
    ∃ lost d', revert d op = .done d' ∧ d'.WellFormed ∧ d.contents.Perm (lost :: d'.contents) := by
  obtain ⟨action, made, replaces⟩ := overwrites
  have grown := makeFolders_grows d op.source.parent
  have later := grown.tree tree
  obtain ⟨_, _, _, lost, d', moved, delivery, file⟩ := replaces.delivery later
  have before := contents_perm_of_file?_eq tree.keyed later.keyed
    (funext fun q => grown.file?_eq id)
  refine ⟨lost, d', ?_, delivery.wellFormed later,
    before.trans (delivery.contents_perm later file)⟩
  simp [Undo.revert, action, Attempt.next, made, moved]

private theorem reverted_move (action : op.action = .move) {a : Place}
    (led : d.reach op.destination = .ok a) (safe : ¬Overwrites d op) :
    Reverted d op (revert d op) ∧ Intact (revert d op) := by
  have grown := makeFolders_grows d op.source.parent
  have same : (d.makeFolders op.source.parent).disk.file? = d.file? :=
    funext fun q => grown.file?_eq id
  have later := grown.tree tree
  have still := grown.reach led
  have notCopy : op.action ≠ .copy := by simp [action]
  unfold revert
  cases made : (d.makeFolders op.source.parent).fault with
  | some fault =>
    simp only [action, Attempt.next, made]
    exact ⟨.stood same fun copied => absurd copied notCopy, intact_of_tree later⟩
  | none =>
    simp only [action, Attempt.next, made]
    have moving := later.moving_move (makeFolders_isFolder made)
      fun replaces => safe ⟨action, made, replaces⟩
    generalize (d.makeFolders op.source.parent).disk.move op.destination op.source = attempt
      at moving
    cases moving with
    | unmoved unchanged =>
      refine ⟨.stood (unchanged ▸ same) fun copied => absurd copied notCopy, ?_⟩
      exact intact_of_tree (unchanged ▸ later)
    | moved led' shifted tree' =>
      obtain rfl := Except.ok.inj (still.symm.trans led')
      exact ⟨.moved action led (shifted.of_file?_eq same), intact_of_tree tree'⟩
    | torn led' shifted keyed stopped =>
      obtain rfl := Except.ok.inj (still.symm.trans led')
      exact ⟨.moved action led (shifted.of_file?_eq same),
        keyed, fun finished => absurd finished stopped⟩

private theorem reverted_revert (clear : obstacle d op = .ok none) :
    Reverted d op (revert d op) ∧ Intact (revert d op) := by
  obtain ⟨⟨a, -, led, -⟩, -⟩ := obstacle_eq_none clear
  by_cases overwrites : Overwrites d op
  · obtain ⟨lost, d', done, tree', contents⟩ := overwrites.revert tree
    rw [done]
    exact ⟨.replaced overwrites contents, intact_of_tree tree'⟩
  · cases action : op.action with
    | copy =>
      have same : revert d op = d.unlink op.destination := by simp [revert, action]
      rw [same]
      exact reverted_copy tree action
    | move => exact reverted_move tree action led overwrites

end

/-- What handling an operation does to the files unless it overwrites one: it is not undone and
    the disk is left alone, it cannot be carried out, it takes files along to where there were none,
    or it removes a copy whose source exists. A copy that is removed is counted unless the printer
    refuses to tell of it. -/
inductive Kept (mode : Mode) (s : Progress) (op : Operation) (s' : Progress) : Prop where
  | left (refused : ¬Allowed mode s op) (disk : s'.disk = s.disk) (uncounted : s'.undone = s.undone)
  | stood (allowed : Allowed mode s op) (files : s'.disk.file? = s.disk.file?)
    (failed : op.action = .copy → (revert s.disk op).fault ≠ none ∧ s'.undone = s.undone)
  | moved {a b : Place} (allowed : Allowed mode s op) (action : op.action = .move)
    (led : s.disk.reach op.destination = .ok a) (shifted : Shifted a b s.disk s'.disk)
  | removed {a : Place} {content : List UInt8} (allowed : Allowed mode s op)
    (action : op.action = .copy) (led : s.disk.reach op.destination = .ok a)
    (file : s.disk.file? a = some content)
    (source : ∃ entry, s.disk.at? op.source = .ok (some entry))
    (files : ∀ q, s'.disk.file? q = if q = a then none else s.disk.file? q)
    (done : (revert s.disk op).fault = none)
    (counted : s'.undone = s.undone + 1 ∨ s'.undone = s.undone ∧ ¬s'.console.Heard)

/-- What reverting an operation does, seen from its step. -/
theorem Reverted.kept {mode : Mode} {s s' : Progress} {op : Operation}
    (reverted : Reverted s.disk op (revert s.disk op))
    (allowed : Allowed mode s op) (safe : ¬Overwrites s.disk op)
    (disk : s'.disk = (revert s.disk op).disk)
    (failed : (revert s.disk op).fault ≠ none → s'.undone = s.undone)
    (done : (revert s.disk op).fault = none →
      s'.undone = s.undone + 1 ∨ s'.undone = s.undone ∧ ¬s'.console.Heard) :
    Kept mode s op s' := by
  cases reverted with
  | stood files stopped =>
    exact .stood allowed (by rw [disk, files]) fun copied =>
      ⟨stopped copied, failed (stopped copied)⟩
  | moved action led shifted => exact .moved allowed action led (disk ▸ shifted)
  | removed action led file files ended =>
    have source := (obstacle_eq_none allowed.clear).2
    simp only [action] at source
    exact .removed allowed action led file source (disk ▸ files) ended (done ended)
  | replaced overwrites => exact absurd overwrites safe

section

variable {mode : Mode} {s : Progress} {op : Operation} (tree : s.disk.WellFormed)
include tree

private theorem step_intact :
    (step mode s op).1.disk.Keyed ∧
      ((step mode s op).2 = none → (step mode s op).1.disk.WellFormed) := by
  have handled := step_handled mode s op
  generalize step mode s op = outcome at handled
  cases handled with
  | left refused disk =>
    simp only [disk]
    exact ⟨tree.keyed, fun _ => tree⟩
  | failed allowed failed disk =>
    obtain ⟨-, keyed, -⟩ := reverted_revert tree allowed.clear
    simp only [disk]
    exact ⟨keyed, nofun⟩
  | done allowed done disk =>
    obtain ⟨-, keyed, tree'⟩ := reverted_revert tree allowed.clear
    simp only [disk]
    exact ⟨keyed, fun _ => tree' done⟩
  | untold allowed done disk =>
    obtain ⟨-, keyed, -⟩ := reverted_revert tree allowed.clear
    simp only [disk]
    exact ⟨keyed, nofun⟩

private theorem step_kept (safe : Allowed mode s op → ¬Overwrites s.disk op) :
    Kept mode s op (step mode s op).1 := by
  have handled := step_handled mode s op
  generalize step mode s op = outcome at handled
  cases handled with
  | left refused disk uncounted => exact .left refused disk uncounted
  | failed allowed failed disk uncounted =>
    exact (reverted_revert tree allowed.clear).1.kept allowed (safe allowed) disk
      (fun _ => uncounted) fun done => by simp [failed] at done
  | done allowed done disk counted =>
    exact (reverted_revert tree allowed.clear).1.kept allowed (safe allowed) disk
      (fun failed => absurd done failed) fun _ => .inl counted
  | untold allowed done disk uncounted before refused =>
    exact (reverted_revert tree allowed.clear).1.kept allowed (safe allowed) disk
      (fun failed => absurd done failed) fun _ => .inr ⟨uncounted, refused⟩

end

/-- An operation that overwrites a file loses a content. -/
theorem step_overwrites {mode : Mode} {s : Progress} {op : Operation} (tree : s.disk.WellFormed)
    (allowed : Allowed mode s op) (overwrites : Overwrites s.disk op) :
    ∃ lost, s.disk.contents.Perm (lost :: (step mode s op).1.disk.contents) := by
  obtain ⟨lost, d', done, -, contents⟩ := overwrites.revert tree
  refine ⟨lost, ?_⟩
  rw [(step_handled mode s op).disk_of_allowed allowed, done]
  exact contents

/-- The operations that are handled, each with the progress before it. -/
def turns (mode : Mode) (s : Progress) : List Operation → List (Progress × Operation)
  | [] => []
  | op :: rest =>
    (s, op) ::
      match step mode s op with
      | (s', none) => turns mode s' rest
      | (_, some _) => []

/-- The operation of a turn is a copy that is removed. -/
def removes (mode : Mode) (turn : Progress × Operation) : Bool :=
  turn.2.action = .copy ∧ Allowed mode turn.1 turn.2 ∧ (revert turn.1.disk turn.2).fault = none

/-- The content of the file at the destination of a turn's operation. -/
def found (turn : Progress × Operation) : Option (List UInt8) :=
  (turn.1.disk.find? turn.2.destination).bind Entry.content?

/-- All turns keep the files, and the contents of all files stay but for one for each copy that is
    removed: the content that its destination had. -/
structure Safe (mode : Mode) (turns : List (Progress × Operation)) (d d' : Disk) : Prop where
  kept : ∀ turn ∈ turns, Kept mode turn.1 turn.2 (step mode turn.1 turn.2).1
  contents : ∃ gone, (turns.filter (removes mode)).map found = gone.map some ∧
    d.contents.Perm (gone ++ d'.contents)

private theorem Kept.contents {mode : Mode} {s s' : Progress} {op : Operation}
    (kept : Kept mode s op s')
    (keyed : s.disk.Keyed) (keyed' : s'.disk.Keyed) :
    if removes mode (s, op) then
      ∃ content, found (s, op) = some content ∧ s.disk.contents.Perm (content :: s'.disk.contents)
    else s.disk.contents.Perm s'.disk.contents := by
  cases kept with
  | left refused disk => simp [removes, refused, disk]
  | stood allowed files failed =>
    have same := contents_perm_of_file?_eq keyed keyed' files
    rw [if_neg]
    · exact same
    · intro removed
      obtain ⟨copied, -, done⟩ := of_decide_eq_true removed
      exact (failed copied).1 done
  | moved allowed action led shifted =>
    rw [if_neg (by simp [removes, action])]
    exact shifted.contents_perm keyed keyed'
  | removed allowed action led file source files done =>
    have removal : removes mode (s, op) = true := decide_eq_true ⟨action, allowed, done⟩
    rw [if_pos removal]
    refine ⟨_, ?_, contents_perm_of_removed keyed keyed' file files⟩
    simpa [found, find?, led, file?] using file

section

variable {mode : Mode} {s : Progress} (tree : s.disk.WellFormed)
include tree

/-- At each turn the disk is a tree. -/
theorem turns_wellFormed {ops : List Operation} :
    ∀ turn ∈ turns mode s ops, turn.1.disk.WellFormed := by
  induction ops generalizing s with
  | nil => simp [turns]
  | cons op rest ih =>
    have intact := (@step_intact mode s op tree).2
    unfold turns
    refine List.forall_mem_cons.mpr ⟨tree, ?_⟩
    generalize step mode s op = outcome at intact ⊢
    obtain ⟨s', stop⟩ := outcome
    cases stop with
    | some stop => simp
    | none => exact ih (intact rfl)

/-- Handling operations in order is safe if none of those that are undone overwrites a file. -/
theorem steps_safe {ops : List Operation}
    (safe : ∀ turn ∈ turns mode s ops, Allowed mode turn.1 turn.2 →
      ¬Overwrites turn.1.disk turn.2) :
    Safe mode (turns mode s ops) s.disk (steps mode s ops).1.disk := by
  induction ops generalizing s with
  | nil => exact ⟨by simp [turns], [], by simp [turns, steps]⟩
  | cons op rest ih =>
    obtain ⟨keyed, tree'⟩ := @step_intact mode s op tree
    unfold turns at safe
    obtain ⟨here, later⟩ := List.forall_mem_cons.mp safe
    have kept := step_kept tree here
    have first := kept.contents tree.keyed keyed
    have after : Safe mode (turns mode s (op :: rest)).tail (step mode s op).1.disk
        (steps mode s (op :: rest)).1.disk := by
      unfold turns steps
      generalize step mode s op = outcome at tree' later ⊢
      obtain ⟨s', stop⟩ := outcome
      cases stop with
      | some stop => exact ⟨by simp, [], by simp⟩
      | none => exact ih (tree' rfl) later
    have split : turns mode s (op :: rest) = (s, op) :: (turns mode s (op :: rest)).tail := rfl
    obtain ⟨others, gone, removed, contents⟩ := after
    rw [split]
    refine ⟨List.forall_mem_cons.mpr ⟨kept, others⟩, ?_⟩
    by_cases removal : removes mode (s, op) = true
    · rw [if_pos removal] at first
      obtain ⟨content, stood, fewer⟩ := first
      refine ⟨content :: gone, ?_, fewer.trans (.cons content contents)⟩
      rw [List.filter_cons_of_pos removal, List.map_cons, removed, stood, List.map_cons]
    · rw [if_neg removal] at first
      refine ⟨gone, ?_, first.trans contents⟩
      rw [List.filter_cons_of_neg removal, removed]

end

end Undo

/-- The turns in which the operations of a journal are undone. -/
def undoTurns (journal : Path) (mode : Undo.Mode) (answers : List String) (printer : Printer)
    (d : Disk) : List (Undo.Progress × Operation) :=
  match d.at? journal, Journal.read d journal with
  | .ok (some _), .ok ops => Undo.turns mode ⟨d, answers, ⟨printer, []⟩, 0⟩ ops.reverse
  | _, _ => []

/-- Undoing any journal is safe, whether or not it stops halfway, unless an operation overwrites a
    file. Only a move back can do so whose source has two dots that follow no folder, and if it does
    a content is lost. -/
theorem undo_safe {d : Disk} (tree : d.WellFormed) (journal : Path) (mode : Undo.Mode)
    (answers : List String) (printer : Printer) :
    let turns := undoTurns journal mode answers printer d
    ((∀ turn ∈ turns, Undo.Allowed mode turn.1 turn.2 → ¬Undo.Overwrites turn.1.disk turn.2) →
      Undo.Safe mode turns d (undo journal mode answers printer d).disk) ∧
    ∀ turn ∈ turns, Undo.Allowed mode turn.1 turn.2 →
      (turn.1.disk.Grounded turn.2.source → ¬Undo.Overwrites turn.1.disk turn.2) ∧
      (Undo.Overwrites turn.1.disk turn.2 →
        ∃ lost, turn.1.disk.contents.Perm
          (lost :: (Undo.step mode turn.1 turn.2).1.disk.contents)) := by
  constructor
  · unfold undoTurns
    cases asked : d.at? journal with
    | error fault => exact fun _ => ⟨by simp, [], by simp [undo, asked]⟩
    | ok entry =>
      cases entry with
      | none => exact fun _ => ⟨by simp, [], by simp [undo, asked]⟩
      | some entry =>
        cases read : Journal.read d journal with
        | error error => exact fun _ => ⟨by simp, [], by simp [undo, asked, read]⟩
        | ok ops =>
          rw [undo_eq asked read]
          exact @Undo.steps_safe mode ⟨d, answers, ⟨printer, []⟩, 0⟩ tree _
  · intro turn member allowed
    have here : turn.1.disk.WellFormed := by
      unfold undoTurns at member
      split at member
      · exact Undo.turns_wellFormed tree turn member
      · cases member
    exact ⟨Undo.not_overwrites_of_grounded here allowed.clear,
      Undo.step_overwrites here allowed⟩

namespace Detained

/-- A song of a collection, and two files in a library that the journal tells of. -/
def disk (journal : String) : Disk where
  entries :=
    [((Path.ofString "music").parts, .folder),
     ((Path.ofString "music/a.mp3").parts, .file (Text.Utf8.ofString "mine")),
     ((Path.ofString "lib").parts, .folder),
     ((Path.ofString "lib/song.mp3").parts, .file (Text.Utf8.ofString "theirs")),
     ((Path.ofString "lib/copy.mp3").parts, .file (Text.Utf8.ofString "mine")),
     ((Path.ofString "log.csv").parts, .file (Text.Utf8.ofString journal))]
  workingFolder := []

def journal : Path :=
  Path.ofString "log.csv"

/-- A journal that names all sources directly. -/
def plain : Disk :=
  disk "2001-02-03,copy,music/a.mp3,lib/copy.mp3\r\n2001-02-03,move,music/b.mp3,lib/song.mp3\r\n"

/-- A journal that names a source through a folder that does not exist. -/
def detour : Disk :=
  disk "2001-02-03,move,new/../music/a.mp3,lib/song.mp3\r\n"

end Detained

/-- One file is moved back and one copy removed. -/
theorem undo_safe_plain :
    Detained.plain.WellFormed ∧
      (undo Detained.journal ⟨false, true⟩ [] .patient Detained.plain).result = .ok 2 ∧
      Undo.Safe ⟨false, true⟩ (undoTurns Detained.journal ⟨false, true⟩ [] .patient Detained.plain)
        Detained.plain (undo Detained.journal ⟨false, true⟩ [] .patient Detained.plain).disk := by
  have tree : Detained.plain.WellFormed := by decide +kernel
  have direct : ∀ turn ∈ undoTurns Detained.journal ⟨false, true⟩ [] .patient Detained.plain,
      turn.2.source.Direct := by decide +kernel
  obtain ⟨safe, spared⟩ := undo_safe tree Detained.journal ⟨false, true⟩ [] .patient
  refine ⟨tree, by decide +kernel, safe fun turn member allowed => ?_⟩
  exact (spared turn member allowed).1 (grounded_of_direct _ (direct turn member))

/-- The song that stands at the end of the detour is replaced by the one that is moved back. -/
theorem not_safe_detour :
    Detained.detour.WellFormed ∧
      (undo Detained.journal ⟨false, true⟩ [] .patient Detained.detour).result = .ok 1 ∧
      ¬Undo.Safe ⟨false, true⟩ (undoTurns Detained.journal ⟨false, true⟩ [] .patient Detained.detour)
        Detained.detour (undo Detained.journal ⟨false, true⟩ [] .patient Detained.detour).disk := by
  refine ⟨by decide +kernel, by decide +kernel, ?_⟩
  rintro ⟨-, gone, removed, contents⟩
  have noCopy : (undoTurns Detained.journal ⟨false, true⟩ [] .patient Detained.detour).filter
      (Undo.removes ⟨false, true⟩) = [] := by
    rw [← List.length_eq_zero_iff]
    decide +kernel
  have counted : Detained.detour.contents.length = 4 ∧
      (undo Detained.journal ⟨false, true⟩ [] .patient Detained.detour).disk.contents.length = 3 := by
    decide +kernel
  rw [noCopy] at removed
  obtain rfl : gone = [] := by simpa using removed.symm
  have lengths := contents.length_eq
  rw [List.nil_append, counted.1, counted.2] at lengths
  cases lengths

end MusicFiling
