import MusicFiling.Proofs.Disk.WithText
import MusicFiling.Proofs.Undo.Again

/-!
# Answers select operations

Where questions are asked, the answers select operations and do nothing else: undoing ends as it
does without questions on a journal that holds only the operations whose question was answered with
yes, in the same order. Whether a question is asked depends on what the operations accepted before
it have left, so the two are followed turn by turn. Only the text of the journal differs, which no
operation depends on that keeps off the journal and the folders above it.
-/

namespace MusicFiling

open Disk

namespace Undo

/-- Each change is made once a question is answered with yes. -/
def Mode.asking : Mode := ⟨false, false⟩

section

variable {place : Place} {text : List UInt8} (d : Disk)

private theorem obstacle_withText (op : Operation) :
    obstacle (d.withText place text) op = obstacle d op := by
  unfold obstacle
  rw [at?_withText, at?_withText]
  cases d.at? op.destination with
  | error fault => rfl
  | ok found =>
    cases found with
    | none => rfl
    | some entry =>
      cases d.at? op.source with
      | error fault => cases op.action <;> rfl
      | ok found => cases op.action <;> cases found <;> rfl

private theorem revert_withText {op : Operation} (aside : Aside d.nominal place op) :
    revert (d.withText place text) op = (revert d op).withText place text := by
  unfold revert
  cases op.action with
  | copy =>
    exact unlink_withText d fun same => aside.destination (same ▸ List.prefix_rfl)
  | move =>
    have nominal : (d.makeFolders op.source.parent).disk.nominal = d.nominal :=
      funext (makeFolders_grows d op.source.parent).nominal
    simp only [makeFolders_withText]
    refine next_withText (move_withText _ ?_ ?_)
    · rw [nominal]
      exact aside.destination
    · rw [nominal]
      exact aside.source

end

/-- The answer to the question of a turn. A question is asked if nothing stands against undoing the
    operation and the printer takes it. -/
def reply? (turn : Progress × Operation) : Option String :=
  match obstacle turn.1.disk turn.2, turn.1.console.refusal? (.question (questionText turn.2)) with
  | .ok none, none => turn.1.answers.head?
  | _, _ => none

/-- The question of a turn is answered with yes. -/
def accepts (turn : Progress × Operation) : Bool :=
  (reply? turn).any agrees

private theorem accepts_iff (turn : Progress × Operation) :
    accepts turn = true ↔ Allowed .asking turn.1 turn.2 := by
  obtain ⟨s, op⟩ := turn
  unfold accepts reply?
  constructor
  · intro accepted
    split at accepted
    case h_1 clear taken =>
      simp only [Option.any_eq_true] at accepted
      exact ⟨clear, rfl, .inr ⟨taken, accepted⟩⟩
    · cases accepted
  · rintro ⟨clear, -, agreed⟩
    obtain ⟨taken, agreed⟩ := agreed.resolve_left Bool.false_ne_true
    simp only [clear, taken, Option.any_eq_true]
    exact agreed

/-- Two runs that stand alike: their disks differ only in the text of one file, and as many
    operations are undone. The second one has a given printer. -/
structure Matches (place : Place) (text : List UInt8) (printer : Printer) (s t : Progress) :
    Prop where
  disk : t.disk = s.disk.withText place text
  undone : t.undone = s.undone
  printer : t.console.printer = printer

section

variable {place : Place} {text : List UInt8} {printer : Printer} {s t : Progress} {op : Operation}

/-- An operation that is accepted is undone by the run that does not ask, whose printer takes what
    was printed by the other one. -/
theorem Matches.accepted (matched : Matches place text printer s t) (allowed : Allowed .asking s op)
    (aside : Aside s.disk.nominal place op) (finished : (step .asking s op).2 = none)
    (takes : ∀ output ∈ (step .asking s op).1.console.printed, ∀ handed,
      printer handed output = none) :
    ∃ t', step .sure t op = (t', none) ∧
      Matches place text printer (step .asking s op).1 t' := by
  have reverted : revert t.disk op = (revert s.disk op).withText place text := by
    rw [matched.disk, revert_withText s.disk aside]
  have clear : obstacle t.disk op = .ok none := by
    rw [matched.disk, obstacle_withText, allowed.clear]
  have handled := step_handled .asking s op
  generalize step .asking s op = outcome at handled finished takes
  cases handled with
  | left refused => exact absurd allowed refused
  | failed => cases finished
  | untold => cases finished
  | done _ done disk counted _ _ told =>
    have fault : (revert t.disk op).fault = none := by
      rw [reverted]
      exact done
    have stepped : step .sure t op = carryOut t op := by
      simp [step, clear, Mode.sure]
    rw [stepped, carryOut]
    simp only [fault]
    rcases Progress.print_cases { t with disk := (revert t.disk op).disk } (.line (undoneText op))
        fun t => ({ t with undone := t.undone + 1 }, none) with ⟨-, printed⟩ | ⟨reason, asked, -⟩
    · refine ⟨_, printed, ?_, ?_, matched.printer⟩
      · rw [disk, reverted]
        rfl
      · rw [counted, matched.undone]
    · have taken := takes _ told t.console.handed
      rw [← matched.printer] at taken
      cases taken.symm.trans asked

/-- An operation that is declined, or that something stands against, is as good as left out. -/
theorem Matches.declined (matched : Matches place text printer s t)
    (refused : ¬Allowed .asking s op) : Matches place text printer (step .asking s op).1 t := by
  have handled := step_handled .asking s op
  generalize step .asking s op = outcome at handled
  cases handled with
  | left _ disk undone => exact ⟨disk ▸ matched.disk, undone ▸ matched.undone, matched.printer⟩
  | failed allowed => exact absurd allowed refused
  | done allowed => exact absurd allowed refused
  | untold allowed => exact absurd allowed refused

/-- Operations that are undone with questions are undone without questions if only those are left
    that are accepted. -/
theorem Matches.steps {ops : List Operation} {s' : Progress}
    (matched : Matches place text printer s t) (finished : steps .asking s ops = (s', none))
    (aside : ∀ turn ∈ (turns .asking s ops).filter accepts,
      Aside turn.1.disk.nominal place turn.2)
    (takes : ∀ output ∈ s'.console.printed, ∀ handed, printer handed output = none) :
    ∃ t', Undo.steps .sure t (((turns .asking s ops).filter accepts).map Prod.snd) = (t', none) ∧
      Matches place text printer s' t' := by
  induction ops generalizing s t with
  | nil =>
    obtain rfl : s = s' := by simpa [Undo.steps] using finished
    exact ⟨t, rfl, matched⟩
  | cons op rest ih =>
    have accepted := @Matches.accepted place text printer s t op matched
    have declined := @Matches.declined place text printer s t op matched
    have whether := accepts_iff (s, op)
    unfold turns at aside ⊢
    unfold Undo.steps at finished
    generalize step .asking s op = outcome at accepted declined finished aside ⊢
    obtain ⟨s₁, stop⟩ := outcome
    cases stop with
    | some stop => cases finished
    | none =>
      have before := steps_before .asking s₁ rest
      simp only at finished
      rw [finished] at before
      by_cases agreed : accepts (s, op) = true
      · rw [List.filter_cons_of_pos agreed] at aside ⊢
        obtain ⟨here, later⟩ := List.forall_mem_cons.mp aside
        obtain ⟨t₁, stepped, matched₁⟩ := accepted (whether.mp agreed) here rfl
          fun output printed => takes output (before.mem_printed printed)
        obtain ⟨t', done, matched'⟩ := ih matched₁ finished later
        refine ⟨t', ?_, matched'⟩
        simp only [List.map_cons, Undo.steps, stepped, done]
      · -- The run that does not ask waits for the next operation.
        rw [List.filter_cons_of_neg agreed] at aside ⊢
        exact ih (declined (mt whether.mpr agreed)) finished aside

end

/-- As long as the working folder is not moved, operations keep off a place at their turns if they
    do so at the start. -/
theorem turns_aside {mode : Mode} {kept : Place} {s : Progress} {ops : List Operation}
    (aside : ∀ op ∈ ops, Aside s.disk.nominal kept op)
    (still : ∀ op ∈ ops, ¬s.disk.nominal op.destination <+: s.disk.workingFolder) :
    ∀ turn ∈ turns mode s ops, Aside turn.1.disk.nominal kept turn.2 := by
  induction ops generalizing s with
  | nil => simp [turns]
  | cons op rest ih =>
    obtain ⟨here, later⟩ := List.forall_mem_cons.mp aside
    obtain ⟨unmoved, others⟩ := List.forall_mem_cons.mp still
    have within := step_within mode s op
    unfold turns
    refine List.forall_mem_cons.mpr ⟨here, ?_⟩
    generalize step mode s op = outcome at within ⊢
    obtain ⟨s', stop⟩ := outcome
    cases stop with
    | some stop => simp
    | none =>
      rw [← within.nominal unmoved] at later others
      rw [← within.working unmoved] at others
      exact ih later others

end Undo

section

variable {journal : Path} {mode : Undo.Mode} {answers : List String} {printer : Printer} {d : Disk}

/-- Undoing runs to its end only once the journal was read. -/
theorem exists_opened_of_undo {count : Nat}
    (ended : (undo journal mode answers printer d).result = .ok count) :
    ∃ content ops, d.openForReading journal = .ok (d.nominal journal, content) ∧
      Journal.ofBytes content = .ok ops := by
  obtain ⟨entry, ops, -, read⟩ := exists_read_of_undone ended
  unfold Journal.read at read
  cases opened : d.openForReading journal with
  | error fault => simp [opened] at read
  | ok found =>
    obtain ⟨place, content⟩ := found
    obtain rfl := reach_eq_nominal (openForReading_ok.mp opened).1
    exact ⟨content, ops, rfl, by simpa [opened] using read⟩

variable {content : List UInt8} {ops : List Operation}
  (opened : d.openForReading journal = .ok (d.nominal journal, content))
  (parsed : Journal.ofBytes content = .ok ops)
include opened parsed

private theorem read_of_opened : Journal.read d journal = .ok ops := by
  simp [Journal.read, opened, parsed]

private theorem undoTurns_of_opened :
    undoTurns journal mode answers printer d =
      Undo.turns mode ⟨d, answers, ⟨printer, []⟩, 0⟩ ops.reverse := by
  simp [undoTurns, at?_of_opened opened, read_of_opened opened parsed]

private theorem undo_of_steps {s : Undo.Progress}
    (finished : Undo.steps mode ⟨d, answers, ⟨printer, []⟩, 0⟩ ops.reverse = (s, none)) :
    undo journal mode answers printer d = ⟨s.disk, s.console, .ok s.undone⟩ := by
  rw [undo_eq (at?_of_opened opened) (read_of_opened opened parsed), finished]
  rfl

/-- The operations of a journal keep off a place at their turns if they do so before all of them and
    none of them moves the working folder. -/
theorem aside_of_rows {kept : Place} (aside : ∀ op ∈ ops, Undo.Aside d.nominal kept op)
    (still : ∀ op ∈ ops, ¬d.nominal op.destination <+: d.workingFolder) :
    ∀ turn ∈ undoTurns journal mode answers printer d,
      Undo.Aside turn.1.disk.nominal kept turn.2 := by
  rw [undoTurns_of_opened opened parsed]
  exact Undo.turns_aside (fun op inside => aside op (List.mem_reverse.mp inside))
    fun op inside => still op (List.mem_reverse.mp inside)

end

/-- The turns of a journal's operations, newest first, whose question is answered with yes. -/
def acceptedTurns (journal : Path) (answers : List String) (printer : Printer) (d : Disk) :
    List (Undo.Progress × Operation) :=
  (undoTurns journal .asking answers printer d).filter Undo.accepts

/-- The operations of a journal whose question is answered with yes, in the journal's order. -/
def acceptedOperations (journal : Path) (answers : List String) (printer : Printer) (d : Disk) :
    List Operation :=
  ((acceptedTurns journal answers printer d).map Prod.snd).reverse

/-- Answering questions selects operations and does nothing else. Where undoing a journal with
    questions runs to its end, it leaves the same tree but for the text of the journal, and undoes
    as many operations, as without questions on any journal that holds only the operations whose
    question was answered with yes, by a printer that refuses none of the lines that were printed.
    What those operations name when their turns come is neither the journal nor a folder above
    it. -/
theorem undo_answers {journal : Path} {answers : List String} {printer printer' : Printer}
    {d : Disk} {count : Nat}
    (ended : (undo journal .asking answers printer d).result = .ok count)
    (aside : ∀ turn ∈ acceptedTurns journal answers printer d,
      Undo.Aside turn.1.disk.nominal (d.nominal journal) turn.2)
    {text : List UInt8}
    (chosen : Journal.ofBytes text = .ok (acceptedOperations journal answers printer d))
    (takes : ∀ output ∈ (undo journal .asking answers printer d).console.printed, ∀ handed,
      printer' handed output = none)
    (answers' : List String) :
    let unasked := undo journal .sure answers' printer' (d.withText (d.nominal journal) text)
    unasked.result = .ok count ∧
      unasked.disk =
        (undo journal .asking answers printer d).disk.withText (d.nominal journal) text := by
  obtain ⟨content, ops, opened, read⟩ := exists_opened_of_undo ended
  obtain ⟨s, finished, counted⟩ :=
    exists_steps_of_undone (at?_of_opened opened) (read_of_opened opened read) ended
  have turns : undoTurns journal .asking answers printer d = _ := undoTurns_of_opened opened read
  have opened' : (d.withText (d.nominal journal) text).openForReading journal =
      .ok ((d.withText (d.nominal journal) text).nominal journal, text) := by
    obtain ⟨led, stands⟩ := openForReading_ok.mp opened
    rw [nominal_withText]
    exact openForReading_ok.mpr ⟨by simpa using led, by simp [stands, Entry.withText]⟩
  have start : Undo.Matches (d.nominal journal) text printer' ⟨d, answers, ⟨printer, []⟩, 0⟩
      ⟨d.withText (d.nominal journal) text, answers', ⟨printer', []⟩, 0⟩ := ⟨rfl, rfl, rfl⟩
  unfold acceptedTurns at aside
  rw [turns] at aside
  rw [undo_of_steps opened read finished] at takes ⊢
  obtain ⟨t, done, matched⟩ := start.steps finished aside takes
  have left : (acceptedOperations journal answers printer d).reverse =
      ((Undo.turns .asking ⟨d, answers, ⟨printer, []⟩, 0⟩ ops.reverse).filter Undo.accepts).map
        Prod.snd := by
    rw [acceptedOperations, acceptedTurns, turns, List.reverse_reverse]
  rw [← left] at done
  rw [undo_of_steps opened' chosen done]
  exact ⟨by rw [matched.undone, counted], matched.disk⟩

namespace Picked

def copied : Operation :=
  ⟨.copy, Path.ofString "music/a.mp3", Path.ofString "lib/a.mp3"⟩

def moved : Operation :=
  ⟨.move, Path.ofString "music/b.mp3", Path.ofString "lib/b.mp3"⟩

/-- A copy whose source is gone, so that no question is asked about it. -/
def orphaned : Operation :=
  ⟨.copy, Path.ofString "music/c.mp3", Path.ofString "lib/c.mp3"⟩

/-- A move whose question is answered with no. -/
def declined : Operation :=
  ⟨.move, Path.ofString "music/d.mp3", Path.ofString "lib/d.mp3"⟩

def operations : List Operation :=
  [copied, moved, orphaned, declined]

def rows (ops : List Operation) : List UInt8 :=
  Text.Utf8.encode (Journal.text (ops.map fun op => ("2001-02-03", op)))

def disk : Disk where
  entries :=
    [((Path.ofString "music").parts, .folder),
     ((Path.ofString "music/a.mp3").parts, .file (Text.Utf8.ofString "one")),
     ((Path.ofString "lib").parts, .folder),
     ((Path.ofString "lib/a.mp3").parts, .file (Text.Utf8.ofString "one")),
     ((Path.ofString "lib/b.mp3").parts, .file (Text.Utf8.ofString "two")),
     ((Path.ofString "lib/c.mp3").parts, .file (Text.Utf8.ofString "three")),
     ((Path.ofString "lib/d.mp3").parts, .file (Text.Utf8.ofString "four")),
     ((Path.ofString "log.csv").parts, .file (rows operations))]
  workingFolder := []

def journal : Path :=
  Path.ofString "log.csv"

def answers : List String :=
  ["no", " YES ", "y"]

private theorem ofBytes_rows {ops : List Operation} (among : ops ⊆ operations) :
    Journal.ofBytes (rows ops) = .ok ops := by
  have short : ∀ op ∈ operations, op.IsText ∧ op.source.toString.length ≤ Csv.fieldLimit ∧
      op.destination.toString.length ≤ Csv.fieldLimit := by
    decide +kernel
  have readable : ∀ e ∈ ops.map fun op => ("2001-02-03", op), Journal.Readable e.1 e.2 := by
    intro e member
    obtain ⟨op, inside, rfl⟩ := List.mem_map.mp member
    obtain ⟨plain, source, destination⟩ := short op (among inside)
    exact ⟨plain, (by decide : "2001-02-03".length ≤ Csv.fieldLimit), source, destination⟩
  simpa [rows, Function.comp_def] using Journal.ofBytes_text readable

end Picked

/-- The move that is declined and the copy that is not asked about may as well be left out. -/
theorem undo_answers_picked :
    let place := Picked.disk.nominal Picked.journal
    let fewer := Picked.rows [Picked.copied, Picked.moved]
    let asked := undo Picked.journal .asking Picked.answers .patient Picked.disk
    let unasked := undo Picked.journal .sure [] .patient (Picked.disk.withText place fewer)
    asked.result = .ok 2 ∧ unasked.result = .ok 2 ∧
      unasked.disk = asked.disk.withText place fewer := by
  have led : Picked.disk.reach Picked.journal = .ok (Picked.disk.nominal Picked.journal) := by
    decide +kernel
  have opened := openForReading_ok.mpr
    (And.intro led (rfl : Picked.disk.entry? _ = some (.file (Picked.rows Picked.operations))))
  have read := Picked.ofBytes_rows (List.Subset.refl Picked.operations)
  have handled :
      let s : Undo.Progress := ⟨Picked.disk, Picked.answers, ⟨.patient, []⟩, 0⟩
      let ops := Picked.operations.reverse
      (Undo.steps .asking s ops).2 = none ∧ (Undo.steps .asking s ops).1.undone = 2 ∧
        ((Undo.turns .asking s ops).filter Undo.accepts).map Prod.snd =
          [Picked.moved, Picked.copied] := by
    decide +kernel
  obtain ⟨finished, counted, accepted⟩ := handled
  have ended : (undo Picked.journal .asking Picked.answers .patient Picked.disk).result = .ok 2 := by
    rw [undo_of_steps opened read (Prod.ext rfl finished), counted]
  have chosen : acceptedOperations Picked.journal Picked.answers .patient Picked.disk =
      [Picked.copied, Picked.moved] := by
    rw [acceptedOperations, acceptedTurns, undoTurns_of_opened opened read, accepted]
    rfl
  have aside : ∀ op ∈ Picked.operations,
      Undo.Aside Picked.disk.nominal (Picked.disk.nominal Picked.journal) op ∧
        ¬Picked.disk.nominal op.destination <+: Picked.disk.workingFolder := by
    decide +kernel
  refine ⟨ended, undo_answers ended ?_ ?_ (fun _ _ _ => rfl) []⟩
  · intro turn member
    exact aside_of_rows opened read (fun op inside => (aside op inside).1)
      (fun op inside => (aside op inside).2) turn (List.mem_filter.mp member).1
  · rw [chosen]
    exact Picked.ofBytes_rows (by decide)

end MusicFiling
