import MusicFiling.Proofs.Console
import MusicFiling.Proofs.Disk.Reach
import MusicFiling.Undo

/-!
# Undoing one operation after another

Handling an operation changes the disk only if nothing stands against it, the disk is not left alone
and the change is confirmed. Then the operation is reverted, and it is counted once it was told.
-/

namespace MusicFiling

open Disk

namespace Undo

/-- Printing goes on, or stops with a refusal. -/
theorem Progress.print_cases (s : Progress) (output : Output)
    (next : Progress → Progress × Option Stop) :
    s.console.refusal? output = none ∧
        s.print output next = next { s with console := s.console.hand output } ∨
      ∃ reason, s.console.refusal? output = some reason ∧
        s.print output next =
          ({ s with console := s.console.hand output }, some (.unprinted reason)) := by
  unfold print
  cases asked : s.console.refusal? output with
  | none => exact .inl ⟨rfl, rfl⟩
  | some reason => exact .inr ⟨reason, rfl, rfl⟩

/-- Saying something changes nothing but the console, and stops only with a refusal. -/
theorem Progress.say_cases (s : Progress) (text : List Letter) :
    ∃ console, s.console.Before console ∧
      (s.say text = ({ s with console := console }, none) ∧
          (s.console.Heard → console.Heard) ∨
        ∃ reason, s.say text = ({ s with console := console }, some (.unprinted reason)) ∧
          ¬console.Heard) := by
  have before := Console.before_hand s.console (.line text)
  rcases s.print_cases (.line text) fun s => (s, none) with ⟨asked, said⟩ | ⟨reason, asked, said⟩
  · exact ⟨_, before, .inl ⟨said, fun heard => Console.heard_hand.mpr ⟨heard, asked⟩⟩⟩
  · exact ⟨_, before,
      .inr ⟨reason, said, fun heard => by simp [Console.heard_hand, asked] at heard⟩⟩

/-- An operation is undone: nothing stands against it, the disk is not left alone, and the change is
    confirmed, in advance or by the answer to a question that is printed. -/
structure Allowed (mode : Mode) (s : Progress) (op : Operation) : Prop where
  clear : obstacle s.disk op = .ok none
  real : mode.dryRun = false
  agreed : mode.confirmed = true ∨
    s.console.refusal? (.question (questionText op)) = none ∧
      ∃ answer ∈ s.answers.head?, agrees answer = true

instance (mode : Mode) (s : Progress) (op : Operation) : Decidable (Allowed mode s op) :=
  decidable_of_iff (obstacle s.disk op = .ok none ∧ mode.dryRun = false ∧
      (mode.confirmed = true ∨ s.console.refusal? (.question (questionText op)) = none ∧
        ∃ answer ∈ s.answers.head?, agrees answer = true))
    ⟨fun ⟨clear, real, agreed⟩ => ⟨clear, real, agreed⟩,
      fun ⟨clear, real, agreed⟩ => ⟨clear, real, agreed⟩⟩

/-- The ways in which handling an operation may end. Where the next one is handled, nothing was
    refused for this one. -/
inductive Handled (mode : Mode) (s : Progress) (op : Operation) :
    Progress × Option Stop → Prop where
  | left {s' : Progress} {stop : Option Stop} (refused : ¬Allowed mode s op)
    (disk : s'.disk = s.disk) (uncounted : s'.undone = s.undone)
    (before : s.console.Before s'.console)
    (asked : stop = none → ∃ reason, obstacle s.disk op = .ok reason)
    (heard : stop = none → s.console.Heard → s'.console.Heard) :
    Handled mode s op (s', stop)
  | failed {s' : Progress} {fault : Fault} (allowed : Allowed mode s op)
    (failed : (revert s.disk op).fault = some fault) (disk : s'.disk = (revert s.disk op).disk)
    (uncounted : s'.undone = s.undone) (before : s.console.Before s'.console) :
    Handled mode s op (s', some (.disk fault))
  | done {s' : Progress} (allowed : Allowed mode s op) (done : (revert s.disk op).fault = none)
    (disk : s'.disk = (revert s.disk op).disk) (counted : s'.undone = s.undone + 1)
    (before : s.console.Before s'.console) (heard : s.console.Heard → s'.console.Heard)
    (told : .line (undoneText op) ∈ s'.console.printed) :
    Handled mode s op (s', none)
  | untold {s' : Progress} {reason : List Letter} (allowed : Allowed mode s op)
    (done : (revert s.disk op).fault = none) (disk : s'.disk = (revert s.disk op).disk)
    (uncounted : s'.undone = s.undone) (before : s.console.Before s'.console)
    (refused : ¬s'.console.Heard) :
    Handled mode s op (s', some (.unprinted reason))

section

variable {mode : Mode} {s s' : Progress} {op : Operation}

private theorem handled_carryOut (allowed : Allowed mode s op) (disk : s'.disk = s.disk)
    (undone : s'.undone = s.undone) (before : s.console.Before s'.console)
    (heard : s.console.Heard → s'.console.Heard) :
    Handled mode s op (carryOut s' op) := by
  unfold carryOut
  rw [disk]
  simp only
  cases fault : (revert s.disk op).fault with
  | some fault => exact .failed allowed fault rfl undone before
  | none =>
    have after := before.trans (Console.before_hand s'.console (.line (undoneText op)))
    rcases Progress.print_cases { s' with disk := (revert s.disk op).disk } (.line (undoneText op))
        fun s => ({ s with undone := s.undone + 1 }, none) with ⟨asked, told⟩ | ⟨reason, asked, told⟩
    · rw [told]
      refine .done allowed fault rfl (congrArg (· + 1) undone) after ?_ ?_
      · exact fun none => Console.heard_hand.mpr ⟨heard none, asked⟩
      · simp [Console.printed_hand asked]
    · rw [told]
      refine .untold allowed fault rfl undone after fun heard => ?_
      simp [Console.heard_hand, asked] at heard

private theorem handled_say (refused : ¬Allowed mode s op) (disk : s'.disk = s.disk)
    (undone : s'.undone = s.undone) (before : s.console.Before s'.console)
    (heard : s.console.Heard → s'.console.Heard)
    {reason : Option (List Letter)} (against : obstacle s.disk op = .ok reason)
    (text : List Letter) : Handled mode s op (s'.say text) := by
  obtain ⟨console, more, ⟨said, kept⟩ | ⟨_, said, -⟩⟩ := s'.say_cases text
  · rw [said]
    exact .left refused disk undone (before.trans more) (fun _ => ⟨_, against⟩)
      fun _ none => kept (heard none)
  · rw [said]
    exact .left refused disk undone (before.trans more) nofun nofun

/-- An operation that nothing stands against is asked about if it is not confirmed in advance. -/
private theorem handled_ask (against : obstacle s.disk op = .ok none) (real : mode.dryRun = false)
    (asking : ¬mode.confirmed = true) : Handled mode s op (step mode s op) := by
  have before := Console.before_hand s.console (.question (questionText op))
  simp only [step, against, real, asking, Bool.false_eq_true, if_false]
  rcases s.print_cases (.question (questionText op)) _ with
    ⟨asked, printed⟩ | ⟨reason, asked, printed⟩
  · have heard : s.console.Heard → (s.console.hand (.question (questionText op))).Heard :=
      fun none => Console.heard_hand.mpr ⟨none, asked⟩
    rw [printed]
    simp only
    cases answers : s.answers with
    | nil =>
      refine .left (fun allowed => ?_) rfl rfl before nofun nofun
      obtain ⟨-, answer, first, -⟩ := allowed.agreed.resolve_left asking
      simp [answers] at first
    | cons answer rest =>
      simp only
      split_ifs with agreed
      · have allowed : Allowed mode s op :=
          ⟨against, real, .inr ⟨asked, answer, by simp [answers], agreed⟩⟩
        exact handled_carryOut allowed rfl rfl before heard
      · have refused : ¬Allowed mode s op := by
          intro allowed
          obtain ⟨-, answer', first, agreed'⟩ := allowed.agreed.resolve_left asking
          obtain rfl : answer = answer' := by simpa [answers] using first
          exact agreed agreed'
        exact @handled_say mode s { s with
          console := s.console.hand (.question (questionText op))
          answers := rest } op refused rfl rfl before heard none against _
  · rw [printed]
    refine .left (fun allowed => ?_) rfl rfl before nofun nofun
    have taken := (allowed.agreed.resolve_left asking).1
    simp [asked] at taken

theorem step_handled (mode : Mode) (s : Progress) (op : Operation) :
    Handled mode s op (step mode s op) := by
  cases against : obstacle s.disk op with
  | error fault =>
    simp only [step, against]
    refine .left (fun allowed => ?_) rfl rfl (.refl _) nofun nofun
    simp [allowed.clear] at against
  | ok reason =>
    cases reason with
    | some reason =>
      simp only [step, against]
      refine handled_say (fun allowed => ?_) rfl rfl (.refl _) id against reason
      simp [allowed.clear] at against
    | none =>
      by_cases dry : mode.dryRun = true
      · simp only [step, against, dry, if_true]
        refine handled_say (fun allowed => ?_) rfl rfl (.refl _) id against _
        simp [allowed.real] at dry
      · have real : mode.dryRun = false := by simpa using dry
        by_cases confirmed : mode.confirmed = true
        · simp only [step, against, real, confirmed, Bool.false_eq_true, if_false, if_true]
          exact handled_carryOut ⟨against, real, .inl confirmed⟩ rfl rfl (.refl _) id
        · exact handled_ask against real confirmed

private theorem Handled.before {outcome : Progress × Option Stop}
    (handled : Handled mode s op outcome) :
    s.console.Before outcome.1.console := by
  cases handled <;> assumption

end

theorem Handled.disk_of_allowed {mode : Mode} {s : Progress} {op : Operation}
    {outcome : Progress × Option Stop} (handled : Handled mode s op outcome)
    (allowed : Allowed mode s op) : outcome.1.disk = (revert s.disk op).disk := by
  cases handled with
  | left refused => exact absurd allowed refused
  | failed => assumption
  | done => assumption
  | untold => assumption

theorem Handled.disk_of_not_allowed {mode : Mode} {s : Progress} {op : Operation}
    {outcome : Progress × Option Stop} (handled : Handled mode s op outcome)
    (refused : ¬Allowed mode s op) : outcome.1.disk = s.disk := by
  cases handled with
  | left => assumption
  | failed allowed => exact absurd allowed refused
  | done allowed => exact absurd allowed refused
  | untold allowed => exact absurd allowed refused

theorem steps_before (mode : Mode) (s : Progress) (ops : List Operation) :
    s.console.Before (steps mode s ops).1.console := by
  induction ops generalizing s with
  | nil => exact .refl _
  | cons op rest ih =>
    have before := (step_handled mode s op).before
    unfold steps
    generalize step mode s op = outcome at before ⊢
    obtain ⟨s', stop⟩ := outcome
    cases stop with
    | some stop => exact before
    | none => exact before.trans (ih s')

/-- Nothing was refused where all operations are handled. -/
theorem heard_of_steps {mode : Mode} {s s' : Progress} {ops : List Operation}
    (finished : steps mode s ops = (s', none)) (heard : s.console.Heard) : s'.console.Heard := by
  induction ops generalizing s with
  | nil =>
    obtain rfl : s = s' := by simpa [steps] using finished
    exact heard
  | cons op rest ih =>
    have handled := step_handled mode s op
    unfold steps at finished
    generalize step mode s op = outcome at handled finished
    cases handled with
    | @left s₁ stop _ _ _ _ _ kept =>
      cases stop with
      | some stop => cases finished
      | none => exact ih finished (kept rfl heard)
    | failed => cases finished
    | done _ _ _ _ _ kept => exact ih finished (kept heard)
    | untold => cases finished

/-- Where nothing is refused in the end, nothing was refused for the first operation. -/
theorem heard_step {mode : Mode} {s : Progress} {op : Operation} {rest : List Operation}
    (heard : (steps mode s (op :: rest)).1.console.Heard) :
    (step mode s op).1.console.Heard := by
  unfold steps at heard
  generalize step mode s op = outcome at heard ⊢
  obtain ⟨s', stop⟩ := outcome
  cases stop with
  | some stop => exact heard
  | none => exact (steps_before mode s' rest).heard heard

/-- What an operation that nothing stands against finds. -/
theorem obstacle_eq_none {d : Disk} {op : Operation} (clear : obstacle d op = .ok none) :
    (∃ a entry, d.reach op.destination = .ok a ∧ d.entry? a = some entry) ∧
      match op.action with
      | .move => d.at? op.source = .ok none
      | .copy => ∃ entry, d.at? op.source = .ok (some entry) := by
  unfold obstacle at clear
  cases asked : d.at? op.destination with
  | error fault => simp [asked, bind, Except.bind] at clear
  | ok entry =>
    cases entry with
    | none => simp [asked, bind, Except.bind] at clear
    | some entry =>
      obtain ⟨a, led, stands⟩ := at?_eq_some_iff.mp asked
      refine ⟨⟨a, entry, led, stands⟩, ?_⟩
      simp only [asked, bind, Except.bind] at clear
      cases action : op.action <;> cases source : d.at? op.source with
      | error fault => simp [source] at clear
      | ok found => cases found <;> simp_all

end Undo

section

variable {journal : Path} {mode : Undo.Mode} {answers : List String} {printer : Printer} {d : Disk}

/-- Undoing a journal that can be read handles its operations, newest first. -/
theorem undo_eq {ops : List Operation} {entry : Entry}
    (present : d.at? journal = .ok (some entry)) (read : Journal.read d journal = .ok ops) :
    undo journal mode answers printer d =
      let outcome := Undo.steps mode ⟨d, answers, ⟨printer, []⟩, 0⟩ ops.reverse
      ⟨outcome.1.disk, outcome.1.console, outcome.2.elim (.ok outcome.1.undone) .error⟩ := by
  simp only [undo, present, read]
  generalize Undo.steps mode ⟨d, answers, ⟨printer, []⟩, 0⟩ ops.reverse = outcome
  obtain ⟨s, stop⟩ := outcome
  cases stop <;> rfl

theorem exists_read_of_undone {count : Nat}
    (ended : (undo journal mode answers printer d).result = .ok count) :
    ∃ entry ops, d.at? journal = .ok (some entry) ∧ Journal.read d journal = .ok ops := by
  unfold undo at ended
  cases asked : d.at? journal with
  | error fault => simp [asked] at ended
  | ok entry =>
    cases entry with
    | none => simp [asked] at ended
    | some entry =>
      cases read : Journal.read d journal with
      | error error => simp [asked, read] at ended
      | ok ops => exact ⟨entry, ops, rfl, rfl⟩

theorem exists_steps_of_undone {ops : List Operation} {entry : Entry}
    (present : d.at? journal = .ok (some entry)) (read : Journal.read d journal = .ok ops)
    {count : Nat} (ended : (undo journal mode answers printer d).result = .ok count) :
    ∃ s, Undo.steps mode ⟨d, answers, ⟨printer, []⟩, 0⟩ ops.reverse = (s, none) ∧
      s.undone = count := by
  rw [undo_eq present read] at ended
  cases handled : Undo.steps mode ⟨d, answers, ⟨printer, []⟩, 0⟩ ops.reverse with
  | mk s stop =>
    rw [handled] at ended
    cases stop with
    | some stop => cases ended
    | none => exact ⟨s, rfl, Except.ok.inj ended⟩

/-- Undoing runs to its end only if nothing is refused. -/
theorem heard_of_undone {count : Nat}
    (ended : (undo journal mode answers printer d).result = .ok count) :
    (undo journal mode answers printer d).console.Heard := by
  obtain ⟨entry, ops, present, read⟩ := exists_read_of_undone ended
  obtain ⟨s, handled, -⟩ := exists_steps_of_undone present read ended
  rw [undo_eq present read, handled]
  exact Undo.heard_of_steps handled rfl

end

end MusicFiling
