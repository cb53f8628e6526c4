import MusicFiling.Console

/-!
# What a printer was handed

A console only gets to know more outputs. One to which nothing was refused so far was never refused
anything, so that whatever was printed with it went on.
-/

namespace MusicFiling.Console

/-- The printer has refused nothing of what it was handed. -/
def Heard (c : Console) : Prop := c.refused = []

instance (c : Console) : Decidable c.Heard :=
  inferInstanceAs (Decidable (c.refused = []))

/-- Later the same printer may have been handed more. -/
structure Before (c c' : Console) : Prop where
  printer : c'.printer = c.printer
  handed : c.handed <+: c'.handed

theorem Before.refl (c : Console) : Before c c :=
  ⟨rfl, List.prefix_rfl⟩

theorem Before.trans {c c' c'' : Console} (first : Before c c') (second : Before c' c'') :
    Before c c'' :=
  ⟨second.printer.trans first.printer, first.handed.trans second.handed⟩

theorem Before.heard {c c' : Console} (before : Before c c') (heard : c'.Heard) : c.Heard := by
  obtain ⟨rest, more⟩ := before.handed
  unfold Heard refused at heard ⊢
  rw [← more, List.filter_append, List.map_append] at heard
  exact (List.append_eq_nil_iff.mp heard).1

/-- What was printed stays so. -/
theorem Before.mem_printed {c c' : Console} (before : Before c c') {output : Output}
    (printed : output ∈ c.printed) : output ∈ c'.printed := by
  obtain ⟨rest, more⟩ := before.handed
  unfold Console.printed at printed ⊢
  rw [← more, List.filter_append, List.map_append]
  exact List.mem_append_left _ printed

theorem before_hand (c : Console) (output : Output) : Before c (c.hand output) :=
  ⟨rfl, List.prefix_append _ _⟩

theorem heard_hand {c : Console} {output : Output} :
    (c.hand output).Heard ↔ c.Heard ∧ c.refusal? output = none := by
  cases asked : c.refusal? output <;> simp [Heard, refused, hand, asked]

/-- What is handed to a printer that does not refuse it is printed. -/
theorem printed_hand {c : Console} {output : Output} (accepted : c.refusal? output = none) :
    (c.hand output).printed = c.printed ++ [output] := by
  simp [printed, hand, accepted]

theorem before_handAll (c : Console) (outputs : List Output) : Before c (c.handAll outputs).1 := by
  induction outputs generalizing c with
  | nil => exact .refl c
  | cons output rest ih =>
    rw [handAll]
    cases c.refusal? output with
    | none => exact (before_hand c output).trans (ih (c.hand output))
    | some reason => exact before_hand c output

/-- Outputs of which none is refused are all printed. -/
theorem printed_handAll {c : Console} {outputs : List Output}
    (accepted : (c.handAll outputs).2 = none) :
    (c.handAll outputs).1.printed = c.printed ++ outputs := by
  induction outputs generalizing c with
  | nil => exact (List.append_nil _).symm
  | cons output rest ih =>
    rw [handAll] at accepted ⊢
    cases asked : c.refusal? output with
    | none =>
      simp only [asked] at accepted ⊢
      rw [ih accepted, printed_hand asked, List.append_assoc, List.singleton_append]
    | some reason => simp [asked] at accepted

/-- What is refused among several outputs. -/
theorem mem_refused_of_handAll {c : Console} {outputs : List Output} {reason : List Letter}
    (refused : (c.handAll outputs).2 = some reason) :
    ∃ output ∈ outputs, output ∈ (c.handAll outputs).1.refused := by
  induction outputs generalizing c with
  | nil => cases refused
  | cons output rest ih =>
    rw [handAll] at refused ⊢
    cases asked : c.refusal? output with
    | none =>
      simp only [asked] at refused
      obtain ⟨output', among, gone⟩ := ih refused
      exact ⟨output', List.mem_cons_of_mem _ among, gone⟩
    | some reason' =>
      exact ⟨output, List.mem_cons_self, by simp [Console.refused, hand, asked]⟩

theorem handAll_of_heard {c : Console} {outputs : List Output}
    (heard : (c.handAll outputs).1.Heard) : (c.handAll outputs).2 = none := by
  cases asked : (c.handAll outputs).2 with
  | none => rfl
  | some reason =>
    obtain ⟨output, -, refused⟩ := mem_refused_of_handAll asked
    rw [heard] at refused
    cases refused

end MusicFiling.Console
