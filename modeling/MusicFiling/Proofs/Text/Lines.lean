import MusicFiling.Text.Lines

/-!
# Lines and their ends

The lines of a text are the same whatever ends them: unifying the ends changes no line. A text that
is put together from lines and their ends is read as these lines, except that an empty line between
a carriage return and a line feed is lost: the two are read as one end.
-/

namespace MusicFiling.Text

/-- What is done already comes before the rest. -/
theorem unifyNewlines_go (text : List Char) :
    ∀ done, unifyNewlines.go done text = done.reverse ++ unifyNewlines text := by
  refine unifyNewlines.go.induct
    (motive := fun _ text => ∀ done, unifyNewlines.go done text = done.reverse ++
      unifyNewlines.go [] text) ?_ ?_ ?_ ?_ [] text
  · intro _ done
    simp [unifyNewlines.go]
  · intro _ rest ih done
    simp [unifyNewlines.go, ih ('\n' :: done), ih ['\n']]
  · intro _ rest alone ih done
    simp [unifyNewlines.go, ih ('\n' :: done), ih ['\n']]
  · intro _ c rest _ other ih done
    simp [unifyNewlines.go, ih (c :: done), ih [c]]

private theorem unifyNewlines_pair (rest : List Char) :
    unifyNewlines ('\r' :: '\n' :: rest) = '\n' :: unifyNewlines rest :=
  unifyNewlines_go rest ['\n']

private theorem unifyNewlines_return {rest : List Char}
    (alone : ∀ rest', rest = '\n' :: rest' → False) :
    unifyNewlines ('\r' :: rest) = '\n' :: unifyNewlines rest := by
  unfold unifyNewlines
  rw [unifyNewlines.go]
  · exact unifyNewlines_go rest ['\n']
  · exact alone

private theorem unifyNewlines_other {c : Char} (other : c ≠ '\r') (rest : List Char) :
    unifyNewlines (c :: rest) = c :: unifyNewlines rest := by
  unfold unifyNewlines
  rw [unifyNewlines.go]
  · exact unifyNewlines_go rest [c]
  · exact fun _ same _ => other same
  · exact other

private theorem linesFrom_break (done : List (List Char)) (line : List Char) {c : Char}
    (ends : isLineBreak c = true) (other : c ≠ '\r') (rest : List Char) :
    linesFrom done line (c :: rest) = linesFrom (line.reverse :: done) [] rest := by
  rw [linesFrom]
  · rw [if_pos ends]
  · exact fun _ same _ => other same

/-- The lines of a text do not depend on what ends them. -/
theorem linesFrom_unifyNewlines (done : List (List Char)) (line text : List Char) :
    linesFrom done line (unifyNewlines text) = linesFrom done line text := by
  fun_induction linesFrom done line text with
  | case1 done line => rfl
  | case2 done line rest ih =>
    rw [unifyNewlines_pair, linesFrom_break done line (by decide) (by decide), ih]
  | case3 done line c rest alone ends ih =>
    by_cases same : c = '\r'
    · subst same
      rw [unifyNewlines_return (fun rest' => alone rest' rfl),
        linesFrom_break done line (by decide) (by decide), ih]
    · rw [unifyNewlines_other same, linesFrom_break done line ends same, ih]
  | case4 done line c rest alone inside ih =>
    have other : c ≠ '\r' := by
      rintro rfl
      exact inside (by decide)
    rw [unifyNewlines_other other, linesFrom, if_neg inside, ih]
    exact fun _ same _ => other same

theorem lines_unifyNewlines (text : List Char) : lines (unifyNewlines text) = lines text :=
  linesFrom_unifyNewlines [] [] text

/-- What may end a line: one of ten characters, or a carriage return with a line feed. -/
def lineEnds : List (List Char) :=
  [['\n'], ['\r'], ['\r', '\n'], ['\x0B'], ['\x0C'], ['\x1C'], ['\x1D'], ['\x1E'], ['\u0085'],
   ['\u2028'], ['\u2029']]

/-- A line without anything in it that could end it. -/
def Unbroken (line : List Char) : Prop :=
  ∀ c ∈ line, [c] ∉ lineEnds

instance (line : List Char) : Decidable (Unbroken line) :=
  List.decidableBAll (fun c => [c] ∉ lineEnds) line

/-- A line and what ends it. -/
structure EndedLine where
  text : List Char
  ending : List Char
  unbroken : Unbroken text
  ends : ending ∈ lineEnds

/-- The characters of a line and of its end. -/
def EndedLine.chars (line : EndedLine) : List Char :=
  line.text ++ line.ending

private theorem singleton_mem_lineEnds {c : Char} : [c] ∈ lineEnds ↔ isLineBreak c = true := by
  simp only [lineEnds, isLineBreak, List.mem_cons, List.cons.injEq, and_true, reduceCtorEq,
    and_false, List.not_mem_nil, or_false, false_or, decide_eq_true_eq]

/-- A line ends with a line break, or with the one pair of line breaks that is read as one. -/
theorem lineEnd_cases {ending : List Char} (ends : ending ∈ lineEnds) :
    ending = ['\r', '\n'] ∨ ∃ c, isLineBreak c = true ∧ ending = [c] := by
  have lengths : ∀ ending ∈ lineEnds, ending = ['\r', '\n'] ∨ ending.length = 1 := by decide
  refine (lengths ending ends).imp_right fun one => ?_
  obtain ⟨c, rfl⟩ := List.length_eq_one_iff.mp one
  exact ⟨c, singleton_mem_lineEnds.mp ends, rfl⟩

/-- Finished lines stay in front. -/
theorem linesFrom_done (line text : List Char) :
    ∀ done, linesFrom done line text = done.reverse ++ linesFrom [] line text := by
  refine linesFrom.induct
    (motive := fun _ line text =>
      ∀ done, linesFrom done line text = done.reverse ++ linesFrom [] line text)
    ?_ ?_ ?_ ?_ [] line text
  · intro _ line done
    cases line <;> simp [linesFrom]
  · intro _ line rest ih done
    simp [linesFrom, ih (line.reverse :: done), ih [line.reverse]]
  · intro _ line c rest alone ends ih done
    simp [linesFrom, ends, ih (line.reverse :: done), ih [line.reverse]]
  · intro _ line c rest alone inside ih done
    simp [linesFrom, inside, ih done]

/-- Nothing ends inside an unbroken line. -/
theorem linesFrom_unbroken {text : List Char} (unbroken : Unbroken text) (line rest : List Char) :
    linesFrom [] line (text ++ rest) = linesFrom [] (text.reverse ++ line) rest := by
  induction text generalizing line with
  | nil => rfl
  | cons c others ih =>
    obtain ⟨first, later⟩ := List.forall_mem_cons.mp unbroken
    have inside : ¬ isLineBreak c = true := mt singleton_mem_lineEnds.mpr first
    have other : c ≠ '\r' := by
      rintro rfl
      exact inside (by decide)
    rw [List.cons_append, linesFrom, if_neg inside, ih later]
    · simp
    · exact fun _ same _ => other same

section

variable {Item : Type} {read : List Char → Option Item} (silent : read [] = none)
include silent

/-- A line feed at the start ends an empty line, of which nothing is read. -/
theorem filterMap_lines_lineFeed (rest : List Char) :
    (lines ('\n' :: rest)).filterMap read = (lines rest).filterMap read := by
  rw [lines, linesFrom_break [] [] (by decide) (by decide), linesFrom_done]
  simp [silent, lines]

/-- What is read of a text after the end of its first line does not depend on how that line ended,
    even if a carriage return takes the line feed after it for its own. -/
theorem filterMap_linesFrom_end {ending : List Char} (ends : ending ∈ lineEnds)
    (line rest : List Char) :
    (linesFrom [] line (ending ++ rest)).filterMap read =
      (read line.reverse).toList ++ (lines rest).filterMap read := by
  have counted : ∀ rest, (linesFrom [line.reverse] [] rest).filterMap read =
      (read line.reverse).toList ++ (lines rest).filterMap read := by
    intro rest
    rw [linesFrom_done, List.filterMap_append, lines]
    cases told : read line.reverse <;> simp [told]
  rcases lineEnd_cases ends with rfl | ⟨c, breaks, rfl⟩
  · exact counted rest
  · by_cases pair : c = '\r' ∧ ∃ rest', rest = '\n' :: rest'
    · obtain ⟨rfl, rest', rfl⟩ := pair
      rw [filterMap_lines_lineFeed silent, ← counted rest']
      rfl
    · rw [← counted rest, List.singleton_append, linesFrom, if_pos breaks]
      exact fun rest' same next => pair ⟨same, rest', next⟩

/-- A line that nothing ends is read as well. -/
theorem filterMap_linesFrom_nil (line : List Char) :
    (linesFrom [] line []).filterMap read = (read line.reverse).toList := by
  cases line with
  | nil => simp [linesFrom, silent]
  | cons c others =>
    rw [linesFrom, if_neg (by simp), List.reverse_singleton]
    cases told : read (c :: others).reverse with
    | none => rw [List.filterMap_cons_none told, List.filterMap_nil, Option.toList_none]
    | some item => rw [List.filterMap_cons_some told, List.filterMap_nil, Option.toList_some]

/-- A line feed cuts a text in two that are read each by itself, even where it belongs to a carriage
    return before it. -/
theorem filterMap_linesFrom_append (line text rest : List Char) :
    (linesFrom [] line (text ++ '\n' :: rest)).filterMap read =
      (linesFrom [] line text).filterMap read ++ (lines rest).filterMap read := by
  induction text generalizing line with
  | nil =>
    have ends : ['\n'] ∈ lineEnds := by decide
    rw [List.nil_append, ← List.singleton_append, filterMap_linesFrom_end silent ends,
      filterMap_linesFrom_nil silent]
  | cons c later ih =>
    -- On both sides the same lemma takes off a break, so that a pair of breaks is no case of its own.
    by_cases breaks : isLineBreak c = true
    · have ended := filterMap_linesFrom_end silent (singleton_mem_lineEnds.mpr breaks) line
      rw [List.cons_append, ← List.singleton_append, ended, lines, ih, ← lines,
        ← List.append_assoc, ← ended, List.singleton_append]
    · have unbroken : Unbroken [c] := by
        simpa [Unbroken] using mt singleton_mem_lineEnds.mp breaks
      have within := linesFrom_unbroken unbroken line
      rw [List.cons_append, ← List.singleton_append, within, ih, ← within, List.singleton_append]

/-- A text that is put together from lines is read line by line. -/
theorem filterMap_lines_chars (ended : List EndedLine) {last : List Char}
    (unbroken : Unbroken last) :
    (lines (ended.flatMap EndedLine.chars ++ last)).filterMap read =
      (ended.map EndedLine.text ++ [last]).filterMap read := by
  induction ended with
  | nil =>
    have whole := linesFrom_unbroken unbroken [] []
    rw [List.append_nil, List.append_nil] at whole
    rw [List.flatMap_nil, List.nil_append, lines, whole, filterMap_linesFrom_nil silent]
    cases told : read last <;> simp [told]
  | cons line others ih =>
    rw [List.flatMap_cons, EndedLine.chars, List.append_assoc, List.append_assoc, lines,
      linesFrom_unbroken line.unbroken, filterMap_linesFrom_end silent line.ends, ih]
    cases told : read line.text <;> simp [told]

end

end MusicFiling.Text
