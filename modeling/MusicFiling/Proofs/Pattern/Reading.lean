import MusicFiling.Pattern.Scan

/-!
# Reading several characters

What a single character does in each mode, and what a text does: reading a text from a scan is
reading its parts one after another. Within a token most characters do the same as the one before.
Ordinary characters lengthen a name or an addendum, and everything but the closer is skipped.
-/

namespace MusicFiling

/-- Characters without a meaning of their own. -/
def Ordinary (c : Char) : Prop := c ≠ opener ∧ c ∉ markers

theorem Ordinary.ne_closer {c : Char} (ordinary : Ordinary c) : c ≠ closer :=
  fun same => ordinary.2 (by simp [markers, same])

theorem closer_mem_markers : closer ∈ markers := by decide

theorem fallbackMarker_mem_markers : fallbackMarker ∈ markers := by decide

theorem addendumMarker_mem_markers : addendumMarker ∈ markers := by decide

theorem mem_markers_iff {c : Char} :
    c ∈ markers ↔ c = closer ∨ c = fallbackMarker ∨ c = addendumMarker := by
  simp [markers]

private theorem ne_opener_of_mem_markers {c : Char} (marker : c ∈ markers) : c ≠ opener := by
  rintro rfl
  revert marker
  decide

theorem opener_or_marker_or_ordinary (c : Char) : c = opener ∨ c ∈ markers ∨ Ordinary c := by
  by_cases opens : c = opener
  · exact .inl opens
  · by_cases marker : c ∈ markers
    · exact .inr (.inl marker)
    · exact .inr (.inr ⟨opens, marker⟩)

namespace Scan

section
variable (source : TagSource) (placeholder : String)

section
variable {source placeholder} {position openedAt : Nat} {name : List Char} {fallback : Bool}
  {fragments : List String} {c : Char}

theorem step_plain_opener :
    step source placeholder ⟨position, .plain, fragments⟩ opener =
      .ok ⟨position + 1, .naming position [] false, fragments⟩ := by
  simp [step, enter]

theorem step_plain_marker (marker : c ∈ markers) :
    step source placeholder ⟨position, .plain, fragments⟩ c =
      .error (.unexpectedCloser c position) := by
  simp [step, ne_opener_of_mem_markers marker, marker]

theorem step_plain_ordinary (ordinary : Ordinary c) :
    step source placeholder ⟨position, .plain, fragments⟩ c =
      .ok ⟨position + 1, .plain, c.toString :: fragments⟩ := by
  simp [step, emit, ordinary.1, ordinary.2]

theorem step_naming_opener :
    step source placeholder ⟨position, .naming openedAt name fallback, fragments⟩ opener =
      .error (.nestedOpener position) := by
  simp [step]

theorem step_naming_marker (marker : c ∈ markers) :
    step source placeholder ⟨position, .naming openedAt name fallback, fragments⟩ c =
      settle source placeholder ⟨position, .naming openedAt name fallback, fragments⟩ openedAt name
        fallback c := by
  simp [step, ne_opener_of_mem_markers marker, marker]

theorem step_naming_ordinary (ordinary : Ordinary c) :
    step source placeholder ⟨position, .naming openedAt name fallback, fragments⟩ c =
      .ok ⟨position + 1, .naming openedAt (c :: name) fallback, fragments⟩ := by
  simp [step, enter, ordinary.1, ordinary.2]

theorem step_skipping_closer :
    step source placeholder ⟨position, .skipping openedAt, fragments⟩ closer =
      .ok ⟨position + 1, .plain, fragments⟩ := by
  simp [step, enter]

theorem step_skipping_other (other : c ≠ closer) :
    step source placeholder ⟨position, .skipping openedAt, fragments⟩ c =
      .ok ⟨position + 1, .skipping openedAt, fragments⟩ := by
  simp [step, enter, other]

theorem step_addendum_closer :
    step source placeholder ⟨position, .addendum openedAt, fragments⟩ closer =
      .ok ⟨position + 1, .plain, fragments⟩ := by
  simp [step, enter]

theorem step_addendum_marker (other : c ≠ closer) (marker : c ∈ markers) :
    step source placeholder ⟨position, .addendum openedAt, fragments⟩ c =
      .ok ⟨position + 1, .skipping openedAt, fragments⟩ := by
  simp [step, enter, other, marker]

theorem step_addendum_other (other : c ∉ markers) :
    step source placeholder ⟨position, .addendum openedAt, fragments⟩ c =
      .ok ⟨position + 1, .addendum openedAt, c.toString :: fragments⟩ := by
  have open_ : c ≠ closer := fun same => other (same ▸ closer_mem_markers)
  simp [step, emit, open_, other]

end

section
variable {source placeholder} {scan : Scan} {openedAt : Nat} {name : List Char} {fallback : Bool}
  {c : Char}

theorem settle_unknown (unknown : Tag.ofName? (String.ofList name.reverse) = none) :
    scan.settle source placeholder openedAt name fallback c =
      .error (.unknownTag (String.ofList name.reverse) scan.position) := by
  simp [settle, unknown]

theorem settle_present {tag : Tag} {value : String}
    (named : Tag.ofName? (String.ofList name.reverse) = some tag)
    (present : source tag = some value) :
    scan.settle source placeholder openedAt name fallback c =
      .ok (scan.emit (sanitize placeholder value) <|
        if c = closer then .plain
        else if c = addendumMarker ∧ !fallback then .addendum openedAt
        else .skipping openedAt) := by
  simp [settle, named, present]

theorem settle_missing {tag : Tag}
    (named : Tag.ofName? (String.ofList name.reverse) = some tag) (missing : source tag = none) :
    scan.settle source placeholder openedAt name fallback c =
      .ok (if c = fallbackMarker then scan.enter (.naming openedAt [] true)
        else if c = closer then scan.emit placeholder .plain
        else scan.enter (.skipping openedAt)) := by
  simp [settle, named, missing]

end

/-- Reads the characters of a text one after another. -/
def read (scan : Scan) (text : List Char) : Except PatternError Scan :=
  text.foldlM (Scan.step source placeholder) scan

theorem compilePattern_eq_read (pattern : String) :
    compilePattern source placeholder pattern =
      (Scan.start.read source placeholder pattern.toList >>= Scan.finish) := rfl

@[simp] theorem read_nil (scan : Scan) : scan.read source placeholder [] = .ok scan := rfl

theorem read_cons (scan : Scan) (c : Char) (text : List Char) :
    scan.read source placeholder (c :: text) =
      (scan.step source placeholder c >>= fun next => next.read source placeholder text) := rfl

theorem read_cons_of_step {scan next : Scan} {c : Char} (text : List Char)
    (stepped : scan.step source placeholder c = .ok next) :
    scan.read source placeholder (c :: text) = next.read source placeholder text := by
  rw [read_cons, stepped]
  rfl

private theorem read_append (scan : Scan) (first second : List Char) :
    scan.read source placeholder (first ++ second) =
      (scan.read source placeholder first >>= fun next => next.read source placeholder second) :=
  List.foldlM_append

theorem read_append_of_read {scan next : Scan} {first : List Char} (second : List Char)
    (passed : scan.read source placeholder first = .ok next) :
    scan.read source placeholder (first ++ second) = next.read source placeholder second := by
  rw [read_append, passed]
  rfl

theorem read_naming_ordinary (openedAt : Nat) (fallback : Bool) (fragments : List String)
    {text : List Char} (ordinary : ∀ c ∈ text, Ordinary c) (position : Nat) (name : List Char) :
    read source placeholder ⟨position, .naming openedAt name fallback, fragments⟩ text =
      .ok ⟨position + text.length, .naming openedAt (text.reverse ++ name) fallback, fragments⟩ := by
  induction text generalizing position name with
  | nil => rfl
  | cons c rest ih =>
    have head : Ordinary c := ordinary c List.mem_cons_self
    rw [read_cons_of_step source placeholder rest
        (step_naming_ordinary head),
      ih fun d member => ordinary d (List.mem_cons_of_mem c member)]
    simp [Nat.add_comm, Nat.add_left_comm]

private theorem read_skipping (openedAt : Nat) (fragments : List String) {text : List Char}
    (unclosed : closer ∉ text) (position : Nat) :
    read source placeholder ⟨position, .skipping openedAt, fragments⟩ text =
      .ok ⟨position + text.length, .skipping openedAt, fragments⟩ := by
  induction text generalizing position with
  | nil => rfl
  | cons c rest ih =>
    simp only [List.mem_cons, not_or] at unclosed
    rw [read_cons_of_step source placeholder rest
        (step_skipping_other (Ne.symm unclosed.1)),
      ih unclosed.2]
    simp [Nat.add_comm, Nat.add_left_comm]

theorem read_skipping_closed (openedAt : Nat) (fragments : List String) {text : List Char}
    (unclosed : closer ∉ text) (position : Nat) :
    read source placeholder ⟨position, .skipping openedAt, fragments⟩ (text ++ [closer]) =
      .ok ⟨position + (text ++ [closer]).length, .plain, fragments⟩ := by
  rw [read_append_of_read source placeholder [closer]
    (read_skipping source placeholder openedAt fragments unclosed position),
    read_cons_of_step source placeholder [] step_skipping_closer]
  simp [Nat.add_assoc]

/-- An addendum is kept up to its first marker. -/
theorem read_addendum_closed (openedAt : Nat) {text : List Char} (unclosed : closer ∉ text)
    (position : Nat) (fragments : List String) :
    read source placeholder ⟨position, .addendum openedAt, fragments⟩ (text ++ [closer]) =
      .ok ⟨position + (text ++ [closer]).length, .plain,
        ((text.takeWhile fun c => c ≠ fallbackMarker ∧ c ≠ addendumMarker).map
          Char.toString).reverse ++ fragments⟩ := by
  induction text generalizing position fragments with
  | nil =>
    rw [List.nil_append, read_cons_of_step source placeholder []
      step_addendum_closer]
    rfl
  | cons c rest ih =>
    simp only [List.mem_cons, not_or] at unclosed
    have open_ : c ≠ closer := Ne.symm unclosed.1
    by_cases marker : c ∈ markers
    · -- From a marker on the rest of the token is skipped.
      have ends : ¬ (c ≠ fallbackMarker ∧ c ≠ addendumMarker) := by
        rintro ⟨first, second⟩
        exact (mem_markers_iff.mp marker).elim open_ fun later => later.elim first second
      rw [List.cons_append, read_cons_of_step source placeholder _
          (step_addendum_marker open_ marker),
        read_skipping_closed source placeholder openedAt fragments unclosed.2]
      simp [ends, Nat.add_assoc, Nat.add_comm 1]
    · have kept : c ≠ fallbackMarker ∧ c ≠ addendumMarker :=
        ⟨fun same => marker (mem_markers_iff.mpr (.inr (.inl same))),
          fun same => marker (mem_markers_iff.mpr (.inr (.inr same)))⟩
      rw [List.cons_append, read_cons_of_step source placeholder _
          (step_addendum_other marker),
        ih unclosed.2]
      simp [kept, Nat.add_assoc, Nat.add_comm 1]

end

end Scan

end MusicFiling
