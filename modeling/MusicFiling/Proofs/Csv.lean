import MusicFiling.Csv
import MusicFiling.Proofs.Path

/-!
# Reading back rows

Rows of two or more fields are read back as they were written, whatever characters the fields hold,
as long as no field is too large to be read. Stray bytes cannot be written, so that rows are read
back from their characters.
-/

namespace MusicFiling.Csv

/-- Whether a field of characters must be quoted. -/
def quotes (field : List Char) : Bool := needsQuotes (field.map .char)

/-- A field of characters as it is written. -/
def fieldChars (field : List Char) : List Char := (writeField (field.map .char)).map Letter.shown

/-- A row of strings as it is written. -/
def rowChars (fields : List String) : List Char :=
  (writeRow (fields.map Text.letters)).map Letter.shown

private theorem quotes_eq (field : List Char) :
    quotes field = field.any fun c => c ∈ [',', '"', '\r', '\n'] := by
  simp [quotes, needsQuotes, List.any_map, Function.comp_def]

theorem fieldChars_eq (field : List Char) :
    fieldChars field = if quotes field then
        '"' :: field.flatMap (fun c => if c = '"' then ['"', '"'] else [c]) ++ ['"']
      else field := by
  have doubled : ∀ c : Char,
      (if c = '"' then [.char c, .char c] else [.char c] : List Letter).map Letter.shown =
        if c = '"' then ['"', '"'] else [c] := by
    intro c
    by_cases quote : c = '"' <;> simp [quote, Letter.shown]
  unfold fieldChars writeField
  change List.map _ (if quotes field then _ else _) = _
  split_ifs
  · simp [List.map_flatMap, List.flatMap_map, doubled, Letter.shown]
  · simp [Function.comp_def, Letter.shown]

theorem rowChars_single (field : String) :
    rowChars [field] = fieldChars field.toList ++ ['\r', '\n'] := by
  simp [rowChars, writeRow, fieldChars, Text.letters, Letter.shown]

theorem rowChars_cons (field second : String) (rest : List String) :
    rowChars (field :: second :: rest) =
      fieldChars field.toList ++ ',' :: rowChars (second :: rest) := by
  simp [rowChars, writeRow, fieldChars, Text.letters, Letter.shown, List.intercalate]

private theorem mem_writeField {field : List Letter} {l : Letter} (unquoted : l ≠ .char '"') :
    l ∈ writeField field ↔ l ∈ field := by
  have doubled : ∀ l' : Letter, l ∈ (if l' = .char '"' then [l', l'] else [l']) ↔ l = l' := by
    intro l'
    split_ifs <;> simp
  unfold writeField
  split_ifs
  · simp [doubled, unquoted]
  · rfl

private theorem plain_writeField {field : List Letter} :
    Text.Plain (writeField field) ↔ Text.Plain field := by
  refine forall_congr' fun l => ?_
  by_cases quote : l = .char '"'
  · simp [quote, Letter.isChar]
  · rw [mem_writeField quote]

/-- Writing a row adds no stray bytes, and loses none. -/
theorem plain_writeRow {fields : List (List Letter)} :
    Text.Plain (writeRow fields) ↔ ∀ field ∈ fields, Text.Plain field := by
  have ended : Text.Plain [.char '\r', .char '\n'] := by decide
  rw [writeRow, Text.plain_append, and_iff_left ended, Text.plain_intercalate (by decide),
    List.forall_mem_map]
  exact forall₂_congr fun field _ => plain_writeField

namespace Reader

/-- A character that a bare field may hold. -/
def Bare (c : Char) : Prop :=
  c ≠ ',' ∧ c ≠ '"' ∧ c ≠ '\r' ∧ c ≠ '\n'

theorem quotes_eq_false {field : List Char} (plain : quotes field = false) :
    ∀ c ∈ field, Bare c := by
  intro c member
  rw [quotes_eq] at plain
  have plain := List.any_eq_false.mp plain c member
  simpa [Bare, not_or] using plain

variable (row : List String) (rows : List (List String))

theorem step_bare_first {mode : Mode} (first : mode = .rowStart ∨ mode = .fieldStart)
    (lineOpen : Bool) {c : Char} (bare : Bare c) :
    step ⟨mode, [], 0, row, rows, lineOpen, false⟩ c =
      .ok ⟨.bare, [c], 1, row, rows, true, false⟩ := by
  obtain ⟨noComma, noQuote, noReturn, noFeed⟩ := bare
  rcases first with rfl | rfl <;>
    simp [step, readChar, beginField, addChar, fieldLimit, bind, Except.bind, pure, Except.pure, *]

theorem step_bare {field : List Char} {size : Nat} (fits : size < fieldLimit) {c : Char}
    (bare : Bare c) :
    step ⟨.bare, field, size, row, rows, true, false⟩ c =
      .ok ⟨.bare, c :: field, size + 1, row, rows, true, false⟩ := by
  obtain ⟨noComma, noQuote, noReturn, noFeed⟩ := bare
  simp [step, readChar, addChar, Nat.not_le.mpr fits, bind, Except.bind, pure, Except.pure, *]

theorem read_bare (cs : List Char) {field : List Char} {size : Nat}
    (fits : size + cs.length ≤ fieldLimit) (bare : ∀ c ∈ cs, Bare c) :
    cs.foldlM step ⟨.bare, field, size, row, rows, true, false⟩ =
      .ok ⟨.bare, cs.reverse ++ field, size + cs.length, row, rows, true, false⟩ := by
  induction cs generalizing field size with
  | nil => rfl
  | cons c rest ih =>
    obtain ⟨here, later⟩ := List.forall_mem_cons.mp bare
    simp only [List.length_cons] at fits
    rw [List.foldlM_cons, step_bare row rows (by omega) here]
    simp only [bind, Except.bind]
    rw [ih (by omega) later]
    simp
    omega

theorem step_openQuote {mode : Mode} (first : mode = .rowStart ∨ mode = .fieldStart)
    (lineOpen : Bool) :
    step ⟨mode, [], 0, row, rows, lineOpen, false⟩ '"' =
      .ok ⟨.quoted, [], 0, row, rows, true, false⟩ := by
  rcases first with rfl | rfl <;>
    simp [step, readChar, beginField, bind, Except.bind, pure, Except.pure]

/-- A line that ends between quotes has no effect but on the marks of lines. -/
theorem endLine_quoted (field : List Char) (size : Nat) (lineOpen returnSeen : Bool) (c : Char) :
    ∃ lineOpen' returnSeen',
      (if returnSeen = true ∧ c ≠ '\n' then
        endLine ⟨.quoted, field, size, row, rows, lineOpen, returnSeen⟩
      else ⟨.quoted, field, size, row, rows, lineOpen, returnSeen⟩) =
        ⟨.quoted, field, size, row, rows, lineOpen', returnSeen'⟩ := by
  split_ifs
  · exact ⟨false, false, rfl⟩
  · exact ⟨lineOpen, returnSeen, rfl⟩

theorem step_quoted {field : List Char} {size : Nat} (fits : size < fieldLimit)
    (lineOpen returnSeen : Bool) {c : Char} (noQuote : c ≠ '"') :
    ∃ lineOpen' returnSeen', step ⟨.quoted, field, size, row, rows, lineOpen, returnSeen⟩ c =
      .ok ⟨.quoted, c :: field, size + 1, row, rows, lineOpen', returnSeen'⟩ := by
  obtain ⟨_, _, ended⟩ := endLine_quoted row rows field size lineOpen returnSeen c
  have room : ¬size ≥ fieldLimit := Nat.not_le.mpr fits
  unfold step
  simp only [ended, readChar, addChar, noQuote, room, if_false, bind, Except.bind, pure,
    Except.pure]
  split_ifs
  · exact ⟨false, false, rfl⟩
  · exact ⟨_, _, rfl⟩

/-- A quote between quotes may close the field. -/
theorem step_quote {field : List Char} {size : Nat} (lineOpen returnSeen : Bool) :
    step ⟨.quoted, field, size, row, rows, lineOpen, returnSeen⟩ '"' =
      .ok ⟨.quoteSeen, field, size, row, rows, true, false⟩ := by
  obtain ⟨_, _, ended⟩ := endLine_quoted row rows field size lineOpen returnSeen '"'
  unfold step
  simp only [ended, readChar, if_true, bind, Except.bind, pure, Except.pure]
  rfl

/-- A second quote takes the first one back. -/
theorem step_quote_again {field : List Char} {size : Nat} (fits : size < fieldLimit) :
    step ⟨.quoteSeen, field, size, row, rows, true, false⟩ '"' =
      .ok ⟨.quoted, '"' :: field, size + 1, row, rows, true, false⟩ := by
  simp [step, readChar, addChar, Nat.not_le.mpr fits, bind, Except.bind, pure, Except.pure]

theorem read_quoted (cs field : List Char) (size : Nat) (fits : size + cs.length ≤ fieldLimit)
    (lineOpen returnSeen : Bool) :
    ∃ lineOpen' returnSeen',
      (cs.flatMap fun c => if c = '"' then ['"', '"'] else [c]).foldlM step
          ⟨.quoted, field, size, row, rows, lineOpen, returnSeen⟩ =
        .ok ⟨.quoted, cs.reverse ++ field, size + cs.length, row, rows, lineOpen', returnSeen'⟩ := by
  induction cs generalizing field size lineOpen returnSeen with
  | nil => exact ⟨lineOpen, returnSeen, rfl⟩
  | cons c rest ih =>
    simp only [List.length_cons] at fits
    have rest' : ∀ lineOpen returnSeen, ∃ lineOpen' returnSeen',
        (rest.flatMap fun c => if c = '"' then ['"', '"'] else [c]).foldlM step
            ⟨.quoted, c :: field, size + 1, row, rows, lineOpen, returnSeen⟩ =
          .ok ⟨.quoted, (c :: rest).reverse ++ field, size + (c :: rest).length, row, rows,
            lineOpen', returnSeen'⟩ := by
      intro lineOpen returnSeen
      obtain ⟨_, _, read⟩ := ih (c :: field) (size + 1) (by omega) lineOpen returnSeen
      exact ⟨_, _, by simpa [Nat.add_assoc, Nat.add_comm 1] using read⟩
    rw [List.flatMap_cons, List.foldlM_append]
    by_cases quote : c = '"'
    · subst quote
      obtain ⟨lineOpen', returnSeen', read⟩ := rest' true false
      refine ⟨lineOpen', returnSeen', ?_⟩
      simp only [if_true, List.foldlM_cons, List.foldlM_nil, step_quote, bind, Except.bind,
        step_quote_again row rows (by omega : size < fieldLimit), pure, Except.pure]
      exact read
    · obtain ⟨opened, seen, first⟩ := step_quoted row rows (by omega : size < fieldLimit) lineOpen
        returnSeen quote
      obtain ⟨lineOpen', returnSeen', read⟩ := rest' opened seen
      refine ⟨lineOpen', returnSeen', ?_⟩
      rw [if_neg quote, List.foldlM_cons, first]
      exact read

/-- After the text of a field, before the comma or the line end that closes it. -/
structure Finished (start : Mode) (cs : List Char) (row : List String) (rows : List (List String))
    (r : Reader) : Prop where
  field : r.field = cs.reverse
  row : r.row = row
  rows : r.rows = rows
  closed : r.returnSeen = false
  mode : r.mode = start ∧ cs = [] ∨ r.mode = .bare ∨ r.mode = .quoteSeen

theorem read_field {mode : Mode} (first : mode = .rowStart ∨ mode = .fieldStart) (cs : List Char)
    (fits : cs.length ≤ fieldLimit) (lineOpen : Bool) :
    ∃ r, (fieldChars cs).foldlM step ⟨mode, [], 0, row, rows, lineOpen, false⟩ = .ok r ∧
      Finished mode cs row rows r := by
  rw [fieldChars_eq]
  split_ifs with quoted
  · obtain ⟨_, _, read⟩ := read_quoted row rows cs [] 0 (by omega) true false
    refine ⟨⟨.quoteSeen, cs.reverse ++ [], 0 + cs.length, row, rows, true, false⟩, ?_,
      ⟨?_, rfl, rfl, rfl, .inr (.inr rfl)⟩⟩
    · rw [List.cons_append, List.foldlM_cons, step_openQuote row rows first]
      simp only [bind, Except.bind, List.foldlM_append, read, List.foldlM_cons, step_quote,
        List.foldlM_nil, pure, Except.pure]
    · simp
  · have bare := quotes_eq_false (by simpa using quoted)
    cases cs with
    | nil => exact ⟨_, rfl, rfl, rfl, rfl, rfl, .inl ⟨rfl, rfl⟩⟩
    | cons c rest =>
      obtain ⟨here, later⟩ := List.forall_mem_cons.mp bare
      simp only [List.length_cons] at fits
      refine ⟨⟨.bare, rest.reverse ++ [c], 1 + rest.length, row, rows, true, false⟩, ?_,
        ⟨?_, rfl, rfl, rfl, .inr (.inl rfl)⟩⟩
      · rw [List.foldlM_cons, step_bare_first row rows first lineOpen here]
        simp only [bind, Except.bind]
        exact read_bare row rows rest (by omega) later
      · simp

/-- Before the first field of a row, after the given rows. -/
def before (rows : List (List String)) : Reader :=
  ⟨.rowStart, [], 0, [], rows, false, false⟩

theorem step_comma {start : Mode} (first : start = .rowStart ∨ start = .fieldStart)
    {cs : List Char} {r : Reader} (finished : Finished start cs row rows r) :
    r.step ',' = .ok ⟨.fieldStart, [], 0, String.ofList cs :: row, rows, true, false⟩ := by
  obtain ⟨mode, field, size, row', rows', lineOpen, returnSeen⟩ := r
  obtain ⟨rfl, rfl, rfl, rfl, ended⟩ := finished
  rcases first with rfl | rfl <;> rcases ended with ⟨rfl, -⟩ | rfl | rfl <;>
    simp [step, readChar, beginField, saveField, bind, Except.bind, pure, Except.pure]

/-- A field that is further than the first, or not empty, has begun. -/
theorem Finished.begun {row : List String} {rows : List (List String)} {start : Mode}
    {cs : List Char} {r : Reader} (finished : Finished start cs row rows r)
    (some : start = .fieldStart ∨ cs ≠ []) :
    r.mode = .fieldStart ∨ r.mode = .bare ∨ r.mode = .quoteSeen := by
  rcases finished.mode with ⟨same, empty⟩ | ended
  · exact .inl (same.trans (some.resolve_right fun nonempty => nonempty empty))
  · exact .inr ended

private theorem read_rowEnd {start : Mode} {cs : List Char} {r : Reader}
    (finished : Finished start cs row rows r) (some : start = .fieldStart ∨ cs ≠ []) :
    ['\r', '\n'].foldlM step r =
      .ok (before ((String.ofList cs :: row).reverse :: rows)) := by
  have begun := finished.begun some
  obtain ⟨mode, field, size, row', rows', lineOpen, returnSeen⟩ := r
  obtain ⟨rfl, rfl, rfl, rfl, -⟩ := finished
  rcases begun with rfl | rfl | rfl <;>
    simp [step, readChar, beginField, endLine, saveField, saveRow, before, bind, Except.bind, pure,
      Except.pure]

/-- The fields of a row, of which the first may not stand alone and empty. -/
theorem read_fields {start : Mode} (first : start = .rowStart ∨ start = .fieldStart)
    (field : String) (fields : List String) (lineOpen : Bool)
    (fits : ∀ f ∈ field :: fields, f.length ≤ fieldLimit)
    (some : start = .fieldStart ∨ fields ≠ []) :
    (rowChars (field :: fields)).foldlM step ⟨start, [], 0, row, rows, lineOpen, false⟩ =
      .ok (before ((row.reverse ++ field :: fields) :: rows)) := by
  induction fields generalizing start field row lineOpen with
  | nil =>
    obtain ⟨r, read, finished⟩ := read_field row rows first field.toList
      (fits field (by simp)) lineOpen
    have further := some.resolve_right fun nonempty => nonempty rfl
    rw [rowChars_single, List.foldlM_append, read]
    simp only [bind, Except.bind]
    rw [read_rowEnd row rows finished (.inl further)]
    simp
  | cons second rest ih =>
    obtain ⟨here, later⟩ := List.forall_mem_cons.mp fits
    obtain ⟨r, read, finished⟩ := read_field row rows first field.toList here lineOpen
    rw [rowChars_cons, List.foldlM_append, read]
    simp only [bind, Except.bind, List.foldlM_cons, step_comma row rows first finished]
    rw [ih _ (.inr rfl) second _ later (.inl rfl)]
    simp

theorem exists_of_wide {row : List String} (wide : 1 < row.length) :
    ∃ field second rest, row = field :: second :: rest := by
  match row with
  | field :: second :: rest => exact ⟨field, second, rest, rfl⟩
  | [_] => simp at wide
  | [] => simp at wide

private theorem read_rows (written rows : List (List String))
    (wide : ∀ row ∈ written, 1 < row.length)
    (fits : ∀ row ∈ written, ∀ field ∈ row, field.length ≤ fieldLimit) :
    (written.flatMap rowChars).foldlM step (before rows) =
      .ok (before (written.reverse ++ rows)) := by
  induction written generalizing rows with
  | nil => rfl
  | cons row rest ih =>
    obtain ⟨here, later⟩ := List.forall_mem_cons.mp wide
    obtain ⟨small, smaller⟩ := List.forall_mem_cons.mp fits
    obtain ⟨field, second, fields, rfl⟩ := exists_of_wide here
    rw [List.flatMap_cons, List.foldlM_append, before,
      read_fields [] rows (.inl rfl) field (second :: fields) false small (.inr nofun)]
    simp only [bind, Except.bind]
    rw [ih _ later smaller]
    simp

end Reader

/-- Rows of two or more fields are read back as they were written. -/
theorem readRows_rowChars (rows : List (List String)) (wide : ∀ row ∈ rows, 1 < row.length)
    (fits : ∀ row ∈ rows, ∀ field ∈ row, field.length ≤ fieldLimit) :
    readRows (rows.flatMap rowChars) = .ok rows := by
  have read := Reader.read_rows rows [] wide fits
  have start : Reader.start = Reader.before [] := rfl
  rw [readRows, start, read]
  simp [Functor.map, Except.map, Reader.finish, Reader.before]

end MusicFiling.Csv
