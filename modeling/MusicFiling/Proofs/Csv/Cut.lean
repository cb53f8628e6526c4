import MusicFiling.Proofs.Csv

/-!
# Rows that are cut short

A text of rows that breaks off anywhere is read without complaint: the rows before the break as they
were written, and of the row in which it breaks off the fields that are whole and then what is there
of the next one. Of a quoted field this is every character that is there as a whole, for half a
doubled quote counts as the end of the field.
-/

namespace MusicFiling.Csv

/-- The characters of a field that are whole among the first `n` characters between its quotes. -/
def unquoted : List Char → Nat → List Char
  | [], _ => []
  | c :: rest, n =>
    let width := if c = '"' then 2 else 1
    if width ≤ n then c :: unquoted rest (n - width) else []

/-- What is read of a field of which the first `n` written characters are left. -/
def legible (field : List Char) (n : Nat) : List Char :=
  if quotes field then unquoted field (n - 1) else field.take n

/-- What is read of a row of which the first `n` written characters are left, at least one. -/
def cutRow : List String → Nat → List String
  | [], _ => []
  | [field], n => [String.ofList (legible field.toList n)]
  | field :: second :: rest, n =>
    let width := (fieldChars field.toList).length
    if n ≤ width then [String.ofList (legible field.toList n)]
    else field :: cutRow (second :: rest) (n - (width + 1))

/-- What is read of rows of which the first `n` written characters are left. -/
def cutRows : List (List String) → Nat → List (List String)
  | [], _ => []
  | row :: rest, n =>
    let width := (rowChars row).length
    if n = 0 then []
    else if n < width then [cutRow row n]
    else row :: cutRows rest (n - width)

/-- The first characters of a quoted field are those of the characters that are whole, and perhaps
    half a doubled quote or the closing one. -/
theorem take_quoted (cs : List Char) (n : Nat) :
    ∃ half, (half = [] ∨ half = ['"']) ∧
      ((cs.flatMap fun c => if c = '"' then ['"', '"'] else [c]) ++ ['"']).take n =
        ((unquoted cs n).flatMap fun c => if c = '"' then ['"', '"'] else [c]) ++ half := by
  induction cs generalizing n with
  | nil =>
    cases n with
    | zero => exact ⟨[], .inl rfl, rfl⟩
    | succ n => exact ⟨['"'], .inr rfl, by simp [unquoted]⟩
  | cons c rest ih =>
    by_cases quote : c = '"'
    · subst quote
      match n with
      | 0 => exact ⟨[], .inl rfl, by simp [unquoted]⟩
      | 1 => exact ⟨['"'], .inr rfl, by simp [unquoted]⟩
      | n + 2 =>
        obtain ⟨half, ends, same⟩ := ih n
        refine ⟨half, ends, ?_⟩
        simpa [unquoted] using same
    · cases n with
      | zero => exact ⟨[], .inl rfl, by simp [unquoted, quote]⟩
      | succ n =>
        obtain ⟨half, ends, same⟩ := ih n
        refine ⟨half, ends, ?_⟩
        simpa [unquoted, quote] using same

@[simp] theorem unquoted_zero (cs : List Char) : unquoted cs 0 = [] := by
  cases cs with
  | nil => rfl
  | cons c rest => by_cases quote : c = '"' <;> simp [unquoted, quote]

private theorem unquoted_whole {cs : List Char} {n : Nat}
    (whole : (cs.flatMap fun c => if c = '"' then ['"', '"'] else [c]).length ≤ n) :
    unquoted cs n = cs := by
  induction cs generalizing n with
  | nil => rfl
  | cons c rest ih =>
    rw [List.flatMap_cons, List.length_append] at whole
    by_cases quote : c = '"'
    · simp only [quote, if_true, List.length_cons, List.length_nil] at whole
      simp only [unquoted, quote, if_true]
      rw [if_pos (by omega), ih (by omega)]
    · simp only [quote, if_false, List.length_cons, List.length_nil] at whole
      simp only [unquoted, quote, if_false]
      rw [if_pos (by omega), ih (by omega)]

/-- A field that is there as a whole is read as a whole. -/
theorem legible_whole {field : List Char} {n : Nat} (whole : (fieldChars field).length ≤ n) :
    legible field n = field := by
  rw [fieldChars_eq] at whole
  unfold legible
  split_ifs at whole ⊢ with quoted
  · simp only [List.length_append, List.length_cons, List.length_nil] at whole
    exact unquoted_whole (by omega)
  · exact List.take_of_length_le whole

private theorem length_unquoted_le (cs : List Char) (n : Nat) :
    (unquoted cs n).length ≤ cs.length := by
  induction cs generalizing n with
  | nil => exact Nat.le_refl _
  | cons c rest ih =>
    simp only [unquoted]
    split_ifs
    · exact Nat.succ_le_succ (ih _)
    · exact Nat.zero_le _
    · exact Nat.succ_le_succ (ih _)
    · exact Nat.zero_le _

private theorem length_legible_le (field : List Char) (n : Nat) :
    (legible field n).length ≤ field.length := by
  unfold legible
  split_ifs
  · exact length_unquoted_le field _
  · exact List.length_take_le' n field

/-- What is left of a row has no longer fields than the row. -/
theorem length_le_of_mem_cutRow {row : List String} {n : Nat} {bound : Nat}
    (fits : ∀ field ∈ row, field.length ≤ bound) :
    ∀ field ∈ cutRow row n, field.length ≤ bound := by
  induction row generalizing n with
  | nil => simp [cutRow]
  | cons field fields ih =>
    obtain ⟨here, later⟩ := List.forall_mem_cons.mp fits
    have part : (String.ofList (legible field.toList n)).length ≤ bound := by
      rw [String.length_ofList]
      exact Nat.le_trans (length_legible_le _ _) here
    cases fields with
    | nil => simpa [cutRow] using part
    | cons second rest =>
      rw [cutRow]
      split_ifs
      · simpa using part
      · exact List.forall_mem_cons.mpr ⟨here, ih later⟩

theorem length_le_of_mem_cutRows {rows : List (List String)} {n : Nat} {bound : Nat}
    (fits : ∀ row ∈ rows, ∀ field ∈ row, field.length ≤ bound) :
    ∀ row ∈ cutRows rows n, ∀ field ∈ row, field.length ≤ bound := by
  induction rows generalizing n with
  | nil => simp [cutRows]
  | cons row rest ih =>
    obtain ⟨here, later⟩ := List.forall_mem_cons.mp fits
    rw [cutRows]
    split_ifs
    · simp
    · simpa using length_le_of_mem_cutRow here
    · exact List.forall_mem_cons.mpr ⟨here, ih later⟩

private theorem cutRow_whole {row : List String} {n : Nat} (whole : (rowChars row).length ≤ n) :
    cutRow row n = row := by
  induction row generalizing n with
  | nil => rfl
  | cons field fields ih =>
    cases fields with
    | nil =>
      rw [rowChars_single, List.length_append] at whole
      simp [cutRow, legible_whole (Nat.le_of_add_right_le whole)]
    | cons second rest =>
      rw [rowChars_cons, List.length_append, List.length_cons] at whole
      rw [cutRow, if_neg (by omega), ih (by omega)]

namespace Reader

variable (row : List String) (rows : List (List String))

/-- After a part of a field, on a line that has begun or between quotes. -/
structure Broken (cs : List Char) (row : List String) (rows : List (List String)) (r : Reader) :
    Prop where
  field : r.field = cs.reverse
  row : r.row = row
  rows : r.rows = rows
  mode : r.mode = .quoted ∨ r.lineOpen = true ∧ r.mode ≠ .rowStart

/-- Where the text ends within a field, the field and its row end. -/
theorem Broken.finish {row : List String} {rows : List (List String)} {cs : List Char} {r : Reader}
    (broken : Broken cs row rows r) :
    r.finish = ((String.ofList cs :: row).reverse :: rows).reverse := by
  obtain ⟨mode, field, size, row', rows', lineOpen, returnSeen⟩ := r
  obtain ⟨rfl, rfl, rfl, state⟩ := broken
  rcases state with rfl | ⟨rfl, begun⟩
  · cases lineOpen <;> simp [Reader.finish, endLine, saveField, saveRow]
  · cases mode with
    | rowStart => exact absurd rfl begun
    | _ => simp [Reader.finish, endLine, saveField, saveRow]

/-- A part of a field that is not too large. -/
theorem read_cutField {mode : Mode} (first : mode = .rowStart ∨ mode = .fieldStart)
    (cs : List Char) (n : Nat) (lineOpen : Bool)
    (begun : mode = .fieldStart ∧ lineOpen = true ∨ (fieldChars cs).take n ≠ [])
    (fits : (legible cs n).length ≤ fieldLimit) :
    ∃ r, ((fieldChars cs).take n).foldlM step ⟨mode, [], 0, row, rows, lineOpen, false⟩ = .ok r ∧
      Broken (legible cs n) row rows r := by
  have idle : ∀ part, part = [] → mode = .fieldStart ∧ lineOpen = true ∨ part ≠ [] →
      ∃ r, part.foldlM step ⟨mode, [], 0, row, rows, lineOpen, false⟩ = .ok r ∧
        Broken [] row rows r := by
    rintro _ rfl (⟨rfl, rfl⟩ | some)
    · exact ⟨_, rfl, rfl, rfl, rfl, .inr ⟨rfl, by simp⟩⟩
    · exact absurd rfl some
  unfold legible at *
  rw [fieldChars_eq] at *
  by_cases quoted : quotes cs = true
  · simp only [quoted, if_true] at begun fits ⊢
    cases n with
    | zero =>
      simpa using idle [] rfl (by simpa using begun)
    | succ n =>
      simp only [Nat.add_sub_cancel] at fits ⊢
      obtain ⟨half, ends, parts⟩ := take_quoted cs n
      obtain ⟨lineOpen', returnSeen', read⟩ :=
        read_quoted row rows (unquoted cs n) [] 0 (by omega) true false
      rw [List.cons_append, List.take_succ_cons, List.foldlM_cons, step_openQuote row rows first,
        parts]
      simp only [bind, Except.bind, List.foldlM_append, read]
      rcases ends with rfl | rfl
      · exact ⟨_, rfl, by simp, rfl, rfl, .inl rfl⟩
      · simp only [List.foldlM_cons, step_quote, bind, Except.bind, List.foldlM_nil]
        exact ⟨_, rfl, by simp, rfl, rfl, .inr ⟨rfl, by simp⟩⟩
  · simp only [quoted, Bool.false_eq_true, if_false] at begun fits ⊢
    have bare : ∀ c ∈ cs.take n, Bare c := by
      intro c member
      exact quotes_eq_false (by simpa using quoted) c (List.mem_of_mem_take member)
    generalize cs.take n = part at begun fits bare ⊢
    cases part with
    | nil => exact idle [] rfl begun
    | cons c rest =>
      obtain ⟨here, later⟩ := List.forall_mem_cons.mp bare
      simp only [List.length_cons] at fits
      rw [List.foldlM_cons, step_bare_first row rows first lineOpen here]
      simp only [bind, Except.bind]
      rw [read_bare row rows rest (by omega) later]
      exact ⟨_, rfl, by simp, rfl, rfl, .inr ⟨rfl, by simp⟩⟩

/-! ## Fields that are too large -/

private theorem read_bare_over (cs : List Char) {field : List Char} {size : Nat}
    (small : size ≤ fieldLimit) (large : fieldLimit < size + cs.length) (bare : ∀ c ∈ cs, Bare c) :
    cs.foldlM step ⟨.bare, field, size, row, rows, true, false⟩ = .error .fieldTooLarge := by
  induction cs generalizing field size with
  | nil => exact absurd large (Nat.not_lt.mpr small)
  | cons c rest ih =>
    obtain ⟨here, later⟩ := List.forall_mem_cons.mp bare
    simp only [List.length_cons] at large
    rw [List.foldlM_cons]
    by_cases room : size < fieldLimit
    · rw [step_bare row rows room here]
      exact ih (by omega) (by omega) later
    · obtain ⟨noComma, noQuote, noReturn, noFeed⟩ := here
      simp [step, readChar, addChar, Nat.not_lt.mp room, bind, Except.bind, *]

/-- Between quotes too, one character more than may be read is refused. -/
theorem read_quoted_over (cs : List Char) {field : List Char} {size : Nat}
    (small : size ≤ fieldLimit) (large : fieldLimit < size + cs.length)
    (lineOpen returnSeen : Bool) :
    (cs.flatMap fun c => if c = '"' then ['"', '"'] else [c]).foldlM step
      ⟨.quoted, field, size, row, rows, lineOpen, returnSeen⟩ = .error .fieldTooLarge := by
  induction cs generalizing field size lineOpen returnSeen with
  | nil => exact absurd large (Nat.not_lt.mpr small)
  | cons c rest ih =>
    simp only [List.length_cons] at large
    rw [List.flatMap_cons, List.foldlM_append]
    by_cases quote : c = '"'
    · subst quote
      simp only [if_true, List.foldlM_cons, step_quote, bind, Except.bind]
      by_cases room : size < fieldLimit
      · rw [step_quote_again row rows room]
        exact ih (by omega) (by omega) true false
      · simp [step, readChar, addChar, Nat.not_lt.mp room, bind, Except.bind]
    · rw [if_neg quote, List.foldlM_cons]
      by_cases room : size < fieldLimit
      · obtain ⟨lineOpen', returnSeen', read⟩ :=
          @step_quoted row rows field size room lineOpen returnSeen c quote
        rw [read]
        exact ih (by omega) (by omega) lineOpen' returnSeen'
      · obtain ⟨_, _, ended⟩ := endLine_quoted row rows field size lineOpen returnSeen c
        simp [step, ended, readChar, addChar, quote, Nat.not_lt.mp room, bind, Except.bind]

/-- A field of which more is left than may be read is refused, whatever comes after it. -/
theorem read_cutField_over {mode : Mode} (first : mode = .rowStart ∨ mode = .fieldStart)
    (cs tail : List Char) (n : Nat) (lineOpen : Bool)
    (large : fieldLimit < (legible cs n).length) :
    ((fieldChars cs ++ tail).take n).foldlM step ⟨mode, [], 0, row, rows, lineOpen, false⟩ =
      .error .fieldTooLarge := by
  suffices refused : ((fieldChars cs).take n).foldlM step
      ⟨mode, [], 0, row, rows, lineOpen, false⟩ = .error .fieldTooLarge by
    rw [List.take_append, List.foldlM_append, refused]
    rfl
  unfold legible at large
  rw [fieldChars_eq]
  by_cases quoted : quotes cs = true
  · simp only [quoted, if_true] at large ⊢
    cases n with
    | zero => simp at large
    | succ n =>
      simp only [Nat.add_sub_cancel] at large
      obtain ⟨half, -, parts⟩ := take_quoted cs n
      rw [List.cons_append, List.take_succ_cons, List.foldlM_cons, step_openQuote row rows first,
        parts]
      simp only [bind, Except.bind, List.foldlM_append]
      rw [read_quoted_over row rows (unquoted cs n) (Nat.zero_le _) (by omega) true false]
  · simp only [quoted, Bool.false_eq_true, if_false] at large ⊢
    have bare : ∀ c ∈ cs.take n, Bare c := by
      intro c member
      exact quotes_eq_false (by simpa using quoted) c (List.mem_of_mem_take member)
    generalize cs.take n = part at large bare ⊢
    cases part with
    | nil => simp at large
    | cons c rest =>
      obtain ⟨here, later⟩ := List.forall_mem_cons.mp bare
      simp only [List.length_cons] at large
      rw [List.foldlM_cons, step_bare_first row rows first lineOpen here]
      exact read_bare_over row rows rest (by decide) (by omega) later

/-! ## Parts of rows -/

/-- Before its line feed a carriage return has no effect on the row. -/
theorem step_return {start : Mode} {cs : List Char} {r : Reader}
    (finished : Finished start cs row rows r) (some : start = .fieldStart ∨ cs ≠ []) :
    ∃ r', r.step '\r' = .ok r' ∧ Broken cs row rows r' := by
  have begun := finished.begun some
  obtain ⟨mode, field, size, row', rows', lineOpen, returnSeen⟩ := r
  obtain ⟨rfl, rfl, rfl, rfl, -⟩ := finished
  refine ⟨⟨mode, cs.reverse, size, row', rows', true, true⟩, ?_, rfl, rfl, rfl, .inr ⟨rfl, ?_⟩⟩
  · rcases begun with rfl | rfl | rfl <;>
      simp [step, readChar, beginField, bind, Except.bind, pure, Except.pure]
  · rcases begun with rfl | rfl | rfl <;> simp

/-- A part of a row in which no field is too large. -/
theorem read_cutRow {start : Mode} (first : start = .rowStart ∨ start = .fieldStart)
    (field : String) (fields : List String) (n : Nat) (lineOpen : Bool)
    (short : n < (rowChars (field :: fields)).length)
    (begun : start = .fieldStart ∧ lineOpen = true ∨ 0 < n ∧ fields ≠ [])
    (fits : ∀ f ∈ cutRow (field :: fields) n, f.length ≤ fieldLimit) :
    finish <$> ((rowChars (field :: fields)).take n).foldlM step
        ⟨start, [], 0, row, rows, lineOpen, false⟩ =
      .ok (rows.reverse ++ [row.reverse ++ cutRow (field :: fields) n]) := by
  induction fields generalizing start field row lineOpen n with
  | nil =>
    have begun := begun.resolve_right fun further => further.2 rfl
    have small : (legible field.toList n).length ≤ fieldLimit := by
      simpa [cutRow] using fits
    rw [rowChars_single] at short ⊢
    by_cases inside : n ≤ (fieldChars field.toList).length
    · obtain ⟨r, read, broken⟩ :=
        read_cutField row rows first field.toList n lineOpen (.inl begun) small
      rw [List.take_append_of_le_length inside, read]
      simp [Functor.map, Except.map, broken.finish, cutRow]
    · have last : n = (fieldChars field.toList).length + 1 := by
        simp only [List.length_append, List.length_cons, List.length_nil] at short
        omega
      have whole : legible field.toList n = field.toList := legible_whole (by omega)
      rw [whole] at small
      obtain ⟨r, read, finished⟩ := read_field row rows first field.toList small lineOpen
      obtain ⟨r', ended, broken⟩ := step_return row rows finished (.inl begun.1)
      rw [last, List.take_length_add_append, List.foldlM_append, read]
      simp [bind, Except.bind, pure, Except.pure, ended, Functor.map, Except.map, broken.finish,
        cutRow, ← last, whole]
  | cons second rest ih =>
    rw [rowChars_cons] at short ⊢
    by_cases inside : n ≤ (fieldChars field.toList).length
    · simp only [cutRow, inside, if_true, List.mem_singleton, forall_eq] at fits ⊢
      have some : start = .fieldStart ∧ lineOpen = true ∨
          (fieldChars field.toList).take n ≠ [] := by
        refine begun.imp_right fun further => ?_
        intro empty
        have lengths := congrArg List.length empty
        simp only [List.length_take, List.length_nil] at lengths
        omega
      obtain ⟨r, read, broken⟩ :=
        read_cutField row rows first field.toList n lineOpen some (by simpa using fits)
      rw [List.take_append_of_le_length inside, read]
      simp [Functor.map, Except.map, broken.finish]
    · obtain ⟨m, rfl⟩ : ∃ m, n = (fieldChars field.toList).length + (m + 1) :=
        ⟨n - ((fieldChars field.toList).length + 1), by omega⟩
      have rest' : (fieldChars field.toList).length + (m + 1) -
          ((fieldChars field.toList).length + 1) = m := by omega
      simp only [cutRow, inside, if_false, List.forall_mem_cons, rest'] at fits ⊢
      obtain ⟨small, smaller⟩ := fits
      obtain ⟨r, read, finished⟩ := read_field row rows first field.toList small lineOpen
      simp only [List.length_append, List.length_cons] at short
      rw [List.take_length_add_append, List.take_succ_cons, List.foldlM_append, read]
      simp only [bind, Except.bind, List.foldlM_cons, step_comma row rows first finished]
      rw [ih _ (.inr rfl) second m true (by omega) (.inl ⟨rfl, rfl⟩) smaller]
      simp

/-- A part of a row in which a field is too large. -/
theorem read_cutRow_over {start : Mode} (first : start = .rowStart ∨ start = .fieldStart)
    (field : String) (fields : List String) (n : Nat) (lineOpen : Bool)
    (large : ∃ f ∈ cutRow (field :: fields) n, fieldLimit < f.length) :
    ((rowChars (field :: fields)).take n).foldlM step
        ⟨start, [], 0, row, rows, lineOpen, false⟩ = .error .fieldTooLarge := by
  induction fields generalizing start field row lineOpen n with
  | nil =>
    rw [rowChars_single]
    exact read_cutField_over row rows first _ _ n lineOpen (by simpa [cutRow] using large)
  | cons second rest ih =>
    rw [rowChars_cons]
    by_cases inside : n ≤ (fieldChars field.toList).length
    · simp only [cutRow, inside, if_true, List.mem_singleton, exists_eq_left] at large
      exact read_cutField_over row rows first _ _ n lineOpen (by simpa using large)
    · by_cases small : field.length ≤ fieldLimit
      · obtain ⟨m, rfl⟩ : ∃ m, n = (fieldChars field.toList).length + (m + 1) :=
          ⟨n - ((fieldChars field.toList).length + 1), by omega⟩
        have rest' : (fieldChars field.toList).length + (m + 1) -
            ((fieldChars field.toList).length + 1) = m := by omega
        simp only [cutRow, inside, if_false, List.mem_cons, exists_eq_or_imp, rest'] at large
        have later := large.resolve_left (Nat.not_lt.mpr small)
        obtain ⟨r, read, finished⟩ := read_field row rows first field.toList small lineOpen
        rw [List.take_length_add_append, List.take_succ_cons, List.foldlM_append, read]
        simp only [bind, Except.bind, List.foldlM_cons, step_comma row rows first finished]
        exact ih _ (.inr rfl) second m true later
      · refine read_cutField_over row rows first _ _ n lineOpen ?_
        rw [legible_whole (by omega)]
        exact Nat.not_le.mp small

private theorem read_cutRows (written rows : List (List String)) (n : Nat)
    (wide : ∀ row ∈ written, 1 < row.length)
    (fits : ∀ row ∈ cutRows written n, ∀ field ∈ row, field.length ≤ fieldLimit) :
    finish <$> ((written.flatMap rowChars).take n).foldlM step (before rows) =
      .ok (rows.reverse ++ cutRows written n) := by
  induction written generalizing rows n with
  | nil => simp [cutRows, Functor.map, Except.map, finish, before, pure, Except.pure]
  | cons row rest ih =>
    obtain ⟨here, later⟩ := List.forall_mem_cons.mp wide
    obtain ⟨field, second, fields, rfl⟩ := exists_of_wide here
    rw [List.flatMap_cons]
    by_cases nothing : n = 0
    · subst nothing
      simp [cutRows, Functor.map, Except.map, finish, before, pure, Except.pure]
    · by_cases short : n < (rowChars (field :: second :: fields)).length
      · simp only [cutRows, nothing, short, if_true, if_false, List.mem_singleton,
          forall_eq] at fits ⊢
        rw [List.take_append_of_le_length (Nat.le_of_lt short)]
        exact read_cutRow [] rows (.inl rfl) field (second :: fields) n false short
          (.inr ⟨Nat.pos_of_ne_zero nothing, List.cons_ne_nil _ _⟩) fits
      · simp only [cutRows, nothing, short, if_false] at fits ⊢
        obtain ⟨small, smaller⟩ := List.forall_mem_cons.mp fits
        have whole : (rowChars (field :: second :: fields)).take n =
            rowChars (field :: second :: fields) := List.take_of_length_le (Nat.not_lt.mp short)
        have read := read_fields [] rows (.inl rfl) field (second :: fields) false
          small (.inr (List.cons_ne_nil _ _))
        rw [List.take_append, whole, List.foldlM_append, before, read]
        simp only [bind, Except.bind]
        rw [ih _ _ later smaller]
        simp

private theorem read_cutRows_over (written rows : List (List String)) (n : Nat)
    (wide : ∀ row ∈ written, 1 < row.length)
    (large : ∃ row ∈ cutRows written n, ∃ field ∈ row, fieldLimit < field.length) :
    ((written.flatMap rowChars).take n).foldlM step (before rows) = .error .fieldTooLarge := by
  induction written generalizing rows n with
  | nil => simp [cutRows] at large
  | cons row rest ih =>
    obtain ⟨first, later⟩ := List.forall_mem_cons.mp wide
    obtain ⟨field, second, fields, rfl⟩ := exists_of_wide first
    have some : n ≠ 0 := by
      rintro rfl
      simp [cutRows] at large
    rw [List.flatMap_cons]
    by_cases short : n < (rowChars (field :: second :: fields)).length
    · simp only [cutRows, some, short, if_true, if_false, List.mem_singleton,
        exists_eq_left] at large
      rw [List.take_append_of_le_length (Nat.le_of_lt short)]
      exact read_cutRow_over [] rows (.inl rfl) field (second :: fields) n false large
    · have whole : (rowChars (field :: second :: fields)).take n =
          rowChars (field :: second :: fields) := List.take_of_length_le (Nat.not_lt.mp short)
      simp only [cutRows, some, short, if_false] at large
      rw [List.take_append, whole, List.foldlM_append]
      by_cases here : ∃ f ∈ field :: second :: fields, fieldLimit < f.length
      · have refused := read_cutRow_over [] rows (.inl rfl) field (second :: fields)
          (rowChars (field :: second :: fields)).length false
          (by rwa [cutRow_whole (Nat.le_refl _)])
        rw [List.take_length] at refused
        rw [before, refused]
        rfl
      · have small : ∀ f ∈ field :: second :: fields, f.length ≤ fieldLimit :=
          fun f member => Nat.not_lt.mp fun more => here ⟨f, member, more⟩
        have further : ∃ row ∈ cutRows rest (n - (rowChars (field :: second :: fields)).length),
            ∃ f ∈ row, fieldLimit < f.length := by
          obtain ⟨row, member, f, inside, more⟩ := large
          rcases List.mem_cons.mp member with rfl | among
          · exact absurd ⟨f, inside, more⟩ here
          · exact ⟨row, among, f, inside, more⟩
        rw [before, read_fields [] rows (.inl rfl) field (second :: fields) false small
          (.inr (List.cons_ne_nil _ _))]
        exact ih _ _ later further

end Reader

/-- A text of rows that breaks off is read as what is left of the rows, unless a field of which more
    is left than may be read. -/
theorem readRows_take (rows : List (List String)) (wide : ∀ row ∈ rows, 1 < row.length) (n : Nat) :
    readRows ((rows.flatMap rowChars).take n) =
      if ∀ row ∈ cutRows rows n, ∀ field ∈ row, field.length ≤ fieldLimit then
        .ok (cutRows rows n)
      else .error .fieldTooLarge := by
  have start : Reader.start = Reader.before [] := rfl
  rw [readRows, start]
  split_ifs with fits
  · simpa using Reader.read_cutRows rows [] n wide fits
  · have large : ∃ row ∈ cutRows rows n, ∃ field ∈ row, fieldLimit < field.length := by
      simpa [Nat.not_le] using fits
    rw [Reader.read_cutRows_over rows [] n wide large]
    rfl

end MusicFiling.Csv
