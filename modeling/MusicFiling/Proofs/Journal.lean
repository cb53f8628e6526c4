import MusicFiling.Journal
import MusicFiling.Proofs.Csv
import MusicFiling.Proofs.Path
import MusicFiling.Proofs.Text.Utf8

/-!
# Reading back a journal

The operations that were recorded in a journal are read back from it, in order.
-/

namespace MusicFiling

theorem Action.ofText?_text (action : Action) : Action.ofText? action.text = some action := by
  cases action <;> rfl

/-- Whether both paths of an operation are text. -/
def Operation.IsText (op : Operation) : Prop := op.source.IsText ∧ op.destination.IsText

instance (op : Operation) : Decidable op.IsText :=
  inferInstanceAs (Decidable (_ ∧ _))

namespace Journal

/-- The fields of an operation's row, as strings. -/
def fields (time : String) (op : Operation) : List String :=
  [time, op.action.text, op.source.toString, op.destination.toString]

/-- The characters of an operation's row. -/
def rowChars (time : String) (op : Operation) : List Char :=
  Csv.rowChars (fields time op)

/-- The text of a journal with the given operations and the times at which they were done. -/
def text (entries : List (String × Operation)) : List Char :=
  entries.flatMap fun e => rowChars e.1 e.2

private theorem plain_row {time : String} {op : Operation} :
    Text.Plain (row time op) ↔ op.IsText := by
  simp [row, Csv.plain_writeRow, Text.plain_letters, Operation.IsText]

/-- The row of an operation whose paths are text is written. -/
theorem encodeText_row (time : String) {op : Operation} (plain : op.IsText) :
    Text.Utf8.encodeText (row time op) = .ok (Text.Utf8.encode (rowChars time op)) := by
  have strings : row time op = Csv.writeRow ((fields time op).map Text.letters) := by
    simp only [row, fields, List.map_cons, List.map_nil, Path.toString,
      Text.letters_shown (Path.plain_text.mpr plain.1),
      Text.letters_shown (Path.plain_text.mpr plain.2)]
  rw [Text.Utf8.encodeText_of_plain (plain_row.mpr plain), strings]
  rfl

theorem record_of_isText (time : String) {op : Operation} (plain : op.IsText) (file : OpenFile)
    (d : Disk) :
    record time op file d = .ok (file.append (Text.Utf8.encode (rowChars time op)) d) := by
  rw [record, encodeText_row time plain]
  rfl

/-- An operation that is recorded has paths that are text. -/
theorem isText_of_record {time : String} {op : Operation} {file : OpenFile} {d d' : Disk}
    (recorded : record time op file d = .ok d') : op.IsText := by
  unfold record at recorded
  cases written : Text.Utf8.encodeText (row time op) with
  | ok bytes => exact plain_row.mp (Text.Utf8.plain_of_encodeText written)
  | error error =>
    rw [written] at recorded
    cases recorded

/-- No field of an operation's row is too large to be read, and its paths are text. -/
structure Readable (time : String) (op : Operation) : Prop where
  plain : op.IsText
  time : time.length ≤ Csv.fieldLimit
  source : op.source.toString.length ≤ Csv.fieldLimit
  destination : op.destination.toString.length ≤ Csv.fieldLimit

theorem operation?_fields (time : String) {op : Operation} (plain : op.IsText) :
    operation? (fields time op) = some op := by
  simp [operation?, fields, Action.ofText?_text, Path.ofString_toString plain.1,
    Path.ofString_toString plain.2]

theorem Readable.fields {time : String} {op : Operation} (readable : Readable time op) :
    ∀ field ∈ fields time op, field.length ≤ Csv.fieldLimit := by
  have action : op.action.text.length ≤ Csv.fieldLimit := by cases op.action <;> decide
  simpa [Journal.fields] using
    ⟨readable.time, action, readable.source, readable.destination⟩

theorem text_append (before after : List (String × Operation)) :
    text (before ++ after) = text before ++ text after := by
  simp [text]

theorem text_eq (entries : List (String × Operation)) :
    text entries = (entries.map fun e => fields e.1 e.2).flatMap Csv.rowChars := by
  rw [List.flatMap_map]
  rfl

private theorem filterMap_fields {entries : List (String × Operation)}
    (plain : ∀ e ∈ entries, e.2.IsText) :
    (entries.map fun e => fields e.1 e.2).filterMap operation? = entries.map Prod.snd := by
  rw [List.filterMap_map, ← List.filterMap_eq_map]
  exact List.filterMap_congr fun e member => operation?_fields e.1 (plain e member)

/-- The operations that were recorded are read back. -/
theorem ofBytes_text {entries : List (String × Operation)}
    (readable : ∀ e ∈ entries, Readable e.1 e.2) :
    ofBytes (Text.Utf8.encode (text entries)) = .ok (entries.map Prod.snd) := by
  have rows : Csv.readRows (text entries) = .ok (entries.map fun e => fields e.1 e.2) := by
    rw [text_eq]
    refine Csv.readRows_rowChars _ ?_ ?_
    · intro row member
      obtain ⟨e, -, rfl⟩ := List.mem_map.mp member
      simp [fields]
    · intro row member
      obtain ⟨e, inside, rfl⟩ := List.mem_map.mp member
      exact (readable e inside).fields
  have plain : ∀ e ∈ entries, e.2.IsText := fun e member => (readable e member).plain
  simp [ofBytes, Text.Utf8.decodeStrict_encode, rows, filterMap_fields plain]

end Journal

end MusicFiling
