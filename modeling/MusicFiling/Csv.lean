import MusicFiling.Text.Letter

/-!
# Rows of comma-separated fields

A row is written with its fields separated by commas and ended by a carriage return and a line
feed; a field that holds a comma, a quote or a line end is quoted, with quotes doubled. Reading is
lenient: a quote inside a bare field is ordinary, and so is what follows a closing quote.
-/

namespace MusicFiling.Csv

/-- Whether a field must be quoted. -/
def needsQuotes (field : List Letter) : Bool :=
  field.any fun l => l ∈ [.char ',', .char '"', .char '\r', .char '\n']

/-- A field as it is written. -/
def writeField (field : List Letter) : List Letter :=
  if needsQuotes field then
    .char '"' :: field.flatMap (fun l => if l = .char '"' then [l, l] else [l]) ++ [.char '"']
  else field

/-- A row as it is written, with its end. -/
def writeRow (fields : List (List Letter)) : List Letter :=
  List.intercalate [.char ','] (fields.map writeField) ++ [.char '\r', .char '\n']

/-- A field with more characters than may be read. -/
inductive ReadError where
  | fieldTooLarge
  deriving DecidableEq, Repr

/-- Characters that a field may have. -/
def fieldLimit : Nat := 131072

/-- The wording of a field that is too large. -/
def ReadError.message : ReadError → String
  | .fieldTooLarge => s!"field larger than field limit ({fieldLimit})"

/-- Where reading stands in a row. -/
inductive Mode where
  /-- Before the first field. -/
  | rowStart
  /-- Before a further field. -/
  | fieldStart
  /-- In a field outside quotes. -/
  | bare
  /-- Between quotes. -/
  | quoted
  /-- After a quote that either closes the field or is the first of two. -/
  | quoteSeen
  deriving DecidableEq, Repr

/-- Reading between two characters. Lists are kept last first; `size` counts the characters of
    the field, `lineOpen` tells whether the line has any, and `returnSeen` whether the last one was
    a carriage return, which a line feed may still join. -/
structure Reader where
  mode : Mode
  field : List Char
  size : Nat
  row : List String
  rows : List (List String)
  lineOpen : Bool
  returnSeen : Bool

namespace Reader

/-- Reading before the first character. -/
def start : Reader := ⟨.rowStart, [], 0, [], [], false, false⟩

/-- Ends the field. -/
def saveField (r : Reader) : Reader :=
  { r with field := [], size := 0, row := String.ofList r.field.reverse :: r.row }

/-- Ends the row. -/
def saveRow (r : Reader) : Reader :=
  { r with mode := .rowStart, row := [], rows := r.row.reverse :: r.rows }

/-- Adds a character to the field. -/
def addChar (r : Reader) (mode : Mode) (c : Char) : Except ReadError Reader :=
  if r.size ≥ fieldLimit then .error .fieldTooLarge
  else .ok { r with mode := mode, field := c :: r.field, size := r.size + 1 }

/-- Ends the line, and with it the row unless a quote is open. An empty line is an empty row. -/
def endLine (r : Reader) : Reader :=
  let r := { r with lineOpen := false, returnSeen := false }
  match r.mode with
  | .quoted => r
  | .rowStart => r.saveRow
  | .fieldStart | .bare | .quoteSeen => r.saveField.saveRow

/-- Reads a character at the start of a field. -/
def beginField (r : Reader) (c : Char) : Except ReadError Reader :=
  if c = '\r' ∨ c = '\n' then .ok r
  else if c = '"' then .ok { r with mode := .quoted }
  else if c = ',' then .ok { r.saveField with mode := .fieldStart }
  else r.addChar .bare c

/-- Reads a character of a line. A line end outside quotes has its effect when the line ends. -/
def readChar (r : Reader) (c : Char) : Except ReadError Reader :=
  match r.mode with
  | .rowStart | .fieldStart => r.beginField c
  | .bare =>
    if c = '\r' ∨ c = '\n' then .ok r
    else if c = ',' then .ok { r.saveField with mode := .fieldStart }
    else r.addChar .bare c
  | .quoted => if c = '"' then .ok { r with mode := .quoteSeen } else r.addChar .quoted c
  | .quoteSeen =>
    if c = '"' then r.addChar .quoted c
    else if c = '\r' ∨ c = '\n' then .ok r
    else if c = ',' then .ok { r.saveField with mode := .fieldStart }
    else r.addChar .bare c

/-- Reads a character, which ends the line before it if that line ended in a carriage return, and
    its own line if it is a line feed. -/
def step (r : Reader) (c : Char) : Except ReadError Reader := do
  let r := if r.returnSeen ∧ c ≠ '\n' then r.endLine else r
  let r ← r.readChar c
  return if c = '\n' then r.endLine else { r with lineOpen := true, returnSeen := c = '\r' }

/-- The rows read, where the end of the text ends an open line and an open quote. -/
def finish (r : Reader) : List (List String) :=
  let r := if r.lineOpen then r.endLine else r
  let r := if r.mode = .quoted then r.saveField.saveRow else r
  r.rows.reverse

end Reader

/-- The rows of a text. -/
def readRows (text : List Char) : Except ReadError (List (List String)) :=
  Reader.finish <$> text.foldlM Reader.step Reader.start

/-- The lines of a text that are known to be complete: a carriage return at the very end may still
    be joined by a line feed. -/
def completeLines (text : List Char) : List Char :=
  let back := match text.reverse with
    | '\r' :: rest => rest
    | back => back
  (back.dropWhile fun c => c ≠ '\r' ∧ c ≠ '\n').reverse

end MusicFiling.Csv
