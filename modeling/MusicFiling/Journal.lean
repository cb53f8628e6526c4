import MusicFiling.Csv
import MusicFiling.Disk.OpenFile
import MusicFiling.Text.Utf8

/-!
# The journal of operations

Every copy and move is recorded in a journal as soon as it is done: one row with the time, the
action and the two paths. The journal only grows, and reading it gives the operations to undo. It is
text: a row with a path that is none cannot be written.
-/

namespace MusicFiling

/-- What is done with a music file. -/
inductive Action where
  | copy
  | move
  deriving DecidableEq, Repr

namespace Action

/-- The word for an action. -/
def text : Action → String
  | .copy => "copy"
  | .move => "move"

/-- The action that a word names. -/
def ofText? (word : String) : Option Action :=
  [Action.copy, Action.move].find? (·.text = word)

end Action

/-- A copy or move that was carried out. -/
structure Operation where
  action : Action
  source : Path
  destination : Path
  deriving DecidableEq

namespace Journal

/-- The name of a journal that lies in the target folder. -/
def defaultName : Component := ⟨Text.letters ".tagshelf-log.csv", by decide⟩

/-- The row of an operation done at the given time. -/
def row (time : String) (op : Operation) : List Letter :=
  Csv.writeRow [Text.letters time, Text.letters op.action.text, op.source.text,
    op.destination.text]

/-- Records an operation at the end of an open journal, unless a path in it is no text. -/
def record (time : String) (op : Operation) (file : OpenFile) (d : Disk) :
    Except Text.Utf8.Unwritable Disk :=
  (Text.Utf8.encodeText (row time op)).map fun bytes => file.append bytes d

/-- Why a journal cannot be read. -/
inductive ReadError where
  | disk (fault : Fault)
  | notText (piece : Text.Utf8.IllFormed)
  | notRows (error : Csv.ReadError)
  deriving DecidableEq

/-- The wording of a journal that cannot be read. -/
def ReadError.message : ReadError → List Letter
  | .disk fault => fault.message
  | .notText piece => Text.letters piece.message
  | .notRows error => Text.letters error.message

/-- The operation of a row, if the row has four fields and names an action. -/
def operation? : List String → Option Operation
  | [_, action, source, destination] =>
    (Action.ofText? action).map fun action =>
      ⟨action, Path.ofString source, Path.ofString destination⟩
  | _ => none

/-- The operations in a journal's bytes. Rows are read while bytes become text, so a row that
    cannot be read is reported before a later flaw of the bytes. -/
def ofBytes (bytes : List UInt8) : Except ReadError (List Operation) :=
  let reading := Text.Utf8.decodeStrict bytes
  match reading.flaw with
  | none =>
    match Csv.readRows reading.text with
    | .ok rows => .ok (rows.filterMap operation?)
    | .error error => .error (.notRows error)
  | some piece =>
    match Csv.readRows (Csv.completeLines reading.text) with
    | .ok _ => .error (.notText piece)
    | .error error => .error (.notRows error)

/-- The operations recorded in the journal at a path. -/
def read (d : Disk) (p : Path) : Except ReadError (List Operation) :=
  match d.openForReading p with
  | .ok (_, bytes) => ofBytes bytes
  | .error fault => .error (.disk fault)

end Journal

end MusicFiling
