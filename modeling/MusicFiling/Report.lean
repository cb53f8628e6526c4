import MusicFiling.Csv
import MusicFiling.Disk.OpenFile
import MusicFiling.Text.Utf8

/-!
# Reports

A report lists what became of each file in one run: a header row, then a row for each file. It is
written anew in every run. The header waits until the first row is written or the report is closed.
It is text: a row with a path that is none cannot be written.
-/

namespace MusicFiling

/-- An open report: the bytes written to it so far, and those that wait. -/
structure Report where
  file : OpenFile
  written : Nat
  waiting : List UInt8

namespace Report

/-- The first row of a report. -/
def header : List Letter :=
  Csv.writeRow (["source", "destination", "action", "status"].map Text.letters)

/-- A report that was just opened. -/
def ofFile (file : OpenFile) : Report :=
  ⟨file, 0, Text.Utf8.encode (header.map Letter.shown)⟩

/-- The row of one file. A file without a destination has an empty field in its place. -/
def row (source : Path) (destination : Option Path) (action status : String) : List Letter :=
  Csv.writeRow [source.text, (destination.map Path.text).getD [], Text.letters action,
    Text.letters status]

/-- Writes what waits and then the given bytes. -/
def write (r : Report) (bytes : List UInt8) (d : Disk) : Report × Disk :=
  let all := r.waiting ++ bytes
  (⟨r.file, r.written + all.length, []⟩, r.file.writeAt r.written all d)

/-- Adds the row of one file, unless a path in it is no text. What waits then goes on waiting. -/
def record (r : Report) (source : Path) (destination : Option Path) (action status : String)
    (d : Disk) : Except Text.Utf8.Unwritable (Report × Disk) :=
  (Text.Utf8.encodeText (row source destination action status)).map fun bytes => r.write bytes d

/-- Closes the report. -/
def close (r : Report) (d : Disk) : Disk :=
  if r.waiting.isEmpty then d else (r.write [] d).2

end Report

end MusicFiling
