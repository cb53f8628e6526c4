import MusicFiling.Disk.Attempt

/-!
# Files that are kept open

A program that keeps a file open writes to that file wherever it is renamed to, and to nothing on
the disk once the file is replaced or removed.
-/

namespace MusicFiling

/-- The place of a file that is kept open, while it has one. -/
structure OpenFile where
  place : Option Place
  deriving DecidableEq, Repr

/-- How opening a file ended. The folders above it are created in either case. -/
inductive Opening where
  | opened (disk : Disk) (file : OpenFile)
  | failed (disk : Disk) (fault : Fault)

namespace Disk

/-- Opens a file together with the folders above it, keeping of the old content what `keep`
    says. -/
def openKeeping (keep : List UInt8 → List UInt8) (d : Disk) (p : Path) : Opening :=
  let made := d.makeFolders p.parent
  match made.fault with
  | some fault => .failed made.disk fault
  | none =>
    match made.disk.openForWriting p with
    | .error fault => .failed made.disk fault
    | .ok place =>
      let content := keep ((made.disk.file? place).getD [])
      .opened (made.disk.put place (.file content)) ⟨some place⟩

/-- Opens a file to write at its end. -/
def openToAppend : Disk → Path → Opening :=
  openKeeping id

/-- Opens a file to write it anew. -/
def openToReplace : Disk → Path → Opening :=
  openKeeping fun _ => []

end Disk

/-- The content after bytes are written at an offset; a gap before the offset is filled with
    zeros. -/
def overwriteAt (content : List UInt8) (offset : Nat) (bytes : List UInt8) : List UInt8 :=
  content.take offset ++ List.replicate (offset - content.length) 0 ++ bytes ++
    content.drop (offset + bytes.length)

namespace OpenFile

/-- Changes the content of an open file. -/
def modify (f : OpenFile) (change : List UInt8 → List UInt8) (d : Disk) : Disk :=
  match f.place with
  | none => d
  | some place =>
    match d.file? place with
    | none => d
    | some content => d.put place (.file (change content))

/-- Adds bytes at the end of an open file. -/
def append (f : OpenFile) (bytes : List UInt8) : Disk → Disk :=
  f.modify (· ++ bytes)

/-- Writes bytes at an offset of an open file. -/
def writeAt (f : OpenFile) (offset : Nat) (bytes : List UInt8) : Disk → Disk :=
  f.modify fun content => overwriteAt content offset bytes

/-- The open file after the file at one place took another place. -/
def follow (f : OpenFile) (source destination : Place) : OpenFile :=
  if f.place = some source then ⟨some destination⟩
  else if f.place = some destination then ⟨none⟩
  else f

end OpenFile

end MusicFiling
