import MusicFiling.Path

/-!
# Disks

A disk is a tree of folders and files. A place is the sequence of names that leads from the root to
an entry; the root itself is always a folder. Contents are bytes.

Links, special files, permissions and times are left out: an entry is a regular file or a folder,
and every folder may be listed and every file read and written. A disk never fills up, and names
that differ at all are different.
-/

namespace MusicFiling

/-- The names that lead from the root of a disk to an entry. -/
abbrev Place := List Component

/-- What stands at a place. -/
inductive Entry where
  | file (content : List UInt8)
  | folder
  deriving DecidableEq, Repr

/-- Whether an entry is a folder. -/
def Entry.isFolder : Entry → Bool
  | .folder => true
  | .file _ => false

/-- The content of a file. -/
def Entry.content? : Entry → Option (List UInt8)
  | .file content => some content
  | .folder => none

/-- The entries below the root, and the folder at which relative paths start. -/
structure Disk where
  entries : List (Place × Entry)
  workingFolder : Place
  deriving DecidableEq, Repr

namespace Disk

/-- The entry at a place. -/
def entry? (d : Disk) : Place → Option Entry
  | [] => some .folder
  | place => d.entries.lookup place

/-- The content of the file at a place. -/
def file? (d : Disk) (place : Place) : Option (List UInt8) :=
  (d.entry? place).bind Entry.content?

/-- Puts an entry at a place, instead of one that stands there. -/
def put (d : Disk) (place : Place) (entry : Entry) : Disk :=
  { d with entries := (place, entry) :: d.entries.filter (·.1 ≠ place) }

/-- Removes the entry at a place and all below it. -/
def clear (d : Disk) (place : Place) : Disk :=
  { d with entries := d.entries.filter fun e => !place.isPrefixOf e.1 }

/-- The entries strictly below a place, under the names that lead there from it. -/
def below (d : Disk) (place : Place) : List (Place × Entry) :=
  (d.entries.filter fun e => place.isPrefixOf e.1 && e.1 != place).map fun e =>
    (e.1.drop place.length, e.2)

/-- Whether nothing stands below a place. -/
def isBare (d : Disk) (place : Place) : Bool :=
  (d.below place).isEmpty

/-- Puts entries under the names that lead to them from a place. -/
def putAll (d : Disk) (place : Place) (entries : List (Place × Entry)) : Disk :=
  entries.foldl (fun d e => d.put (place ++ e.1) e.2) d

/-- Moves the entry at a place, with all below it, to another place, instead of what stands
    there. A folder takes the working folder along that it is or that lies in it. -/
def relocate (d : Disk) (source destination : Place) (entry : Entry) : Disk :=
  let moved := d.below source
  let relocated := ((d.clear source).put destination entry).putAll destination moved
  { relocated with
    workingFolder :=
      if entry.isFolder && source.isPrefixOf d.workingFolder then
        destination ++ d.workingFolder.drop source.length
      else d.workingFolder }

end Disk

end MusicFiling
