import MusicFiling.Disk.Basic
import MusicFiling.Disk.Fault

/-!
# From paths to places

A path is followed component by component from the root or from the working folder. Every component
but the last must lead to a folder; two dots lead to the folder above, which a path reaches only
through folders that exist. The last component may be vacant.
-/

namespace MusicFiling

namespace Disk

/-- Bytes that a single name may have. -/
def nameLimit : Nat := 255

/-- Bytes that a whole path may have. -/
def pathLimit : Nat := 4095

/-- Follows components from a place. -/
def follow (d : Disk) (place : Place) : List Component → Except Cause Place
  | [] => .ok place
  | c :: rest =>
    match d.entry? place with
    | none => .error .notFound
    | some (.file _) => .error .notFolder
    | some .folder =>
      if c.isParent then d.follow place.dropLast rest
      else if Text.size c.text > nameLimit then .error .nameTooLong
      else d.follow (place ++ [c]) rest

/-- The place at which a path starts. -/
def startOf (d : Disk) (p : Path) : Place :=
  if p.anchor = .relative then d.workingFolder else []

/-- The place that a path leads to, whether or not anything stands there. -/
def reach (d : Disk) (p : Path) : Except Cause Place :=
  if p.hasNull then .error .nullByte
  else if Text.size p.text > pathLimit then .error .nameTooLong
  else d.follow (d.startOf p) p.parts

/-- The entry at a path. A path that leads nowhere has none; a path that is too long cannot even
    be asked about. -/
def at? (d : Disk) (p : Path) : Except Fault (Option Entry) :=
  match d.reach p with
  | .ok place => .ok (d.entry? place)
  | .error .nameTooLong => .error (.refused .nameTooLong p)
  | .error _ => .ok none

/-- The entry at a path, where a path that is too long has none. -/
def find? (d : Disk) (p : Path) : Option Entry :=
  match d.reach p with
  | .ok place => d.entry? place
  | .error _ => none

/-- Whether a folder stands at a path. -/
def isFolder (d : Disk) (p : Path) : Bool :=
  (d.find? p).any Entry.isFolder

/-- The place that components name from another place, where two dots take one name back whether
    or not it exists. -/
def spell (place : Place) : List Component → Place
  | [] => place
  | c :: rest => spell (if c.isParent then place.dropLast else place ++ [c]) rest

/-- The place that a path names as written. -/
def nominal (d : Disk) (p : Path) : Place :=
  spell (d.startOf p) p.parts

end Disk

end MusicFiling
