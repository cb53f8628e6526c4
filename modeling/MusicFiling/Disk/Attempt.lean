import MusicFiling.Disk.Reach

/-!
# Changes of a disk

An operation of several steps may stop halfway; what it did before stays. So every operation yields
the disk afterwards together with the fault that stopped it, if one did.
-/

namespace MusicFiling

/-- A disk after an operation, and what stopped the operation. -/
structure Attempt where
  disk : Disk
  fault : Option Fault

namespace Attempt

/-- An operation that was carried out. -/
def done (d : Disk) : Attempt := ⟨d, none⟩

/-- An operation that stopped. -/
def stopped (d : Disk) (fault : Fault) : Attempt := ⟨d, some fault⟩

/-- Goes on with another operation unless the first one stopped. -/
def next (a : Attempt) (f : Disk → Attempt) : Attempt :=
  match a.fault with
  | none => f a.disk
  | some _ => a

end Attempt

namespace Disk

/-- Creates one folder. -/
def makeFolder (d : Disk) (p : Path) : Except Cause Disk :=
  match d.reach p with
  | .error cause => .error cause
  | .ok place =>
    match d.entry? place with
    | some _ => .error .exists
    | none => .ok (d.put place .folder)

/-- Accepts that a folder could not be created where one stands already. -/
def acceptFolder (d : Disk) (p : Path) (cause : Cause) : Attempt :=
  if cause ≠ .nullByte ∧ cause ≠ .notFound ∧ d.isFolder p then .done d
  else .stopped d (.refused cause p)

/-- Creates the folder of a path's first components, and before it the ones above where they are
    missing. -/
def makeFoldersUpTo (d : Disk) (p : Path) : Nat → Attempt
  | 0 =>
    match d.makeFolder (p.upTo 0) with
    | .ok d' => .done d'
    | .error cause => d.acceptFolder (p.upTo 0) cause
  | n + 1 =>
    match d.makeFolder (p.upTo (n + 1)) with
    | .ok d' => .done d'
    | .error .notFound =>
      (d.makeFoldersUpTo p n).next fun d' =>
        match d'.makeFolder (p.upTo (n + 1)) with
        | .ok d'' => .done d''
        | .error cause => d'.acceptFolder (p.upTo (n + 1)) cause
    | .error cause => d.acceptFolder (p.upTo (n + 1)) cause

/-- Creates a folder and those above it, where they are missing. -/
def makeFolders (d : Disk) (p : Path) : Attempt :=
  d.makeFoldersUpTo p p.parts.length

/-- The place of a file and its content, if a file stands at the path. -/
def openForReading (d : Disk) (p : Path) : Except Fault (Place × List UInt8) :=
  match d.reach p with
  | .error cause => .error (.refused cause p)
  | .ok place =>
    match d.entry? place with
    | none => .error (.refused .notFound p)
    | some .folder => .error (.refused .isFolder p)
    | some (.file content) => .ok (place, content)

/-- The place at which a file may be written: a file stands there, or nothing does. -/
def openForWriting (d : Disk) (p : Path) : Except Fault Place :=
  match d.reach p with
  | .error cause => .error (.refused cause p)
  | .ok place =>
    match d.entry? place with
    | some .folder => .error (.refused .isFolder p)
    | _ => .ok place

/-- Writes a file, new or instead of the one that stands at the path. -/
def write (d : Disk) (p : Path) (content : List UInt8) : Attempt :=
  match d.openForWriting p with
  | .error fault => .stopped d fault
  | .ok place => .done (d.put place (.file content))

/-- Removes a file. -/
def unlink (d : Disk) (p : Path) : Attempt :=
  match d.openForReading p with
  | .error fault => .stopped d fault
  | .ok (place, _) => .done (d.clear place)

end Disk

end MusicFiling
