import MusicFiling.Disk.Attempt

/-!
# Copying and moving

A transfer to a path at which a folder stands goes into that folder, under the name of the source.
A move renames its source where the disk allows it; otherwise it copies the source and removes it.
What a copy takes over besides the content (times, permissions) is left out, and all places are on
one device.
-/

namespace MusicFiling

namespace Disk

/-- The text of the path inside a folder that a source's name leads to. -/
def innerText (source folder : Path) : List Letter :=
  let name := if source.name = [] then source.text else source.name
  folder.text ++ .char '/' :: name

/-- The path inside a folder that a source's name leads to. A source whose path ends in two dots,
    or is a single dot, leads to a folder that exists and not to a free path. -/
def innerPath? (source folder : Path) : Option Path :=
  match source.parts.getLast? with
  | some c => if c.isParent then none else some (folder.child c)
  | none => none

/-- Empties the folder at a place and then removes it by its path, which a path that ends in dots
    does not allow once the folder is empty. -/
def removeFolderAt (d : Disk) (place : Place) (path : Path) : Attempt :=
  match innerPath? path path with
  | some _ => .done (d.clear place)
  | none =>
    let emptied := { d with
      entries := d.entries.filter fun e => e.1 == place || !place.isPrefixOf e.1 }
    .stopped emptied (.refused (if path.parts = [] then .invalid else .notFound) path)

/-- Removes a file, or a folder with all below it. -/
def remove (d : Disk) (path : Path) : Attempt :=
  match d.reach path with
  | .error cause => .stopped d (.refused cause path)
  | .ok place =>
    if d.entry? place = some .folder then d.removeFolderAt place path else d.unlink path

/-- Copies a file to a path, instead of another file that stands there. -/
def copyOnto (d : Disk) (source destination : Path) : Attempt :=
  match d.openForReading source with
  | .error fault => .stopped d fault
  | .ok (origin, content) =>
    match d.openForWriting destination with
    | .error fault => .stopped d fault
    | .ok place =>
      if place = origin then .stopped d (.sameFile source destination)
      else .done (d.put place (.file content))

/-- The path at which a transfer arrives, if the source has a name to arrive under. -/
def landing (d : Disk) (source destination : Path) : Option Path :=
  if d.isFolder destination then innerPath? source destination else some destination

/-- Copies a file to a path or into the folder that stands there. -/
def copy (d : Disk) (source destination : Path) : Attempt :=
  match d.landing source destination with
  | some path => d.copyOnto source path
  | none => .stopped d (.refused .isFolder destination)

/-- Gives an entry another path. Neither path may end in dots, a folder cannot move below itself,
    and an entry is replaced only by one of its kind, a folder only if nothing stands in it. -/
def rename (d : Disk) (source destination : Path) : Except Cause Disk :=
  match d.reach source, d.reach destination with
  | .error cause, _ => .error cause
  | _, .error cause => .error cause
  | .ok a, .ok b =>
    if (innerPath? source source).isNone ∨ (innerPath? destination destination).isNone then
      .error .busy
    else
      match d.entry? a with
      | none => .error .notFound
      | some entry =>
        if a = b then .ok d
        else if a.isPrefixOf b then .error .invalid
        else
          match entry, d.entry? b with
          | .folder, some (.file _) => .error .notFolder
          | .file _, some .folder => .error .isFolder
          | .folder, some .folder =>
            if d.isBare b then .ok (d.relocate a b entry) else .error .exists
          | _, _ => .ok (d.relocate a b entry)

/-- Copies a folder with all below it to a vacant path and then removes it. -/
def copyFolderAway (d : Disk) (source destination : Path) : Attempt :=
  match d.reach source with
  | .error cause => .stopped d (.refused cause source)
  | .ok place =>
    (d.makeFolders destination).next fun d =>
      match d.reach destination with
      | .error cause => .stopped d (.refused cause destination)
      | .ok place' => (d.putAll place' (d.below place)).removeFolderAt place source

/-- Moves an entry to a path at which no folder stands; `named` is the destination that was asked
    for. -/
def moveOnto (d : Disk) (source destination named : Path) : Attempt :=
  match d.rename source destination with
  | .ok d' => .done d'
  | .error .nullByte => .stopped d (.refusedPair .nullByte source destination)
  | .error _ =>
    if d.isFolder source then
      if (d.nominal source).isPrefixOf (d.nominal named) then
        .stopped d (.intoItself source named)
      else if (d.find? destination).isSome then .stopped d (.refused .exists destination)
      else d.copyFolderAway source destination
    else
      (d.copyOnto source destination).next fun d => d.unlink source

/-- Whether two paths lead to one place. -/
def samePlace (d : Disk) (p q : Path) : Bool :=
  match d.reach p, d.reach q with
  | .ok a, .ok b => a = b
  | _, _ => false

/-- Moves an entry to a path or into the folder that stands there. -/
def move (d : Disk) (source destination : Path) : Attempt :=
  if d.isFolder destination then
    if d.samePlace source destination then
      match d.rename source destination with
      | .ok d' => .done d'
      | .error cause => .stopped d (.refusedPair cause source destination)
    else
      match innerPath? source destination with
      | none => .stopped d (.occupied (innerText source destination))
      | some inner =>
        if (d.find? inner).isSome then .stopped d (.occupied inner.text)
        else d.moveOnto source inner destination
  else d.moveOnto source destination destination

end Disk

end MusicFiling
