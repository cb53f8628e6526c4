import MusicFiling.Path
import MusicFiling.Text.Quoted

/-!
# Faults of disk operations

Each refusal has a number and a wording of its own, and names the path, or the two paths, that it
is about.
-/

namespace MusicFiling

/-- Why a path cannot be used. -/
inductive Cause where
  | notFound
  | busy
  | exists
  | notFolder
  | isFolder
  | invalid
  | nameTooLong
  /-- A path with a null byte in it names nothing that could exist. -/
  | nullByte
  deriving DecidableEq, Repr

/-- The number and the wording of a cause. -/
def Cause.describe : Cause → String
  | .notFound => "[Errno 2] No such file or directory"
  | .busy => "[Errno 16] Device or resource busy"
  | .exists => "[Errno 17] File exists"
  | .notFolder => "[Errno 20] Not a directory"
  | .isFolder => "[Errno 21] Is a directory"
  | .invalid => "[Errno 22] Invalid argument"
  | .nameTooLong => "[Errno 36] File name too long"
  | .nullByte => "embedded null byte"

/-- What stops a disk operation. -/
inductive Fault where
  | refused (cause : Cause) (path : Path)
  | refusedPair (cause : Cause) (source destination : Path)
  /-- The place inside a folder that a moved entry would take is not free. -/
  | occupied (text : List Letter)
  /-- A folder cannot move below itself. -/
  | intoItself (source destination : Path)
  /-- A file cannot be copied onto itself. -/
  | sameFile (source destination : Path)
  deriving DecidableEq

/-- The wording of a fault. -/
def Fault.message : Fault → List Letter
  | .refused .nullByte _ | .refusedPair .nullByte _ _ => Text.letters (Cause.describe .nullByte)
  | .refused cause path => Text.letters s!"{cause.describe}: {Text.quoted path.text}"
  | .refusedPair cause source destination =>
    let pair := s!"{Text.quoted source.text} -> {Text.quoted destination.text}"
    Text.letters s!"{cause.describe}: {pair}"
  | .occupied text =>
    Text.letters "Destination path '" ++ text ++ Text.letters "' already exists"
  | .intoItself source destination =>
    Text.letters "Cannot move a directory '" ++ source.text ++ Text.letters "' into itself '" ++
      destination.text ++ Text.letters "'."
  | .sameFile source destination =>
    let first := Text.quoted source.text
    let second := Text.quoted destination.text
    Text.letters s!"PosixPath({first}) and {second} are the same file"

end MusicFiling
