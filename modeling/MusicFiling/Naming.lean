import MusicFiling.Path

/-!
# Names of files and folders

Defaults for patterns and placeholders, and the characters that a tag value must not bring into a
path. A forbidden character is replaced by the placeholder, nothing else is changed. A rendered
pattern is a relative path with slashes between folders. It is accepted if every component names a
real folder or file, and then continues the target folder's path.
-/

namespace MusicFiling

/-- The pattern used when none is given. -/
def defaultPattern : String :=
  "\x7balbum_artist\x7d/\x7borig_year?year+ – \x7d\x7balbum\x7d/" ++
  "\x7bdisc+-\x7d\x7btrack?track_number\x7d – \x7btitle\x7d.\x7bextension\x7d"

/-- Stands for forbidden characters and missing tags when nothing else is chosen. -/
def defaultPlaceholder : String := "_"

/-- Characters that no value may bring into a path: the separators and wildcards of common file
    systems and the braces of patterns. -/
def forbiddenChars : List Char :=
  ['{', '}', '/', '|', '\\', '<', ':', '>', '?', '*', '"']

/-- A value in which the placeholder stands for every forbidden character. -/
def sanitize (placeholder value : String) : String :=
  String.ofList
    (value.toList.flatMap fun c => if c ∈ forbiddenChars then placeholder.toList else [c])

/-- Why a placeholder is refused. -/
inductive PlaceholderError where
  | notOneCharacter
  | forbidden (placeholder : String)
  deriving DecidableEq, Repr

/-- The wording of a refused placeholder. -/
def PlaceholderError.message : PlaceholderError → String
  | .notOneCharacter => "placeholder must be exactly one character"
  | .forbidden placeholder => s!"placeholder '{placeholder}' is a forbidden path character"

/-- A placeholder is one character that is not forbidden itself. -/
def validatePlaceholder (placeholder : String) : Except PlaceholderError String :=
  match placeholder.toList with
  | [c] => if c ∈ forbiddenChars then .error (.forbidden placeholder) else .ok placeholder
  | _ => .error .notOneCharacter

/-- Why a rendered path is refused. -/
inductive DestinationError where
  | absolute (relative : String)
  | escapes (relative : String)
  | emptyComponent (relative : String)
  deriving DecidableEq, Repr

/-- The wording of a refused path. -/
def DestinationError.message : DestinationError → String
  | .absolute relative => s!"Rendered path must be relative: '{relative}'"
  | .escapes relative => s!"Rendered path escapes the target directory: '{relative}'"
  | .emptyComponent relative => s!"Rendered path has an empty or '.' component: '{relative}'"

/-- The path of a rendered pattern below the target folder. -/
def buildDestination (target : Path) (relative : String) : Except DestinationError Path :=
  let parts := splitSlash relative
  if relative.toList.head? = some '/' then .error (.absolute relative)
  else if ".." ∈ parts then .error (.escapes relative)
  else if "" ∈ parts ∨ "." ∈ parts then .error (.emptyComponent relative)
  else .ok (target.descend (parts.filterMap Component.ofString?))

end MusicFiling
