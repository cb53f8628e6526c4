import MusicFiling.Text.Letter

/-!
# Paths

A path is an anchor and a sequence of components. Empty components and single dots vanish when a
path is read; two dots stay, and what they mean is left to the disk. Exactly two leading slashes
are an anchor of their own. A component may hold bytes that are no characters, as the names on a
disk may; what is written as a string (in a journal, in a pattern, as an argument) holds none.
-/

namespace MusicFiling

/-- A name between slashes: not empty, not a single dot, and without slashes. -/
structure Component where
  text : List Letter
  isName : text ≠ [] ∧ text ≠ [.char '.'] ∧ .char '/' ∉ text
  deriving DecidableEq, Repr

namespace Component

/-- The component with the given letters, if it is one. -/
def ofLetters? (text : List Letter) : Option Component :=
  if h : text ≠ [] ∧ text ≠ [.char '.'] ∧ .char '/' ∉ text then some ⟨text, h⟩ else none

/-- The component that a string writes, if it is one. -/
def ofString? (s : String) : Option Component :=
  ofLetters? (Text.letters s)

/-- Whether a component leads to the folder above. -/
def isParent (c : Component) : Bool := c.text = [.char '.', .char '.']

end Component

/-- The pieces between the slashes of a text, after the finished pieces `done` and the characters
    `piece` of the current one, both last first. -/
def splitSlashFrom (done : List (List Char)) (piece : List Char) : List Char → List (List Char)
  | [] => (piece.reverse :: done).reverse
  | c :: rest =>
    if c = '/' then splitSlashFrom (piece.reverse :: done) [] rest
    else splitSlashFrom done (c :: piece) rest

/-- The pieces between the slashes of a string, one more than it has slashes. -/
def splitSlash (s : String) : List String :=
  (splitSlashFrom [] [] s.toList).map String.ofList

/-- Where a path starts. -/
inductive Anchor where
  | relative
  | root
  | doubleRoot
  deriving DecidableEq, Repr

/-- The slashes that an anchor shows. -/
def Anchor.text : Anchor → List Letter
  | .relative => []
  | .root => [.char '/']
  | .doubleRoot => [.char '/', .char '/']

/-- The anchor of a text: three or more slashes count as one. -/
def Anchor.ofChars : List Char → Anchor
  | '/' :: '/' :: '/' :: _ => .root
  | '/' :: '/' :: _ => .doubleRoot
  | '/' :: _ => .root
  | _ => .relative

/-- A path to a file or folder. -/
structure Path where
  anchor : Anchor
  parts : List Component
  deriving DecidableEq, Repr

namespace Path

/-- The path that a string writes. -/
def ofString (s : String) : Path :=
  ⟨Anchor.ofChars s.toList, (splitSlash s).filterMap Component.ofString?⟩

/-- The text of a path, where the empty path is a single dot. -/
def text (p : Path) : List Letter :=
  if p.anchor = .relative ∧ p.parts = [] then [.char '.']
  else p.anchor.text ++ List.intercalate [.char '/'] (p.parts.map Component.text)

/-- The text of a path as a string, in which stray bytes are replaced. -/
protected def toString (p : Path) : String :=
  Text.shown p.text

instance : ToString Path := ⟨Path.toString⟩

/-- The last component's text, empty where there is none. -/
def name (p : Path) : List Letter :=
  match p.parts.getLast? with
  | some c => c.text
  | none => []

/-- The path without its last component. -/
def parent (p : Path) : Path :=
  ⟨p.anchor, p.parts.dropLast⟩

/-- The path one component further down. -/
def child (p : Path) (c : Component) : Path :=
  ⟨p.anchor, p.parts ++ [c]⟩

/-- The path several components further down. -/
def descend (p : Path) (cs : List Component) : Path :=
  ⟨p.anchor, p.parts ++ cs⟩

/-- The path of the first `n` components. -/
def upTo (p : Path) (n : Nat) : Path :=
  ⟨p.anchor, p.parts.take n⟩

/-- Whether a null character occurs in the path. -/
def hasNull (p : Path) : Bool :=
  p.parts.any fun c => c.text.contains (.char '\x00')

/-- The letters of a name after its last dot, unless that dot is its first or last letter. -/
def extensionOf (name : List Letter) : List Letter :=
  let tail := (name.reverse.takeWhile (· ≠ .char '.')).reverse
  if tail.length + 1 < name.length then tail else []

/-- What stands after the last dot of the path's name, as a string. -/
def extension (p : Path) : String :=
  Text.shown (extensionOf p.name)

/-- The extension with its dot, empty where there is none. -/
def suffix (p : Path) : String :=
  if p.extension = "" then "" else "." ++ p.extension

end Path

end MusicFiling
