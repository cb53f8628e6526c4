import MusicFiling.Dictionary
import MusicFiling.Naming

/-!
# Reading patterns

A pattern is read character by character. Outside of tokens a character stands for itself. A token
names one tag, or several tags of which the first that is present gives its value; it may end in an
addendum, text that follows the value of a token with a single name. What is read becomes fragments
of the rendered path, in order.
-/

namespace MusicFiling

/-- Why a pattern is refused. -/
inductive PatternError where
  /-- A name that is no tag's, in the part of a token that ends at the position. -/
  | unknownTag (raw : String) (position : Nat)
  /-- A closer or marker where no token is open. -/
  | unexpectedCloser (char : Char) (position : Nat)
  /-- An opener inside a tag name. -/
  | nestedOpener (position : Nat)
  /-- The pattern ends inside the token that opens at the position. -/
  | unterminatedToken (position : Nat)
  deriving DecidableEq, Repr

/-- The wording of a refused pattern. -/
def PatternError.message : PatternError → String
  | .unknownTag raw position => s!"Unknown tag '{raw}' in token ending at position {position}"
  | .unexpectedCloser char position =>
    s!"Unexpected '{char}' at position {position} (no token is open)"
  | .nestedOpener position => s!"Nested '\x7b' at position {position}"
  | .unterminatedToken position => s!"Token opened at position {position} is never closed"

/-- Opens a token. -/
def opener : Char := '{'

/-- Closes a token. -/
def closer : Char := '}'

/-- Leads to the tag that is tried next. -/
def fallbackMarker : Char := '?'

/-- Leads to the addendum. -/
def addendumMarker : Char := '+'

/-- Characters that end a tag name. -/
def markers : List Char := [closer, fallbackMarker, addendumMarker]

/-- Where reading stands. Inside a token the place of its opener is kept. -/
inductive Mode where
  /-- Outside of tokens. -/
  | plain
  /-- Inside a name, of which the characters so far are kept last first; `fallback` tells whether
      the token has names before it. -/
  | naming (openedAt : Nat) (name : List Char) (fallback : Bool)
  /-- The value is settled, and the rest of the token means nothing. -/
  | skipping (openedAt : Nat)
  /-- Inside an addendum that follows a value. -/
  | addendum (openedAt : Nat)
  deriving DecidableEq, Repr

/-- Reading between two characters: the place of the next one, the mode, and the fragments so far,
    last first. -/
structure Scan where
  position : Nat
  mode : Mode
  fragments : List String
  deriving DecidableEq, Repr

namespace Scan

/-- Reading before the first character. -/
def start : Scan := ⟨0, .plain, []⟩

/-- Goes on to the next character in the given mode. -/
def enter (scan : Scan) (mode : Mode) : Scan :=
  { scan with position := scan.position + 1, mode := mode }

/-- Adds a fragment and goes on in the given mode. -/
def emit (scan : Scan) (fragment : String) (mode : Mode) : Scan :=
  ⟨scan.position + 1, mode, fragment :: scan.fragments⟩

/-- Settles a name that ends at a marker. A present tag gives its value, and an addendum follows it
    only where the token has no other name. A missing tag hands over to the next name, leaves the
    placeholder, or, before an addendum, leaves nothing. -/
def settle (source : TagSource) (placeholder : String) (scan : Scan) (openedAt : Nat)
    (name : List Char) (fallback : Bool) (marker : Char) : Except PatternError Scan :=
  let raw := String.ofList name.reverse
  match Tag.ofName? raw with
  | none => .error (.unknownTag raw scan.position)
  | some tag =>
    match source tag with
    | some value =>
      .ok <| scan.emit (sanitize placeholder value) <|
        if marker = closer then .plain
        else if marker = addendumMarker ∧ !fallback then .addendum openedAt
        else .skipping openedAt
    | none =>
      .ok <|
        if marker = fallbackMarker then scan.enter (.naming openedAt [] true)
        else if marker = closer then scan.emit placeholder .plain
        else scan.enter (.skipping openedAt)

/-- Reads one character. -/
def step (source : TagSource) (placeholder : String) (scan : Scan) (c : Char) :
    Except PatternError Scan :=
  match scan.mode with
  | .plain =>
    if c = opener then .ok (scan.enter (.naming scan.position [] false))
    else if c ∈ markers then .error (.unexpectedCloser c scan.position)
    else .ok (scan.emit c.toString .plain)
  | .naming openedAt name fallback =>
    if c = opener then .error (.nestedOpener scan.position)
    else if c ∈ markers then scan.settle source placeholder openedAt name fallback c
    else .ok (scan.enter (.naming openedAt (c :: name) fallback))
  | .skipping openedAt =>
    .ok (scan.enter (if c = closer then .plain else .skipping openedAt))
  | .addendum openedAt =>
    if c = closer then .ok (scan.enter .plain)
    else if c ∈ markers then .ok (scan.enter (.skipping openedAt))
    else .ok (scan.emit c.toString (.addendum openedAt))

/-- The fragments in order, unless a token is still open. -/
def finish (scan : Scan) : Except PatternError (List String) :=
  match scan.mode with
  | .plain => .ok scan.fragments.reverse
  | .naming openedAt _ _ | .skipping openedAt | .addendum openedAt =>
    .error (.unterminatedToken openedAt)

end Scan

/-- The fragments that a pattern yields for a file's tags. -/
def compilePattern (source : TagSource) (placeholder : String) (pattern : String) :
    Except PatternError (List String) :=
  pattern.toList.foldlM (Scan.step source placeholder) Scan.start >>= Scan.finish

/-- The relative path that a pattern yields for a file's tags. -/
def renderPattern (source : TagSource) (placeholder : String) (pattern : String) :
    Except PatternError String :=
  String.join <$> compilePattern source placeholder pattern

/-- Accepts a pattern that can be read whatever tags a file has. Without any tags every token tries
    all of its names, so each name is checked. -/
def checkPattern (pattern : String) : Except PatternError Unit :=
  (fun _ => ()) <$> compilePattern Dictionary.empty.lookup defaultPlaceholder pattern

end MusicFiling
