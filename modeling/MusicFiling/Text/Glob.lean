import MusicFiling.Text.Letter

/-!
# Shell patterns

A shell pattern is a sequence of pieces: a star stands for any text, every other piece for one
character. Pieces match folder separators and line ends like any other character, and nothing is
escaped. Bracket sets list characters and ranges; an unclosed bracket is an ordinary character, and
an inverted range is empty.
-/

namespace MusicFiling.Text.Glob

/-- A member of a bracket set: all characters from `low` to `high`. -/
structure Span where
  low : Char
  high : Char
  deriving DecidableEq, Repr

/-- A piece of a shell pattern. -/
inductive Piece where
  | star
  | any
  | char (c : Char)
  | set (negated : Bool) (spans : List Span)
  deriving DecidableEq, Repr

/-- Whether a piece stands for the letter. -/
def Piece.accepts (l : Letter) : Piece → Bool
  | .star => false
  | .any => true
  | .char c => l = .char c
  | .set negated spans =>
    (spans.any fun s => s.low.toNat ≤ l.code && l.code ≤ s.high.toNat) != negated

/-! ## Bracket sets

The text of a set is first cut at the hyphens that join two range ends. Such a hyphen has a
character of its set before it, which is not the end of a range, and a hyphen right after a range
is ordinary. -/

/-- The chunks of a set's text between its range hyphens; `chunk` holds the characters since the
    last one, last first, of which the first `fixed` to come are ordinary even as hyphens. -/
def chunksFrom (fixed : Nat) (chunk : List Char) : List Char → List (List Char)
  | [] => [chunk.reverse]
  | c :: rest =>
    match fixed with
    | n + 1 => chunksFrom n (c :: chunk) rest
    | 0 => if c = '-' then chunk.reverse :: chunksFrom 2 [] rest else chunksFrom 0 (c :: chunk) rest

/-- A hyphen at the very end of a set's text joins nothing and is ordinary. -/
def closeLast : List (List Char) → List (List Char)
  | [chunk, []] => [chunk ++ ['-']]
  | chunk :: rest => chunk :: closeLast rest
  | [] => []

/-- Drops each inverted range together with its two ends, from the last range to the first. -/
def dropInverted : List (List Char) → List (List Char)
  | [] => []
  | chunk :: rest =>
    match dropInverted rest with
    | [] => [chunk]
    | next :: more =>
      match chunk.getLast?, next with
      | some high, low :: tail =>
        if high > low then (chunk.dropLast ++ tail) :: more else chunk :: next :: more
      | _, _ => chunk :: next :: more

/-- An element of a set's text: a character, or a hyphen that joins range ends. -/
inductive Mark where
  | char (c : Char)
  | hyphen
  deriving DecidableEq, Repr

/-- The elements of chunks that hyphens join. -/
def marks : List (List Char) → List Mark
  | [] => []
  | [chunk] => chunk.map .char
  | chunk :: rest => chunk.map .char ++ .hyphen :: marks rest

/-- The character an element shows. -/
def Mark.shown : Mark → Char
  | .char c => c
  | .hyphen => '-'

/-- The members that a set's elements list. -/
def spans : List Mark → List Span
  | a :: .hyphen :: b :: rest => ⟨a.shown, b.shown⟩ :: spans rest
  | a :: rest => ⟨a.shown, a.shown⟩ :: spans rest
  | [] => []

/-- The chunks of a set's text, where the hyphen right after the start, or right after a leading
    exclamation mark, is ordinary. -/
def chunks (text : List Char) : List (List Char) :=
  chunksFrom (if text.head? = some '!' then 2 else 1) [] text

/-- The piece that a set's text describes: none but inverted ranges match nothing, and a leading
    exclamation mark negates the set. -/
def setPiece (text : List Char) : Piece :=
  match marks (dropInverted (closeLast (chunks text))) with
  | [] => .set false []
  | .char '!' :: rest => .set true (spans rest)
  | all => .set false (spans all)

/-- How many characters at the start of a set cannot close it: an exclamation mark, and a bracket
    that stands first or right after that mark. -/
def ordinaryLead : List Char → Nat
  | '!' :: ']' :: _ => 2
  | '!' :: _ => 1
  | ']' :: _ => 1
  | _ => 0

/-- The text of the set that starts here and what follows its closing bracket. -/
def bracketText (text : List Char) : Option (List Char × List Char) :=
  let lead := ordinaryLead text
  let body := (text.drop lead).takeWhile (· ≠ ']')
  match text.drop (lead + body.length) with
  | [] => none
  | _ :: rest => some (text.take lead ++ body, rest)

theorem bracketText_length_lt {text set rest : List Char}
    (h : bracketText text = some (set, rest)) : rest.length < text.length := by
  simp only [bracketText] at h
  split at h
  · simp at h
  · next dropped =>
    have := congrArg List.length dropped
    simp only [Option.some.injEq, Prod.mk.injEq] at h
    simp only [List.length_drop, List.length_cons, h.2] at this
    omega

/-- The pieces of a shell pattern. -/
def pieces : List Char → List Piece
  | [] => []
  | '*' :: rest => .star :: pieces rest
  | '?' :: rest => .any :: pieces rest
  | '[' :: rest =>
    match _closed : bracketText rest with
    | some (text, after) => setPiece text :: pieces after
    | none => .char '[' :: pieces rest
  | c :: rest => .char c :: pieces rest
termination_by text => text.length
decreasing_by
  · simp
  · simp
  · exact Nat.lt_succ_of_lt (bracketText_length_lt _closed)
  · simp
  · simp

/-- All endings of a text, the longest first. -/
def endings : List Letter → List (List Letter)
  | [] => [[]]
  | l :: rest => (l :: rest) :: endings rest

/-- The texts that may be left after a piece, given those left before it; both are endings of one
    text, the longest first. -/
def advance (left : List (List Letter)) : Piece → List (List Letter)
  | .star => match left with
    | [] => []
    | longest :: _ => endings longest
  | piece => left.filterMap fun
    | l :: rest => if piece.accepts l then some rest else none
    | [] => none

/-- Whether the pieces match the whole text. -/
def matchesPieces (pieces : List Piece) (text : List Letter) : Bool :=
  (pieces.foldl advance [text]).contains []

end MusicFiling.Text.Glob

namespace MusicFiling.Text

/-- Whether a shell pattern matches a whole text. -/
def globMatches (pattern : String) (text : List Letter) : Bool :=
  Glob.matchesPieces (Glob.pieces pattern.toList) text

end MusicFiling.Text
