/-!
# Lines

A text is cut at every line boundary, of which a carriage return followed by a line feed is one.
The boundaries are dropped, and a text that ends with one has no empty line after it.
-/

namespace MusicFiling.Text

/-- Characters that end a line. -/
def isLineBreak (c : Char) : Bool :=
  c ∈ ['\n', '\r', '\x0B', '\x0C', '\x1C', '\x1D', '\x1E', '\u0085', '\u2028', '\u2029']

/-- The lines of a text, after the finished lines `done` and the characters `line` of the current
    one, both last first. -/
def linesFrom (done : List (List Char)) (line : List Char) : List Char → List (List Char)
  | [] => (if line.isEmpty then done else line.reverse :: done).reverse
  | '\r' :: '\n' :: rest => linesFrom (line.reverse :: done) [] rest
  | c :: rest =>
    if isLineBreak c then linesFrom (line.reverse :: done) [] rest
    else linesFrom done (c :: line) rest

/-- The lines of a text without their ends. -/
def lines (text : List Char) : List (List Char) :=
  linesFrom [] [] text

/-- A text whose lines all end with a line feed: each carriage return becomes one, together with
    the line feed that may follow it. -/
def unifyNewlines (text : List Char) : List Char :=
  go [] text
where
  go (done : List Char) : List Char → List Char
    | [] => done.reverse
    | '\r' :: '\n' :: rest => go ('\n' :: done) rest
    | '\r' :: rest => go ('\n' :: done) rest
    | c :: rest => go (c :: done) rest

end MusicFiling.Text
