/-!
# Plain text

A terminal sequence is the escape character, an opening bracket, any number of parameter characters
and a letter. Plain text has none; an unfinished sequence counts as ordinary text.
-/

namespace MusicFiling.Text

/-- Characters that may stand between the bracket and the letter of a terminal sequence. -/
def isSequenceParameter (c : Char) : Bool :=
  c.isDigit || c = ';' || c = '?'

/-- The text after a terminal sequence, from what follows its bracket. -/
def afterSequence? (text : List Char) : Option (List Char) :=
  match text.dropWhile isSequenceParameter with
  | [] => none
  | c :: rest => if c.isAlpha then some rest else none

/-- A terminal sequence has at least its letter after the bracket. -/
theorem length_lt_of_afterSequence? {text rest : List Char} (h : afterSequence? text = some rest) :
    rest.length < text.length := by
  have dropped := (List.dropWhile_sublist isSequenceParameter (l := text)).length_le
  unfold afterSequence? at h
  split at h
  · cases h
  · next kept =>
    split at h
    · cases h
      rw [kept] at dropped
      exact dropped
    · cases h

/-- A text without its terminal sequences. Nothing is read twice, so that what is left of two of
    them may look like another. -/
def plainText (text : List Char) : List Char :=
  go [] text
where
  go (done : List Char) : List Char → List Char
    | [] => done.reverse
    | '\x1B' :: '[' :: rest =>
      match h : afterSequence? rest with
      | some rest' =>
        have := length_lt_of_afterSequence? h
        go done rest'
      | none => go ('[' :: '\x1B' :: done) rest
    | c :: rest => go (c :: done) rest
  termination_by text => text.length

end MusicFiling.Text
