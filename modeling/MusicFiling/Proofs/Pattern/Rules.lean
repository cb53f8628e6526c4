import MusicFiling.Proofs.Pattern.Reading

/-!
# The rules of reading

A character of a pattern either moves the reading on, and then adds at most one piece to what the
pattern yields, or it stops the reading with an error (`move_or_stop`). The rules ask of a tag only
whether it is present; what its value is comes in when the pieces are filled in. A pattern yields
exactly what the rules say (`compilePattern_eq_ok_iff`, `compilePattern_eq_error_iff`).
-/

namespace MusicFiling.Pattern

/-- Where a fragment of a rendered path comes from. -/
inductive Piece where
  /-- A character outside of tokens. -/
  | literal (c : Char)
  /-- The value of a present tag. -/
  | value (tag : Tag)
  /-- A character of an addendum. -/
  | addendum (c : Char)
  /-- What a token leaves that has no present tag. -/
  | placeholder
  deriving DecidableEq, Repr

/-- The fragment that a piece is for a file. -/
def Piece.fragment (source : TagSource) (placeholder : String) : Piece → String
  | .literal c => c.toString
  | .value tag => sanitize placeholder ((source tag).getD "")
  | .addendum c => c.toString
  | .placeholder => placeholder

/-- The character of the pattern that a piece is, if it is one. -/
def Piece.char? : Piece → Option Char
  | .literal c | .addendum c => some c
  | .value _ | .placeholder => none

/-- The tag that a name stands for whose characters are kept last first. -/
def Spells (name : List Char) (tag : Tag) : Prop :=
  Tag.ofName? (String.ofList name.reverse) = some tag

/-- A character that moves the reading from one mode to the next, and the piece that it adds. -/
inductive Move (source : TagSource) (position : Nat) : Mode → Char → Option Piece → Mode → Prop
  | literal {c : Char} (ordinary : Ordinary c) :
      Move source position .plain c (some (.literal c)) .plain
  | opening : Move source position .plain opener none (.naming position [] false)
  | letter {openedAt : Nat} {name : List Char} {fallback : Bool} {c : Char}
      (ordinary : Ordinary c) :
      Move source position (.naming openedAt name fallback) c none
        (.naming openedAt (c :: name) fallback)
  | value {openedAt : Nat} {name : List Char} {fallback : Bool} {tag : Tag}
      (spells : Spells name tag) (present : (source tag).isSome) :
      Move source position (.naming openedAt name fallback) closer (some (.value tag)) .plain
  | valueThenAddendum {openedAt : Nat} {name : List Char} {tag : Tag}
      (spells : Spells name tag) (present : (source tag).isSome) :
      Move source position (.naming openedAt name false) addendumMarker (some (.value tag))
        (.addendum openedAt)
  | valueThenRest {openedAt : Nat} {name : List Char} {fallback : Bool} {tag : Tag} {c : Char}
      (spells : Spells name tag) (present : (source tag).isSome)
      (goesOn : c = fallbackMarker ∨ c = addendumMarker ∧ fallback = true) :
      Move source position (.naming openedAt name fallback) c (some (.value tag))
        (.skipping openedAt)
  | handOver {openedAt : Nat} {name : List Char} {fallback : Bool} {tag : Tag}
      (spells : Spells name tag) (missing : source tag = none) :
      Move source position (.naming openedAt name fallback) fallbackMarker none
        (.naming openedAt [] true)
  | missing {openedAt : Nat} {name : List Char} {fallback : Bool} {tag : Tag}
      (spells : Spells name tag) (missing : source tag = none) :
      Move source position (.naming openedAt name fallback) closer (some .placeholder) .plain
  | vanish {openedAt : Nat} {name : List Char} {fallback : Bool} {tag : Tag}
      (spells : Spells name tag) (missing : source tag = none) :
      Move source position (.naming openedAt name fallback) addendumMarker none
        (.skipping openedAt)
  | skip {openedAt : Nat} {c : Char} (other : c ≠ closer) :
      Move source position (.skipping openedAt) c none (.skipping openedAt)
  | skipped {openedAt : Nat} : Move source position (.skipping openedAt) closer none .plain
  | addition {openedAt : Nat} {c : Char} (other : c ∉ markers) :
      Move source position (.addendum openedAt) c (some (.addendum c)) (.addendum openedAt)
  | cutOff {openedAt : Nat} {c : Char} (other : c ≠ closer) (marker : c ∈ markers) :
      Move source position (.addendum openedAt) c none (.skipping openedAt)
  | added {openedAt : Nat} : Move source position (.addendum openedAt) closer none .plain

/-- A character that stops the reading, and the error that it stops with. -/
inductive Stop (position : Nat) : Mode → Char → PatternError → Prop
  | closes {c : Char} (marker : c ∈ markers) :
      Stop position .plain c (.unexpectedCloser c position)
  | nests {openedAt : Nat} {name : List Char} {fallback : Bool} :
      Stop position (.naming openedAt name fallback) opener (.nestedOpener position)
  | unknown {openedAt : Nat} {name : List Char} {fallback : Bool} {c : Char}
      (marker : c ∈ markers) (unknown : Tag.ofName? (String.ofList name.reverse) = none) :
      Stop position (.naming openedAt name fallback) c
        (.unknownTag (String.ofList name.reverse) position)

section
variable {source : TagSource} {position : Nat} {mode next : Mode} {c : Char} {piece : Option Piece}
  {error : PatternError}

private theorem move_or_stop_naming (source : TagSource) (position openedAt : Nat)
    (name : List Char) (fallback : Bool) {c : Char} (marker : c ∈ markers) :
    (∃ piece next, Move source position (.naming openedAt name fallback) c piece next) ∨
      ∃ error, Stop position (.naming openedAt name fallback) c error := by
  cases spells : Tag.ofName? (String.ofList name.reverse) with
  | none => exact .inr ⟨_, .unknown marker spells⟩
  | some tag =>
    left
    cases found : source tag with
    | none =>
      rcases mem_markers_iff.mp marker with rfl | rfl | rfl
      · exact ⟨_, _, .missing spells found⟩
      · exact ⟨_, _, .handOver spells found⟩
      · exact ⟨_, _, .vanish spells found⟩
    | some value =>
      have present : (source tag).isSome := by rw [found]; rfl
      rcases mem_markers_iff.mp marker with rfl | rfl | rfl
      · exact ⟨_, _, .value spells present⟩
      · exact ⟨_, _, .valueThenRest spells present (.inl rfl)⟩
      · cases fallback with
        | false => exact ⟨_, _, .valueThenAddendum spells present⟩
        | true => exact ⟨_, _, .valueThenRest spells present (.inr ⟨rfl, rfl⟩)⟩

/-- In every mode a character moves the reading on or stops it. -/
theorem move_or_stop (source : TagSource) (position : Nat) (mode : Mode) (c : Char) :
    (∃ piece next, Move source position mode c piece next) ∨
      ∃ error, Stop position mode c error := by
  cases mode with
  | plain =>
    rcases opener_or_marker_or_ordinary c with rfl | marker | ordinary
    · exact .inl ⟨_, _, .opening⟩
    · exact .inr ⟨_, .closes marker⟩
    · exact .inl ⟨_, _, .literal ordinary⟩
  | naming openedAt name fallback =>
    rcases opener_or_marker_or_ordinary c with rfl | marker | ordinary
    · exact .inr ⟨_, .nests⟩
    · exact move_or_stop_naming source position openedAt name fallback marker
    · exact .inl ⟨_, _, .letter ordinary⟩
  | skipping openedAt =>
    by_cases closes : c = closer
    · subst closes
      exact .inl ⟨_, _, .skipped⟩
    · exact .inl ⟨_, _, .skip closes⟩
  | addendum openedAt =>
    by_cases closes : c = closer
    · subst closes
      exact .inl ⟨_, _, .added⟩
    · by_cases marker : c ∈ markers
      · exact .inl ⟨_, _, .cutOff closes marker⟩
      · exact .inl ⟨_, _, .addition marker⟩

section
variable (placeholder : String) (fragments : List String)

private theorem step_of_value {openedAt : Nat} {name : List Char} {fallback : Bool} {tag : Tag}
    (spells : Spells name tag) (present : (source tag).isSome) (marker : c ∈ markers) :
    Scan.step source placeholder ⟨position, .naming openedAt name fallback, fragments⟩ c =
      .ok ⟨position + 1,
        if c = closer then .plain
        else if c = addendumMarker ∧ !fallback then .addendum openedAt
        else .skipping openedAt,
        (Piece.value tag).fragment source placeholder :: fragments⟩ := by
  obtain ⟨value, found⟩ := Option.isSome_iff_exists.mp present
  rw [Scan.step_naming_marker marker, Scan.settle_present spells found]
  simp [Scan.emit, Piece.fragment, found]

theorem step_of_move (move : Move source position mode c piece next) :
    Scan.step source placeholder ⟨position, mode, fragments⟩ c =
      .ok ⟨position + 1, next,
        (piece.map (Piece.fragment source placeholder)).toList ++ fragments⟩ := by
  cases move with
  | literal ordinary => exact Scan.step_plain_ordinary ordinary
  | opening => exact Scan.step_plain_opener
  | letter ordinary => exact Scan.step_naming_ordinary ordinary
  | value spells present =>
    exact step_of_value placeholder fragments spells present closer_mem_markers
  | valueThenAddendum spells present =>
    exact step_of_value placeholder fragments spells present addendumMarker_mem_markers
  | valueThenRest spells present goesOn =>
    rcases goesOn with rfl | ⟨rfl, rfl⟩
    · exact step_of_value placeholder fragments spells present fallbackMarker_mem_markers
    · exact step_of_value placeholder fragments spells present addendumMarker_mem_markers
  | handOver spells missing =>
    rw [Scan.step_naming_marker fallbackMarker_mem_markers, Scan.settle_missing spells missing]
    rfl
  | missing spells missing =>
    rw [Scan.step_naming_marker closer_mem_markers, Scan.settle_missing spells missing]
    rfl
  | vanish spells missing =>
    rw [Scan.step_naming_marker addendumMarker_mem_markers, Scan.settle_missing spells missing]
    rfl
  | skip other => exact Scan.step_skipping_other other
  | skipped => exact Scan.step_skipping_closer
  | addition other => exact Scan.step_addendum_other other
  | cutOff other marker => exact Scan.step_addendum_marker other marker
  | added => exact Scan.step_addendum_closer

theorem step_of_stop (source : TagSource) (stop : Stop position mode c error) :
    Scan.step source placeholder ⟨position, mode, fragments⟩ c = .error error := by
  cases stop with
  | closes marker => exact Scan.step_plain_marker marker
  | nests => exact Scan.step_naming_opener
  | unknown marker unknown =>
    rw [Scan.step_naming_marker marker, Scan.settle_unknown unknown]

end

end

/-- A text that moves the reading from one mode to another, and the pieces that it yields. -/
inductive Yields (source : TagSource) : Nat → Mode → List Char → List Piece → Mode → Prop
  | nil {position : Nat} {mode : Mode} : Yields source position mode [] [] mode
  | cons {position : Nat} {mode next last : Mode} {c : Char} {text : List Char}
      {piece : Option Piece} {pieces : List Piece} (move : Move source position mode c piece next)
      (rest : Yields source (position + 1) next text pieces last) :
      Yields source position mode (c :: text) (piece.toList ++ pieces) last

/-- A text that stops the reading, at the first character that does not move it on. -/
def Stops (source : TagSource) (position : Nat) (mode : Mode) (text : List Char)
    (error : PatternError) : Prop :=
  ∃ (before : List Char) (c : Char) (after : List Char) (pieces : List Piece) (last : Mode),
    text = before ++ c :: after ∧ Yields source position mode before pieces last ∧
      Stop (position + before.length) last c error

section
variable {source : TagSource} {position : Nat} {mode last : Mode} {text : List Char}
  {pieces : List Piece} {error : PatternError}

theorem Yields.append {second : List Char} {later : List Piece} {final : Mode}
    (yields : Yields source position mode text pieces last)
    (further : Yields source (position + text.length) last second later final) :
    Yields source position mode (text ++ second) (pieces ++ later) final := by
  induction yields with
  | nil => simpa using further
  | cons move rest ih =>
    rw [List.cons_append, List.append_assoc]
    refine .cons move (ih ?_)
    rwa [List.length_cons, Nat.add_comm (List.length _), ← Nat.add_assoc] at further

private theorem Yields.concat {c : Char} {piece : Option Piece} {next : Mode}
    (yields : Yields source 0 .plain text pieces last)
    (move : Move source text.length last c piece next) :
    Yields source 0 .plain (text ++ [c]) (pieces ++ piece.toList) next := by
  have single : Yields source (0 + text.length) last [c] (piece.toList ++ []) next := by
    rw [Nat.zero_add]
    exact .cons move .nil
  simpa using yields.append single

theorem Stops.prepend {before : List Char} {earlier : List Piece} {first : Mode}
    (yields : Yields source position first before earlier mode)
    (stops : Stops source (position + before.length) mode text error) :
    Stops source position first (before ++ text) error := by
  obtain ⟨front, c, after, pieces, last, rfl, further, stop⟩ := stops
  refine ⟨before ++ front, c, after, _, last, by simp, yields.append further, ?_⟩
  rwa [List.length_append, ← Nat.add_assoc]

/-- What holds before the first character, and is kept by every character that moves the reading
    on, holds of all that was read. -/
theorem Yields.start_induction
    {motive : ∀ text pieces mode, Yields source 0 .plain text pieces mode → Prop}
    (nil : motive [] [] .plain .nil)
    (concat : ∀ {text pieces mode c piece next} (yields : Yields source 0 .plain text pieces mode)
      (move : Move source text.length mode c piece next), motive text pieces mode yields →
      motive (text ++ [c]) (pieces ++ piece.toList) next (yields.concat move))
    {text : List Char} {pieces : List Piece} {last : Mode}
    (yields : Yields source 0 .plain text pieces last) : motive text pieces last yields := by
  -- The rules unfold at the end that is still to be read, so what was read is carried along.
  suffices further : ∀ before earlier {position mode rest later final},
      Yields source position mode rest later final → position = before.length →
      (reached : Yields source 0 .plain before earlier mode) → motive before earlier mode reached →
      ∀ whole, motive (before ++ rest) (earlier ++ later) final whole from
    further [] [] yields rfl .nil nil yields
  intro before earlier position mode rest later final yields
  induction yields generalizing before earlier with
  | nil =>
    intro _ reached holds whole
    simpa using holds
  | @cons position mode next last c text piece pieces move rest ih =>
    rintro rfl reached holds whole
    have again : Yields source 0 .plain ((before ++ [c]) ++ text)
        ((earlier ++ piece.toList) ++ pieces) last := by
      simpa using whole
    simpa using ih _ _ (by simp) (reached.concat move) (concat reached move holds) again

/-- The induction is on the text; the reading goes on until a character stops it. -/
theorem yields_or_stops (source : TagSource) (position : Nat) (mode : Mode) (text : List Char) :
    (∃ pieces last, Yields source position mode text pieces last) ∨
      ∃ error, Stops source position mode text error := by
  induction text generalizing position mode with
  | nil => exact .inl ⟨_, _, .nil⟩
  | cons c rest ih =>
    rcases move_or_stop source position mode c with ⟨piece, next, move⟩ | ⟨error, stop⟩
    · rcases ih (position + 1) next with ⟨pieces, last, yields⟩ | ⟨error, stops⟩
      · exact .inl ⟨_, _, .cons move yields⟩
      · exact .inr ⟨error, Stops.prepend (.cons move .nil) stops⟩
    · exact .inr ⟨error, [], c, rest, [], mode, rfl, .nil, stop⟩

theorem read_of_yields (placeholder : String)
    (yields : Yields source position mode text pieces last) (fragments : List String) :
    Scan.read source placeholder ⟨position, mode, fragments⟩ text =
      .ok ⟨position + text.length, last,
        (pieces.map (Piece.fragment source placeholder)).reverse ++ fragments⟩ := by
  induction yields generalizing fragments with
  | nil => rfl
  | @cons position mode next last c text piece pieces move rest ih =>
    rw [Scan.read_cons_of_step source placeholder text (step_of_move placeholder fragments move),
      ih]
    cases piece <;> simp [Nat.add_assoc, Nat.add_comm 1]

private theorem read_of_stops (placeholder : String) (stops : Stops source position mode text error)
    (fragments : List String) :
    Scan.read source placeholder ⟨position, mode, fragments⟩ text = .error error := by
  obtain ⟨before, c, after, pieces, last, rfl, yields, stop⟩ := stops
  rw [Scan.read_append_of_read source placeholder _ (read_of_yields placeholder yields fragments),
    Scan.read_cons, step_of_stop placeholder _ source stop]
  rfl

end

/-- The place of the opener of the token that is open in a mode. -/
def openedAt? : Mode → Option Nat
  | .plain => none
  | .naming openedAt _ _ | .skipping openedAt | .addendum openedAt => some openedAt

/-- The pieces that a pattern is made of for a file. -/
def Outline (source : TagSource) (pattern : String) (pieces : List Piece) : Prop :=
  Yields source 0 .plain pattern.toList pieces .plain

/-- A pattern that is refused for a file: a character stops the reading, or the pattern ends inside
    a token. -/
inductive Refused (source : TagSource) (pattern : String) : PatternError → Prop
  | stopped {error : PatternError} (stops : Stops source 0 .plain pattern.toList error) :
      Refused source pattern error
  | unfinished {pieces : List Piece} {mode : Mode} {openedAt : Nat}
      (yields : Yields source 0 .plain pattern.toList pieces mode)
      (open_ : openedAt? mode = some openedAt) :
      Refused source pattern (.unterminatedToken openedAt)

section
variable {source : TagSource} {placeholder pattern : String}

theorem outline_or_refused (source : TagSource) (pattern : String) :
    (∃ pieces, Outline source pattern pieces) ∨ ∃ error, Refused source pattern error := by
  rcases yields_or_stops source 0 .plain pattern.toList with ⟨pieces, last, yields⟩ | ⟨error, stops⟩
  · cases open_ : openedAt? last with
    | none =>
      cases last with
      | plain => exact .inl ⟨pieces, yields⟩
      | naming | skipping | addendum => cases open_
    | some openedAt => exact .inr ⟨_, .unfinished yields open_⟩
  · exact .inr ⟨error, .stopped stops⟩

theorem compilePattern_of_outline (placeholder : String) {pieces : List Piece}
    (outline : Outline source pattern pieces) :
    compilePattern source placeholder pattern =
      .ok (pieces.map (Piece.fragment source placeholder)) := by
  rw [Scan.compilePattern_eq_read, Scan.start, read_of_yields placeholder outline []]
  simp [bind, Except.bind, Scan.finish]

theorem compilePattern_of_refused (placeholder : String) {error : PatternError}
    (refused : Refused source pattern error) :
    compilePattern source placeholder pattern = .error error := by
  rw [Scan.compilePattern_eq_read, Scan.start]
  cases refused with
  | stopped stops =>
    rw [read_of_stops placeholder stops []]
    rfl
  | @unfinished pieces mode openedAt yields open_ =>
    rw [read_of_yields placeholder yields []]
    cases mode with
    | plain => cases open_
    | naming | skipping | addendum =>
      obtain rfl := Option.some.inj open_
      rfl

/-- A pattern yields the pieces that the rules say, filled in for the file. -/
theorem compilePattern_eq_ok_iff {fragments : List String} :
    compilePattern source placeholder pattern = .ok fragments ↔
      ∃ pieces, Outline source pattern pieces ∧
        pieces.map (Piece.fragment source placeholder) = fragments := by
  constructor
  · intro compiled
    rcases outline_or_refused source pattern with ⟨pieces, outline⟩ | ⟨error, refused⟩
    · rw [compilePattern_of_outline placeholder outline] at compiled
      exact ⟨pieces, outline, Except.ok.inj compiled⟩
    · rw [compilePattern_of_refused placeholder refused] at compiled
      cases compiled
  · rintro ⟨pieces, outline, rfl⟩
    exact compilePattern_of_outline placeholder outline

/-- A pattern is refused with the error that the rules say. -/
theorem compilePattern_eq_error_iff {error : PatternError} :
    compilePattern source placeholder pattern = .error error ↔ Refused source pattern error := by
  constructor
  · intro compiled
    rcases outline_or_refused source pattern with ⟨pieces, outline⟩ | ⟨found, refused⟩
    · rw [compilePattern_of_outline placeholder outline] at compiled
      cases compiled
    · rw [compilePattern_of_refused placeholder refused] at compiled
      obtain rfl := Except.error.inj compiled
      exact refused
  · exact compilePattern_of_refused placeholder

end

end MusicFiling.Pattern
