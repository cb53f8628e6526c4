import MusicFiling.Proofs.Pattern.Rules

/-!
# Patterns put together

Nothing of a token is left once it is closed, so a pattern that can be read is read the same way
whatever follows it, and what follows is read as if it stood alone. Only its places are further on
(`compilePattern_compose`).
-/

namespace MusicFiling

/-- The mode with the places of its text a number of characters further on. -/
def Mode.shifted (offset : Nat) : Mode → Mode
  | .plain => .plain
  | .naming openedAt name fallback => .naming (offset + openedAt) name fallback
  | .skipping openedAt => .skipping (offset + openedAt)
  | .addendum openedAt => .addendum (offset + openedAt)

/-- The same error found a number of characters further on. -/
def PatternError.shifted (offset : Nat) : PatternError → PatternError
  | .unknownTag raw position => .unknownTag raw (offset + position)
  | .unexpectedCloser char position => .unexpectedCloser char (offset + position)
  | .nestedOpener position => .nestedOpener (offset + position)
  | .unterminatedToken position => .unterminatedToken (offset + position)

namespace Pattern

section
variable {source : TagSource} {position : Nat} {mode next : Mode} (offset : Nat)

private theorem Move.shifted {c : Char} {piece : Option Piece}
    (move : Move source position mode c piece next) :
    Move source (offset + position) (mode.shifted offset) c piece (next.shifted offset) := by
  cases move with
  | literal ordinary => exact .literal ordinary
  | opening => exact .opening
  | letter ordinary => exact .letter ordinary
  | value spells present => exact .value spells present
  | valueThenAddendum spells present => exact .valueThenAddendum spells present
  | valueThenRest spells present goesOn => exact .valueThenRest spells present goesOn
  | handOver spells missing => exact .handOver spells missing
  | missing spells missing => exact .missing spells missing
  | vanish spells missing => exact .vanish spells missing
  | skip other => exact .skip other
  | skipped => exact .skipped
  | addition other => exact .addition other
  | cutOff other marker => exact .cutOff other marker
  | added => exact .added

private theorem Stop.shifted {c : Char} {error : PatternError} (stop : Stop position mode c error) :
    Stop (offset + position) (mode.shifted offset) c (error.shifted offset) := by
  cases stop with
  | closes marker => exact .closes marker
  | nests => exact .nests
  | unknown marker unknown => exact .unknown marker unknown

private theorem Yields.shifted {text : List Char} {pieces : List Piece}
    (yields : Yields source position mode text pieces next) :
    Yields source (offset + position) (mode.shifted offset) text pieces (next.shifted offset) := by
  induction yields with
  | nil => exact .nil
  | cons move rest ih => exact .cons (move.shifted offset) ih

private theorem Stops.shifted {text : List Char} {error : PatternError}
    (stops : Stops source position mode text error) :
    Stops source (offset + position) (mode.shifted offset) text (error.shifted offset) := by
  obtain ⟨before, c, after, pieces, last, written, yields, stop⟩ := stops
  refine ⟨before, c, after, pieces, _, written, yields.shifted offset, ?_⟩
  rw [Nat.add_assoc]
  exact stop.shifted offset

private theorem openedAt?_shifted (mode : Mode) :
    openedAt? (mode.shifted offset) = (openedAt? mode).map (offset + ·) := by
  cases mode <;> rfl

end

section
variable {source : TagSource} {first second : String} {pieces : List Piece}

/-- Reading comes to the second pattern outside of tokens, at the place where the first one ends. -/
private theorem Yields.after_outline {later : List Piece} {last : Mode}
    (outline : Outline source first pieces)
    (yields : Yields source 0 .plain second.toList later last) :
    Yields source 0 .plain (first ++ second).toList (pieces ++ later)
      (last.shifted first.length) := by
  rw [String.toList_append]
  refine Yields.append outline ?_
  rw [String.length_toList, Nat.zero_add]
  exact yields.shifted first.length

private theorem Outline.append {later : List Piece} (outline : Outline source first pieces)
    (further : Outline source second later) : Outline source (first ++ second) (pieces ++ later) :=
  Yields.after_outline outline further

private theorem Refused.after_outline {error : PatternError} (outline : Outline source first pieces)
    (refused : Refused source second error) :
    Refused source (first ++ second) (error.shifted first.length) := by
  cases refused with
  | stopped stops =>
    refine .stopped ?_
    rw [String.toList_append]
    refine Stops.prepend outline ?_
    rw [String.length_toList, Nat.zero_add]
    exact stops.shifted first.length
  | @unfinished later mode openedAt yields open_ =>
    refine .unfinished (Yields.after_outline outline yields) ?_
    rw [openedAt?_shifted, open_]
    rfl

/-- After a pattern that can be read, another one is read as if it stood alone: its fragments follow
    those of the first pattern, and an error in it is found as many characters further on as the
    first pattern has. -/
theorem compilePattern_compose {placeholder : String} {fragments : List String}
    (readable : compilePattern source placeholder first = .ok fragments) :
    compilePattern source placeholder (first ++ second) =
      ((compilePattern source placeholder second).mapError (PatternError.shifted first.length)).map
        (fragments ++ ·) := by
  obtain ⟨pieces, outline, rfl⟩ := compilePattern_eq_ok_iff.mp readable
  rcases outline_or_refused source second with ⟨later, further⟩ | ⟨error, refused⟩
  · rw [compilePattern_of_outline placeholder further,
      compilePattern_of_outline placeholder (outline.append further), List.map_append]
    rfl
  · rw [compilePattern_of_refused placeholder refused,
      compilePattern_of_refused placeholder (refused.after_outline outline)]
    rfl

/-- A name that no tag has is found where the second pattern ends, nine characters further on. -/
theorem compilePattern_compose_side :
    compilePattern (fun _ => some "1") "_" "\x7bdisc+\x7b-\x7d" = .ok ["1", "\x7b", "-"] ∧
    compilePattern (fun _ => some "1") "_" ("\x7bdisc+\x7b-\x7d" ++ "\x7bside\x7d") =
      .error (.unknownTag "side" 14) := by
  have readable : compilePattern (fun _ => some "1") "_" "\x7bdisc+\x7b-\x7d" =
      .ok ["1", "\x7b", "-"] := rfl
  exact ⟨readable, compilePattern_compose readable⟩

end

end Pattern

end MusicFiling
