import MusicFiling.Proofs.Pattern.Rules

/-!
# The place of an error

An error names the first place at which a pattern cannot be read. What stands before that place can
be read by itself, or does nothing worse than end inside a token; what stands after it cannot make
up for it (`compilePattern_first_problem`).
-/

namespace MusicFiling.Pattern

/-- The token that is open at the end of a text: it opens at a place where the text can be read by
    itself, and has not been closed since. -/
def OpensAt (source : TagSource) (text : List Char) (openedAt : Nat) : Prop :=
  ∃ (outside inside : List Char) (pieces : List Piece), text = outside ++ opener :: inside ∧
    outside.length = openedAt ∧ closer ∉ inside ∧ Yields source 0 .plain outside pieces .plain

section
variable {source : TagSource} {text : List Char} {pieces : List Piece} {mode : Mode}
  {openedAt : Nat}

private theorem OpensAt.concat (opens : OpensAt source text openedAt) {c : Char}
    (other : c ≠ closer) :
    OpensAt source (text ++ [c]) openedAt := by
  obtain ⟨outside, inside, pieces, rfl, place, unclosed, yields⟩ := opens
  refine ⟨outside, inside ++ [c], pieces, by simp, place, ?_, yields⟩
  simp [unclosed, Ne.symm other]

/-- A token that is open after a character was opened by it, or was open before and is not closed by
    it. -/
theorem Move.opening_or_open {position : Nat} {c : Char} {piece : Option Piece} {next : Mode}
    (move : Move source position mode c piece next) (open_ : openedAt? next = some openedAt) :
    (mode = .plain ∧ c = opener ∧ position = openedAt) ∨
      (openedAt? mode = some openedAt ∧ c ≠ closer) := by
  cases move with
  | opening => exact .inl ⟨rfl, rfl, Option.some.inj open_⟩
  | letter ordinary => exact .inr ⟨open_, ordinary.ne_closer⟩
  | valueThenAddendum => exact .inr ⟨open_, by decide⟩
  | valueThenRest spells present goesOn =>
    refine .inr ⟨open_, ?_⟩
    rcases goesOn with rfl | ⟨rfl, -⟩ <;> decide
  | handOver => exact .inr ⟨open_, by decide⟩
  | vanish => exact .inr ⟨open_, by decide⟩
  | skip other => exact .inr ⟨open_, other⟩
  | addition other => exact .inr ⟨open_, fun same => other (same ▸ closer_mem_markers)⟩
  | cutOff other marker => exact .inr ⟨open_, other⟩
  | literal | value | missing | skipped | added => cases open_

theorem Yields.opensAt (yields : Yields source 0 .plain text pieces mode) :
    ∀ {openedAt : Nat}, openedAt? mode = some openedAt → OpensAt source text openedAt := by
  induction yields using Yields.start_induction with
  | nil =>
    intro openedAt open_
    cases open_
  | @concat text pieces mode c piece next yields move opens =>
    intro openedAt open_
    rcases move.opening_or_open open_ with ⟨rfl, rfl, place⟩ | ⟨before, other⟩
    · exact ⟨text, [], pieces, rfl, place, List.not_mem_nil, yields⟩
    · exact (opens before).concat other

/-- A name that is being read is what stands after the opener or after the last fallback marker. -/
theorem Yields.name (yields : Yields source 0 .plain text pieces mode) :
    ∀ {openedAt : Nat} {name : List Char} {fallback : Bool}, mode = .naming openedAt name fallback →
      (∀ c ∈ name, Ordinary c) ∧
        ∃ before separator, (separator = opener ∨ separator = fallbackMarker) ∧
          text = before ++ separator :: name.reverse := by
  induction yields using Yields.start_induction with
  | nil =>
    intro _ _ _ naming
    cases naming
  | @concat text pieces mode c piece next yields move named =>
    rintro openedAt name fallback rfl
    cases move with
    | opening => exact ⟨by simp, text, opener, .inl rfl, rfl⟩
    | handOver => exact ⟨by simp, text, fallbackMarker, .inr rfl, rfl⟩
    | letter ordinary =>
      obtain ⟨letters, before, separator, separates, rfl⟩ := named rfl
      refine ⟨List.forall_mem_cons.mpr ⟨ordinary, letters⟩, before, separator, separates, ?_⟩
      simp

end

/-- The pattern before one of its characters. -/
def upTo (pattern : String) (position : Nat) : String :=
  String.ofList (pattern.toList.take position)

section
variable (source : TagSource) (placeholder pattern : String)

/-- The pattern can be read. -/
def Readable : Prop := ∃ fragments, compilePattern source placeholder pattern = .ok fragments

/-- The pattern is refused because it ends inside a token, which opens at the place. -/
def EndsInsideToken (openedAt : Nat) : Prop :=
  compilePattern source placeholder pattern = .error (.unterminatedToken openedAt)

/-- What an error tells of a pattern of which it is the first problem. -/
def FirstProblem : PatternError → Prop
  | .unexpectedCloser char position =>
    pattern.toList[position]? = some char ∧ char ∈ markers ∧
      Readable source placeholder (upTo pattern position)
  | .nestedOpener position =>
    pattern.toList[position]? = some opener ∧
      ∃ openedAt < position, EndsInsideToken source placeholder (upTo pattern position) openedAt
  | .unknownTag raw position =>
    (∃ marker ∈ markers, pattern.toList[position]? = some marker) ∧
      (∀ c ∈ raw.toList, Ordinary c) ∧ Tag.ofName? raw = none ∧
      (∃ before separator, (separator = opener ∨ separator = fallbackMarker) ∧
        pattern.toList.take position = before ++ separator :: raw.toList) ∧
      ∃ openedAt < position, EndsInsideToken source placeholder (upTo pattern position) openedAt
  | .unterminatedToken openedAt =>
    pattern.toList[openedAt]? = some opener ∧ closer ∉ pattern.toList.drop (openedAt + 1) ∧
      Readable source placeholder (upTo pattern openedAt)

end

section
variable {source : TagSource} {pattern : String} {before after : List Char} {pieces : List Piece}
  {mode : Mode} {openedAt : Nat} (placeholder : String)

private theorem upTo_length (written : pattern.toList = before ++ after) :
    upTo pattern before.length = String.ofList before := by
  rw [upTo, written, List.take_left]

private theorem readable_upTo (written : pattern.toList = before ++ after)
    (yields : Yields source 0 .plain before pieces .plain) :
    Readable source placeholder (upTo pattern before.length) := by
  have outline : Outline source (String.ofList before) pieces := by
    rwa [Outline, String.toList_ofList]
  rw [upTo_length written]
  exact ⟨_, compilePattern_of_outline placeholder outline⟩

private theorem endsInsideToken_upTo (written : pattern.toList = before ++ after)
    (yields : Yields source 0 .plain before pieces mode) (open_ : openedAt? mode = some openedAt) :
    ∃ openedAt < before.length,
      EndsInsideToken source placeholder (upTo pattern before.length) openedAt := by
  refine ⟨openedAt, ?_, ?_⟩
  · obtain ⟨outside, inside, _, rfl, rfl, -, -⟩ := yields.opensAt open_
    simp
  · have unfinished : Refused source (String.ofList before) (.unterminatedToken openedAt) := by
      rw [← String.toList_ofList (l := before)] at yields
      exact .unfinished yields open_
    rw [upTo_length written]
    exact compilePattern_of_refused placeholder unfinished

private theorem firstProblem_of_stop {c : Char} {error : PatternError}
    (written : pattern.toList = before ++ c :: after)
    (yields : Yields source 0 .plain before pieces mode) (stop : Stop before.length mode c error) :
    FirstProblem source placeholder pattern error := by
  have stands : pattern.toList[before.length]? = some c := by simp [written]
  cases stop with
  | closes marker => exact ⟨stands, marker, readable_upTo placeholder written yields⟩
  | nests => exact ⟨stands, endsInsideToken_upTo placeholder written yields rfl⟩
  | @unknown openedAt name fallback c marker unknown =>
    obtain ⟨ordinary, front, separator, separates, rfl⟩ := yields.name rfl
    refine ⟨⟨c, marker, stands⟩, ?_, unknown, ⟨front, separator, separates, ?_⟩,
      endsInsideToken_upTo placeholder written yields rfl⟩
    · simpa using ordinary
    · rw [written, List.take_left, String.toList_ofList]

private theorem firstProblem_of_unfinished
    (yields : Yields source 0 .plain pattern.toList pieces mode)
    (open_ : openedAt? mode = some openedAt) :
    FirstProblem source placeholder pattern (.unterminatedToken openedAt) := by
  obtain ⟨outside, inside, _, written, rfl, unclosed, yields⟩ := yields.opensAt open_
  have rest : pattern.toList.drop (outside.length + 1) = inside := by
    rw [written, ← List.drop_drop, List.drop_left]
    rfl
  exact ⟨by simp [written], rest ▸ unclosed, readable_upTo placeholder written yields⟩

private theorem Stops.append {error : PatternError} {text : List Char}
    (stops : Stops source 0 .plain text error) (more : List Char) :
    Stops source 0 .plain (text ++ more) error := by
  obtain ⟨before, c, after, pieces, last, rfl, yields, stop⟩ := stops
  exact ⟨before, c, after ++ more, pieces, last, by simp, yields, stop⟩

variable {placeholder}

/-- An error is the first problem of its pattern, and unless the pattern merely ends too early, it
    stays the error of the pattern whatever is appended. -/
theorem compilePattern_first_problem {error : PatternError}
    (refused : compilePattern source placeholder pattern = .error error) :
    FirstProblem source placeholder pattern error ∧
      ((∀ openedAt, error ≠ .unterminatedToken openedAt) →
        ∀ more, compilePattern source placeholder (pattern ++ more) = .error error) := by
  cases compilePattern_eq_error_iff.mp refused with
  | stopped stops =>
    constructor
    · obtain ⟨before, c, after, pieces, last, written, yields, stop⟩ := stops
      rw [Nat.zero_add] at stop
      exact firstProblem_of_stop placeholder written yields stop
    · intro _ more
      refine compilePattern_of_refused placeholder (.stopped ?_)
      rw [String.toList_append]
      exact stops.append more.toList
  | unfinished yields open_ =>
    refine ⟨firstProblem_of_unfinished placeholder yields open_, ?_⟩
    intro stopped
    exact absurd rfl (stopped _)

/-- The opener in the first token's addendum is none of the problem; the second name of the second
    token is. -/
theorem compilePattern_first_problem_side :
    compilePattern (fun _ => none) "_" "\x7bdisc+\x7b-\x7d\x7btitle?side\x7d" =
      .error (.unknownTag "side" 20) ∧
    FirstProblem (fun _ => none) "_" "\x7bdisc+\x7b-\x7d\x7btitle?side\x7d"
      (.unknownTag "side" 20) ∧
    compilePattern (fun _ => none) "_" ("\x7bdisc+\x7b-\x7d\x7btitle?side\x7d" ++ "\x7b") =
      .error (.unknownTag "side" 20) := by
  have refused : compilePattern (fun _ => none) "_" "\x7bdisc+\x7b-\x7d\x7btitle?side\x7d" =
      .error (.unknownTag "side" 20) := rfl
  obtain ⟨first, stays⟩ := compilePattern_first_problem refused
  refine ⟨refused, first, stays ?_ "\x7b"⟩
  intro openedAt same
  cases same

end

end MusicFiling.Pattern
