import MusicFiling.Organize.Basic
import MusicFiling.Proofs.Pattern.Rules

/-!
# Checking a pattern before a batch

The check reads a pattern as if no tag were present. Reading for a file that has tags may leave the
names of a token early, but both leave every token at the same character, so that an error for any
file shows up in the check, at the same place or before (`checkPattern_finds_every_error`).
-/

namespace MusicFiling.Pattern

/-- The index of the character at which an error is found in a pattern of the given length. -/
def detectedAt (length : Nat) : PatternError → Nat
  | .unknownTag _ position => position
  | .unexpectedCloser _ position => position
  | .nestedOpener position => position
  | .unterminatedToken _ => length

private theorem Stop.detectedAt_eq {position : Nat} {mode : Mode} {c : Char} {error : PatternError}
    (stop : Stop position mode c error) (length : Nat) : detectedAt length error = position := by
  cases stop <;> rfl

section
variable (source : TagSource) (placeholder : String)

/-- A character is refused at its place, or it is read and counts. -/
theorem step_refused_or_advanced (scan : Scan) (c : Char) :
    (∃ error, scan.step source placeholder c = .error error ∧
      ∀ length, detectedAt length error = scan.position) ∨
    ∃ next, scan.step source placeholder c = .ok next ∧ next.position = scan.position + 1 := by
  obtain ⟨position, mode, fragments⟩ := scan
  rcases move_or_stop source position mode c with ⟨piece, next, move⟩ | ⟨error, stop⟩
  · exact .inr ⟨_, step_of_move placeholder fragments move, rfl⟩
  · exact .inl ⟨error, step_of_stop placeholder fragments source stop, stop.detectedAt_eq⟩

variable {source placeholder}

private theorem step_position {scan next : Scan} {c : Char}
    (stepped : scan.step source placeholder c = .ok next) : next.position = scan.position + 1 := by
  rcases step_refused_or_advanced source placeholder scan c with
    ⟨_, refused, -⟩ | ⟨_, read, advanced⟩
  · rw [stepped] at refused
    cases refused
  · rw [stepped] at read
    cases read
    exact advanced

private theorem detectedAt_finish {scan : Scan} {error : PatternError}
    (refused : scan.finish = .error error) (length : Nat) : detectedAt length error = length := by
  obtain ⟨position, mode, fragments⟩ := scan
  cases mode <;> cases refused <;> rfl

/-- Reading finds no error before the place where it stands. -/
theorem position_le_detectedAt {scan : Scan} {text : List Char} {error : PatternError}
    (refused : (scan.read source placeholder text >>= Scan.finish) = .error error) :
    scan.position ≤ detectedAt (scan.position + text.length) error := by
  induction text generalizing scan with
  | nil =>
    rw [detectedAt_finish refused]
    exact Nat.le_add_right _ _
  | cons c rest ih =>
    rw [Scan.read_cons] at refused
    rcases step_refused_or_advanced source placeholder scan c with
      ⟨found, stepped, place⟩ | ⟨next, stepped, advanced⟩
    · rw [stepped] at refused
      cases refused
      exact Nat.le_of_eq (place _).symm
    · rw [stepped] at refused
      have later := ih refused
      rw [advanced, Nat.add_assoc, Nat.add_comm 1] at later
      exact Nat.le_of_succ_le later

end

/-- How the check stands beside a reading for some file: they are in the same token or in none, and
    only the check may still be in a name. -/
inductive Accompanies : Mode → Mode → Prop
  | plain : Accompanies .plain .plain
  | naming (openedAt : Nat) (name : List Char) (fallback : Bool) :
      Accompanies (.naming openedAt name fallback) (.naming openedAt name fallback)
  | ahead (openedAt : Nat) (name : List Char) (fallback : Bool) :
      Accompanies (.naming openedAt name fallback) (.skipping openedAt)
  | skipping (openedAt : Nat) : Accompanies (.skipping openedAt) (.skipping openedAt)
  | addendum (openedAt : Nat) : Accompanies (.skipping openedAt) (.addendum openedAt)

theorem lookup_empty (tag : Tag) : Dictionary.empty.lookup tag = none := by
  cases tag <;> rfl

/-- What one character does to the check and to the reading beside it: both refuse it alike, or the
    check alone refuses it at its place, or they go on together. -/
inductive Together (position : Nat) (checked read : Except PatternError Scan) : Prop
  | alike (error : PatternError) (check : checked = .error error) (reading : read = .error error)
  | early (error : PatternError) (scan : Scan) (check : checked = .error error)
      (place : ∀ length, detectedAt length error = position) (readTo : read = .ok scan)
  | both (check scan : Scan) (checkedTo : checked = .ok check) (readTo : read = .ok scan)
      (positions : check.position = scan.position) (modes : Accompanies check.mode scan.mode)

section
variable {source : TagSource} {position : Nat} {check mode next : Mode} {c : Char}
  {piece : Option Piece}

/-- Only a reading that is in the same mode as the check is stopped. -/
theorem Accompanies.stop (accompanies : Accompanies check mode) {error : PatternError}
    (stop : Stop position mode c error) : Stop position check c error := by
  cases stop with
  | closes marker =>
    cases accompanies
    exact .closes marker
  | nests =>
    cases accompanies
    exact .nests
  | unknown marker unknown =>
    cases accompanies
    exact .unknown marker unknown

/-- Where the reading has a value already and skips, the check goes through the names that are
    left. -/
private theorem move_ahead (openedAt : Nat) (name : List Char) (fallback : Bool)
    (move : Move source position (.skipping openedAt) c piece next) :
    (∃ checkPiece checkNext, Move Dictionary.empty.lookup position
        (.naming openedAt name fallback) c checkPiece checkNext ∧ Accompanies checkNext next) ∨
    ∃ error, Stop position (.naming openedAt name fallback) c error := by
  rcases move_or_stop Dictionary.empty.lookup position (.naming openedAt name fallback) c with
    ⟨checkPiece, checkNext, checked⟩ | stopped
  · refine .inl ⟨checkPiece, checkNext, checked, ?_⟩
    cases checked with
    | letter ordinary =>
      cases move with
      | skip => exact .ahead openedAt _ fallback
      | skipped => exact absurd rfl ordinary.ne_closer
    | handOver =>
      cases move
      exact .ahead openedAt [] true
    | missing =>
      cases move with
      | skip other => exact absurd rfl other
      | skipped => exact .plain
    | vanish =>
      cases move
      exact .skipping openedAt
    | value _ present | valueThenAddendum _ present | valueThenRest _ present =>
      rw [lookup_empty] at present
      cases present
  · exact .inr stopped

/-- A character that moves the reading on moves the check on beside it, or stops the check. -/
theorem Accompanies.move (accompanies : Accompanies check mode)
    (move : Move source position mode c piece next) :
    (∃ checkPiece checkNext, Move Dictionary.empty.lookup position check c checkPiece checkNext ∧
      Accompanies checkNext next) ∨
    ∃ error, Stop position check c error := by
  cases accompanies with
  | plain =>
    left
    cases move with
    | literal ordinary => exact ⟨_, _, .literal ordinary, .plain⟩
    | opening => exact ⟨_, _, .opening, .naming position [] false⟩
  | naming openedAt name fallback =>
    left
    cases move with
    | @letter _ _ _ c ordinary =>
      exact ⟨_, _, .letter ordinary, .naming openedAt (c :: name) fallback⟩
    | value spells => exact ⟨_, _, .missing spells (lookup_empty _), .plain⟩
    | valueThenAddendum spells =>
      exact ⟨_, _, .vanish spells (lookup_empty _), .addendum openedAt⟩
    | valueThenRest spells present goesOn =>
      rcases goesOn with rfl | ⟨rfl, -⟩
      · exact ⟨_, _, .handOver spells (lookup_empty _), .ahead openedAt [] true⟩
      · exact ⟨_, _, .vanish spells (lookup_empty _), .skipping openedAt⟩
    | handOver spells => exact ⟨_, _, .handOver spells (lookup_empty _), .naming openedAt [] true⟩
    | missing spells => exact ⟨_, _, .missing spells (lookup_empty _), .plain⟩
    | vanish spells => exact ⟨_, _, .vanish spells (lookup_empty _), .skipping openedAt⟩
  | ahead openedAt name fallback => exact move_ahead openedAt name fallback move
  | skipping openedAt =>
    left
    cases move with
    | skip other => exact ⟨_, _, .skip other, .skipping openedAt⟩
    | skipped => exact ⟨_, _, .skipped, .plain⟩
  | addendum openedAt =>
    left
    cases move with
    | addition other =>
      have open_ : c ≠ closer := fun same => other (same ▸ closer_mem_markers)
      exact ⟨_, _, .skip open_, .addendum openedAt⟩
    | cutOff other => exact ⟨_, _, .skip other, .skipping openedAt⟩
    | added => exact ⟨_, _, .skipped, .plain⟩

end

section
variable (source : TagSource) (placeholder other : String)

private theorem step_together {check scan : Scan} (positions : check.position = scan.position)
    (modes : Accompanies check.mode scan.mode) (c : Char) :
    Together scan.position (check.step Dictionary.empty.lookup other c)
      (scan.step source placeholder c) := by
  obtain ⟨position, checkMode, checkFragments⟩ := check
  obtain ⟨_, mode, fragments⟩ := scan
  cases positions
  rcases move_or_stop source position mode c with ⟨piece, next, move⟩ | ⟨error, stop⟩
  · have read := step_of_move placeholder fragments move
    rcases modes.move move with ⟨checkPiece, checkNext, checked, together⟩ | ⟨error, stop⟩
    · exact .both _ _ (step_of_move other checkFragments checked) read rfl together
    · exact .early error _ (step_of_stop other checkFragments _ stop) stop.detectedAt_eq read
  · exact .alike error (step_of_stop other checkFragments _ (modes.stop stop))
      (step_of_stop placeholder fragments source stop)

variable {source placeholder}

private theorem finish_together {check scan : Scan} (modes : Accompanies check.mode scan.mode)
    {error : PatternError} (refused : scan.finish = .error error) :
    check.finish = .error error := by
  obtain ⟨_, checkMode, _⟩ := check
  obtain ⟨_, mode, _⟩ := scan
  cases modes <;> cases refused <;> rfl

/-- The induction is on the text still to be read; the two readings go on together until one of them
    finds an error, and the check finds one first if not at once. -/
private theorem check_error_of_read_error {check scan : Scan}
    (positions : check.position = scan.position) (modes : Accompanies check.mode scan.mode)
    {text : List Char} {error : PatternError}
    (refused : (scan.read source placeholder text >>= Scan.finish) = .error error) :
    ∃ found, (check.read Dictionary.empty.lookup other text >>= Scan.finish) = .error found ∧
      (found = error ∨ detectedAt (scan.position + text.length) found <
        detectedAt (scan.position + text.length) error) := by
  induction text generalizing check scan with
  | nil => exact ⟨error, finish_together modes refused, .inl rfl⟩
  | cons c rest ih =>
    rw [Scan.read_cons] at refused ⊢
    cases step_together source placeholder other positions modes c with
    | alike found checked read =>
      rw [read] at refused
      rw [checked]
      cases refused
      exact ⟨error, rfl, .inl rfl⟩
    | early found next checked place read =>
      rw [read] at refused
      rw [checked]
      refine ⟨found, rfl, .inr ?_⟩
      have later := position_le_detectedAt refused
      rw [step_position read, Nat.add_assoc, Nat.add_comm 1] at later
      rw [place]
      exact later
    | both nextCheck next checked read nextPositions nextModes =>
      rw [read] at refused
      rw [checked]
      have later := ih nextPositions nextModes refused
      rw [step_position read, Nat.add_assoc, Nat.add_comm 1] at later
      exact later

private theorem checkPattern_eq_error {pattern : String} {error : PatternError}
    (refused : compilePattern Dictionary.empty.lookup defaultPlaceholder pattern = .error error) :
    checkPattern pattern = .error error := by
  rw [checkPattern, refused]
  rfl

private theorem checkPattern_error_of_compilePattern_error {pattern : String} {error : PatternError}
    (refused : compilePattern source placeholder pattern = .error error) :
    ∃ found, checkPattern pattern = .error found ∧
      (found = error ∨ detectedAt pattern.length found < detectedAt pattern.length error) := by
  obtain ⟨found, checked, place⟩ := check_error_of_read_error defaultPlaceholder
    (show Scan.start.position = Scan.start.position from rfl) .plain refused
  refine ⟨found, checkPattern_eq_error checked, ?_⟩
  rw [← String.length_toList]
  simpa only [Scan.start, Nat.zero_add] using place

variable (source placeholder) in
theorem compilePattern_ok_of_checkPattern_ok {pattern : String}
    (accepted : checkPattern pattern = .ok ()) :
    ∃ fragments, compilePattern source placeholder pattern = .ok fragments := by
  cases compiled : compilePattern source placeholder pattern with
  | ok fragments => exact ⟨fragments, rfl⟩
  | error error =>
    obtain ⟨found, refused, -⟩ := checkPattern_error_of_compilePattern_error compiled
    rw [accepted] at refused
    cases refused

end

private theorem planDestination_ne_pattern_error {options : Options}
    (accepted : checkPattern options.pattern = .ok ()) (prober : Prober) (d : Disk) (path : Path)
    (error : PatternError) : planDestination options prober d path ≠ .error (.pattern error) := by
  unfold planDestination
  cases readTags prober.installed (prober.run d path) path none with
  | error refusal => rintro ⟨⟩
  | ok tags =>
    obtain ⟨fragments, compiled⟩ := compilePattern_ok_of_checkPattern_ok tags.lookup
      options.placeholder accepted
    have rendered : renderPattern tags.lookup options.placeholder options.pattern =
        .ok (String.join fragments) := by
      rw [renderPattern, compiled]
      rfl
    simp only [rendered]
    cases buildDestination options.target (String.join fragments) <;> rintro ⟨⟩

/-- Whatever tags a file has, an error in reading the pattern for it shows up in the check, as the
    same error or at an earlier character. So a pattern that passes the check is read without an
    error for every file of a batch. -/
theorem checkPattern_finds_every_error (pattern : String) :
    (∀ (source : TagSource) (placeholder : String) (error : PatternError),
      compilePattern source placeholder pattern = .error error →
        ∃ found, checkPattern pattern = .error found ∧
          (found = error ∨
            detectedAt pattern.length found < detectedAt pattern.length error)) ∧
    (checkPattern pattern = .ok () →
      (∀ (source : TagSource) (placeholder : String),
        ∃ fragments, compilePattern source placeholder pattern = .ok fragments) ∧
      ∀ (options : Options) (prober : Prober) (d : Disk) (path : Path) (error : PatternError),
        options.pattern = pattern →
          planDestination options prober d path ≠ .error (.pattern error)) := by
  refine ⟨fun source placeholder error => checkPattern_error_of_compilePattern_error, ?_⟩
  intro accepted
  constructor
  · intro source placeholder
    exact compilePattern_ok_of_checkPattern_ok source placeholder accepted
  · rintro options prober d path error rfl
    exact planDestination_ne_pattern_error accepted prober d path error

/-- A file with a disc number is refused for the closer too many, the check already for the name
    that no tag has. -/
theorem checkPattern_finds_unknown_name_first :
    (compilePattern (fun tag => if tag = .discNumber then some "1" else none) "_"
        "\x7bdisc?side\x7d\x7d" = .error (.unexpectedCloser '}' 11) ∧
      ∃ found, checkPattern "\x7bdisc?side\x7d\x7d" = .error found ∧
        (found = .unexpectedCloser '}' 11 ∨
          detectedAt "\x7bdisc?side\x7d\x7d".length found < 11)) ∧
    (checkPattern "\x7bdisc\x7d" = .ok () ∧
      ∃ fragments, compilePattern (fun _ => none) "_" "\x7bdisc\x7d" = .ok fragments) := by
  have refused : compilePattern (fun tag => if tag = .discNumber then some "1" else none) "_"
      "\x7bdisc?side\x7d\x7d" = .error (.unexpectedCloser '}' 11) := rfl
  have accepted : checkPattern "\x7bdisc\x7d" = .ok () := rfl
  exact ⟨⟨refused, (checkPattern_finds_every_error "\x7bdisc?side\x7d\x7d").1 _ _ _ refused⟩,
    accepted, ((checkPattern_finds_every_error "\x7bdisc\x7d").2 accepted).1 _ _⟩

end MusicFiling.Pattern
