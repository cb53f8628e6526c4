import MusicFiling.Proofs.Pattern.Grammar
import MusicFiling.Proofs.Pattern.UpFrontCheck

/-!
# The patterns that are accepted

The check accepts a pattern if and only if it spells segments. What the check has read so far spells
segments, followed by the beginning of a token in every mode but the plain one; each character that
moves the check on keeps this true (`Begun.step`), and so it holds of a whole text (`Yields.begun`).
-/

namespace MusicFiling.Pattern

/-- The text of names each of which hands over to the next one. -/
def handingOver (names : List TagName) : List Char :=
  names.flatMap fun name => name.text ++ [fallbackMarker]

private theorem fallbackMarker_cons_handingOver (names : List TagName) :
    fallbackMarker :: handingOver names =
      names.flatMap (fun name => fallbackMarker :: name.text) ++ [fallbackMarker] := by
  induction names with
  | nil => rfl
  | cons name rest ih =>
    have first : fallbackMarker :: handingOver (name :: rest) =
        fallbackMarker :: (name.text ++ fallbackMarker :: handingOver rest) := by
      simp [handingOver]
    rw [first, ih]
    simp

/-- Names that hand over to a last one, and perhaps a tail, make a token. -/
theorem exists_token_spelling (names : List TagName) (last : TagName) (tail : Option Tail) :
    ∃ t : Token,
      t.spelling = opener :: (handingOver names ++ (last.text ++ (tailSpelling tail ++ [closer]))) := by
  cases names with
  | nil =>
    refine ⟨⟨last, [], tail⟩, ?_⟩
    simp [Token.spelling, spellingAfterName, handingOver]
  | cons first rest =>
    refine ⟨⟨first, rest ++ [last], tail⟩, ?_⟩
    have handed : handingOver (first :: rest) =
        first.text ++ fallbackMarker :: handingOver rest := by
      simp [handingOver]
    rw [handed, fallbackMarker_cons_handingOver]
    simp [Token.spelling, spellingAfterName]

/-- The text of an open token as far as the check has read it. As no tag is present in the check, it
    never comes to an addendum, and skips nothing but a tail. -/
inductive Beginning : Mode → List Char → Prop where
  | plain : Beginning .plain []
  | naming (openedAt : Nat) (names : List TagName) (name : List Char) (fallback : Bool)
    (ordinary : ∀ c ∈ name, Ordinary c) :
    Beginning (.naming openedAt name fallback) (opener :: (handingOver names ++ name.reverse))
  | skipping (openedAt : Nat) (names : List TagName) (last : TagName) (tail : Tail) :
    Beginning (.skipping openedAt)
      (opener :: (handingOver names ++ (last.text ++ tailSpelling (some tail))))

/-- A text that spells segments and then begins the token that is open in a mode. -/
def Begun (mode : Mode) (text : List Char) : Prop :=
  ∃ (segments : List Segment) (beginning : List Char),
    text = segments.flatMap Segment.spelling ++ beginning ∧ Beginning mode beginning

private theorem begun_nil : Begun .plain [] :=
  ⟨[], [], rfl, .plain⟩

/-- A segment that was read to its end leads back to plain text. -/
theorem begun_segment (segments : List Segment) (segment : Segment) :
    Begun .plain (segments.flatMap Segment.spelling ++ segment.spelling) := by
  refine ⟨segments ++ [segment], [], ?_, .plain⟩
  simp

/-- In plain mode nothing is open. -/
theorem Begun.spelled {text : List Char} (begun : Begun .plain text) :
    ∃ segments : List Segment, segments.flatMap Segment.spelling = text := by
  obtain ⟨segments, _, rfl, beginning⟩ := begun
  cases beginning
  exact ⟨segments, by simp⟩

section
variable {position : Nat} {text : List Char} {mode next : Mode} {c : Char} {piece : Option Piece}

private theorem exists_tagName {name : List Char} {tag : Tag} (ordinary : ∀ c ∈ name, Ordinary c)
    (spells : Spells name tag) : ∃ last : TagName, last.text = name.reverse := by
  refine ⟨⟨name.reverse, tag, ?_, spells⟩, rfl⟩
  intro c member
  exact ordinary c (List.mem_reverse.mp member)

/-- A character that moves the check on goes on with what was begun. As no tag is present, a name
    that ends is closed, or hands over to the next one, or begins the tail. -/
theorem Begun.step (begun : Begun mode text)
    (move : Move Dictionary.empty.lookup position mode c piece next) :
    Begun next (text ++ [c]) := by
  obtain ⟨segments, beginning, rfl, unfinished⟩ := begun
  cases move with
  | literal ordinary =>
    cases unfinished
    rw [List.append_nil]
    exact begun_segment segments (.literal c ordinary)
  | opening =>
    cases unfinished
    exact ⟨segments, _, by simp [handingOver], .naming position [] [] false (by simp)⟩
  | @letter openedAt name fallback c plain =>
    cases unfinished with
    | naming _ names _ _ ordinary =>
      refine ⟨segments, _, ?_, .naming openedAt names (c :: name) fallback
        (List.forall_mem_cons.mpr ⟨plain, ordinary⟩)⟩
      simp
  | @handOver openedAt name fallback tag spells =>
    cases unfinished with
    | naming _ names _ _ ordinary =>
      obtain ⟨last, written⟩ := exists_tagName ordinary spells
      refine ⟨segments, opener :: (handingOver (names ++ [last]) ++ []), ?_,
        .naming openedAt (names ++ [last]) [] true (by simp)⟩
      simp [handingOver, written]
  | @missing openedAt name fallback tag spells =>
    cases unfinished with
    | naming _ names _ _ ordinary =>
      obtain ⟨last, written⟩ := exists_tagName ordinary spells
      obtain ⟨t, spelled⟩ := exists_token_spelling names last none
      have whole := begun_segment segments (.token t)
      simpa [Segment.spelling, spelled, tailSpelling, written] using whole
  | @vanish openedAt name fallback tag spells =>
    cases unfinished with
    | naming _ names _ _ ordinary =>
      obtain ⟨last, written⟩ := exists_tagName ordinary spells
      refine ⟨segments, _, ?_, .skipping openedAt names last ⟨[], List.not_mem_nil⟩⟩
      simp [tailSpelling, written]
  | @skip openedAt c other =>
    cases unfinished with
    | skipping _ names last tail =>
      have unclosed : closer ∉ tail.text ++ [c] := by
        simp [tail.unclosed, Ne.symm other]
      refine ⟨segments, _, ?_, .skipping openedAt names last ⟨tail.text ++ [c], unclosed⟩⟩
      simp [tailSpelling]
  | skipped =>
    cases unfinished with
    | skipping _ names last tail =>
      obtain ⟨t, spelled⟩ := exists_token_spelling names last (some tail)
      have whole := begun_segment segments (.token t)
      simpa [Segment.spelling, spelled] using whole
  | value _ present | valueThenAddendum _ present | valueThenRest _ present =>
    rw [lookup_empty] at present
    cases present
  | addition | cutOff | added => cases unfinished

/-- All that the check has read is segments and the beginning of a token. -/
theorem Yields.begun {pieces : List Piece}
    (yields : Yields Dictionary.empty.lookup 0 .plain text pieces mode) : Begun mode text := by
  induction yields using Yields.start_induction with
  | nil => exact begun_nil
  | concat yields move begun => exact begun.step move

end

private theorem spelled_of_checkPattern_ok {pattern : String}
    (accepted : checkPattern pattern = .ok ()) :
    ∃ segments, spelling segments = pattern := by
  unfold checkPattern at accepted
  cases compiled : compilePattern Dictionary.empty.lookup defaultPlaceholder pattern with
  | error error =>
    rw [compiled] at accepted
    cases accepted
  | ok fragments =>
    obtain ⟨pieces, outline, -⟩ := compilePattern_eq_ok_iff.mp compiled
    obtain ⟨segments, spelled⟩ := (Yields.begun outline).spelled
    refine ⟨segments, ?_⟩
    rw [spelling, spelled, String.ofList_toList]

private theorem checkPattern_spelling (segments : List Segment) :
    checkPattern (spelling segments) = .ok () := by
  unfold checkPattern
  rw [Scan.compilePattern_eq_read, spelling, String.toList_ofList, Scan.start,
    read_segments Dictionary.empty.lookup defaultPlaceholder segments 0 []]
  rfl

/-- The check accepts exactly the patterns that spell segments and refuses all others. -/
theorem checkPattern_accepts_iff (pattern : String) :
    (checkPattern pattern = .ok () ↔ ∃ segments, spelling segments = pattern) ∧
      ((∃ error, checkPattern pattern = .error error) ↔ ¬∃ segments, spelling segments = pattern) := by
  have accepted : checkPattern pattern = .ok () ↔ ∃ segments, spelling segments = pattern := by
    constructor
    · exact spelled_of_checkPattern_ok
    · rintro ⟨segments, rfl⟩
      exact checkPattern_spelling segments
  refine ⟨accepted, ?_⟩
  rw [← accepted]
  cases checkPattern pattern with
  | ok _ => simp
  | error error => simp

-- a tail may hold openers and markers, and a name ends at the first marker
example : checkPattern "\x7bdisc?year+ of \x7b?+\x7d" = .ok () := rfl

end MusicFiling.Pattern
