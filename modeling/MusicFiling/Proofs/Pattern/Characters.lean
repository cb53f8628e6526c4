import MusicFiling.Proofs.Pattern.Position

/-!
# Forbidden characters

Sanitized values and a valid placeholder have no forbidden character, so whatever tags a file has,
those in a rendered path are the pattern's own, each at most as often as the pattern writes it
(`renderPattern_count_forbidden`). In particular no value makes a folder.
-/

namespace MusicFiling.Pattern

private theorem allowed_of_validatePlaceholder {placeholder : String}
    (valid : validatePlaceholder placeholder = .ok placeholder) :
    ∀ c ∈ placeholder.toList, c ∉ forbiddenChars := by
  unfold validatePlaceholder at valid
  split at valid
  case h_1 c single =>
    split at valid
    case isTrue => cases valid
    case isFalse allowed => simpa [single] using allowed
  case h_2 => cases valid

private theorem not_mem_sanitize {placeholder : String}
    (allowed : ∀ c ∈ placeholder.toList, c ∉ forbiddenChars) {c : Char}
    (forbidden : c ∈ forbiddenChars) (value : String) :
    c ∉ (sanitize placeholder value).toList := by
  rw [sanitize, String.toList_ofList, List.mem_flatMap]
  rintro ⟨d, -, stands⟩
  split at stands
  case isTrue => exact allowed c stands forbidden
  case isFalse kept =>
    obtain rfl := List.mem_singleton.mp stands
    exact kept forbidden

/-- The characters of the pattern among its pieces. -/
def verbatim (pieces : List Piece) : List Char := pieces.filterMap Piece.char?

private theorem verbatim_cons (piece : Piece) (pieces : List Piece) :
    verbatim (piece :: pieces) = piece.char?.toList ++ verbatim pieces := by
  cases piece <;> rfl

private theorem verbatim_concat (pieces : List Piece) (piece : Option Piece) :
    verbatim (pieces ++ piece.toList) = verbatim pieces ++ (piece.bind Piece.char?).toList := by
  rw [verbatim, List.filterMap_append, verbatim]
  rcases piece with _ | (_ | _ | _ | _) <;> rfl

/-- A text that ends inside a token: after one of its openers there is no closer. -/
def EndsInToken (text : List Char) : Prop :=
  ∃ outside inside, text = outside ++ opener :: inside ∧ closer ∉ inside

private theorem endsInToken_iff {text : List Char} :
    EndsInToken text ↔ opener ∈ text.reverse.takeWhile (· ≠ closer) := by
  constructor
  · rintro ⟨outside, inside, rfl, unclosed⟩
    have kept : ∀ c ∈ inside.reverse, (decide (c ≠ closer)) = true := by
      intro c member
      rw [decide_eq_true_eq]
      rintro rfl
      exact unclosed (List.mem_reverse.mp member)
    rw [List.reverse_append, List.reverse_cons, List.append_assoc,
      List.takeWhile_append_of_pos kept]
    simp [show opener ≠ closer by decide]
  · intro member
    obtain ⟨later, earlier, split⟩ := List.append_of_mem member
    refine ⟨(text.reverse.dropWhile (· ≠ closer)).reverse ++ earlier.reverse, later.reverse, ?_, ?_⟩
    · rw [← List.reverse_inj]
      simp [← split]
    · intro closes
      have kept : (text.reverse.takeWhile (· ≠ closer)).all (· ≠ closer) = true :=
        List.all_takeWhile
      rw [split, List.all_eq_true] at kept
      simpa using kept closer (List.mem_append_left _ (List.mem_reverse.mp closes))

instance (text : List Char) : Decidable (EndsInToken text) :=
  decidable_of_iff' _ endsInToken_iff

/-- A character that a text has only where no token is open. -/
def OnlyOutside (c : Char) (text : List Char) : Prop :=
  ∀ index, text[index]? = some c → ¬EndsInToken (text.take index)

private theorem onlyOutside_iff {c : Char} {text : List Char} : OnlyOutside c text ↔
    ∀ index < text.length, text[index]? = some c → ¬EndsInToken (text.take index) := by
  constructor
  · intro outside index _
    exact outside index
  · intro outside index stands
    exact outside index (List.getElem?_eq_some_iff.mp stands).1 stands

instance (c : Char) (text : List Char) : Decidable (OnlyOutside c text) :=
  decidable_of_iff' _ onlyOutside_iff

section
variable {source : TagSource} {text : List Char} {pieces : List Piece} {mode : Mode}

private theorem Yields.plain_of_outside (yields : Yields source 0 .plain text pieces mode)
    (outside : ¬EndsInToken text) : mode = .plain := by
  cases open_ : openedAt? mode with
  | none =>
    cases mode with
    | plain => rfl
    | naming | skipping | addendum => cases open_
  | some openedAt =>
    obtain ⟨before, inside, -, written, -, unclosed, -⟩ := yields.opensAt open_
    exact absurd ⟨before, inside, written, unclosed⟩ outside

/-- A piece is no other character than the one that is read, and that is no marker. -/
theorem Move.char?_eq {position : Nat} {c d : Char} {piece : Option Piece} {next : Mode}
    (move : Move source position mode c piece next) (verbatim : piece.bind Piece.char? = some d) :
    d = c ∧ c ∉ markers := by
  cases move with
  | literal ordinary => exact ⟨(Option.some.inj verbatim).symm, ordinary.2⟩
  | addition other => exact ⟨(Option.some.inj verbatim).symm, other⟩
  | _ => cases verbatim

private theorem Yields.verbatim_not_marker (yields : Yields source 0 .plain text pieces mode) :
    ∀ c ∈ verbatim pieces, c ∉ markers := by
  induction yields using Yields.start_induction with
  | nil => simp [verbatim]
  | concat yields move holds =>
    rw [verbatim_concat, List.forall_mem_append]
    refine ⟨holds, ?_⟩
    intro d member
    obtain ⟨rfl, kept⟩ := move.char?_eq (Option.mem_toList.mp member)
    exact kept

/-- The pattern's own characters stand among the pieces in the order of the pattern. -/
theorem Yields.verbatim_sublist (yields : Yields source 0 .plain text pieces mode) :
    (verbatim pieces).Sublist text := by
  induction yields using Yields.start_induction with
  | nil => exact .slnil
  | concat yields move holds =>
    rw [verbatim_concat]
    refine holds.append ?_
    cases verbatim : Option.bind _ Piece.char? with
    | none => exact List.nil_sublist _
    | some d =>
      obtain ⟨rfl, -⟩ := move.char?_eq verbatim
      exact List.Sublist.refl _

/-- A character of which all occurrences are outside of tokens is a piece wherever it occurs. -/
theorem Yields.count_verbatim (yields : Yields source 0 .plain text pieces mode) {c : Char}
    (ordinary : Ordinary c)
    (outside : OnlyOutside c text) : (verbatim pieces).count c = text.count c := by
  induction yields using Yields.start_induction with
  | nil => rfl
  | @concat text pieces mode d piece next yields move holds =>
    have earlier : (verbatim pieces).count c = text.count c := by
      refine holds fun index stands => ?_
      have inside : index < text.length := (List.getElem?_eq_some_iff.mp stands).1
      have unchanged := outside index (by rw [List.getElem?_append_left inside, stands])
      rwa [List.take_append_of_le_length (Nat.le_of_lt inside)] at unchanged
    rw [verbatim_concat, List.count_append, List.count_append, earlier]
    by_cases same : d = c
    · subst same
      have last := outside text.length (by simp)
      rw [List.take_left] at last
      obtain rfl := yields.plain_of_outside last
      cases move with
      | literal => rfl
      | opening => exact absurd rfl ordinary.1
    · have absent : c ∉ (piece.bind Piece.char?).toList := by
        intro member
        exact same (move.char?_eq (Option.mem_toList.mp member)).1.symm
      rw [List.count_eq_zero.mpr absent, List.count_singleton, if_neg (by simpa using same)]

end

section
variable {source : TagSource} {placeholder : String}

private theorem count_fragment (allowed : ∀ c ∈ placeholder.toList, c ∉ forbiddenChars) {c : Char}
    (forbidden : c ∈ forbiddenChars) (piece : Piece) :
    (piece.fragment source placeholder).toList.count c = piece.char?.toList.count c := by
  cases piece with
  | literal d | addendum d => simp [Piece.fragment, Piece.char?]
  | value tag => exact List.count_eq_zero.mpr (not_mem_sanitize allowed forbidden _)
  | placeholder => exact List.count_eq_zero.mpr fun member => allowed c member forbidden

private theorem count_join_fragments (allowed : ∀ c ∈ placeholder.toList, c ∉ forbiddenChars)
    {c : Char}
    (forbidden : c ∈ forbiddenChars) (pieces : List Piece) :
    (String.join (pieces.map (Piece.fragment source placeholder))).toList.count c =
      (verbatim pieces).count c := by
  rw [String.toList_join]
  induction pieces with
  | nil => rfl
  | cons piece rest ih =>
    rw [List.map_cons, List.flatMap_cons, verbatim_cons, List.count_append, List.count_append, ih,
      count_fragment allowed forbidden piece]

private theorem renderPattern_eq_ok {pattern text : String}
    (rendered : renderPattern source placeholder pattern = .ok text) :
    ∃ pieces, Outline source pattern pieces ∧
      text = String.join (pieces.map (Piece.fragment source placeholder)) := by
  unfold renderPattern at rendered
  cases compiled : compilePattern source placeholder pattern with
  | error error =>
    rw [compiled] at rendered
    cases rendered
  | ok fragments =>
    rw [compiled] at rendered
    obtain ⟨pieces, outline, rfl⟩ := compilePattern_eq_ok_iff.mp compiled
    exact ⟨pieces, outline, (Except.ok.inj rendered).symm⟩

/-- A rendered path has each forbidden character at most as often as the pattern, and closers and
    fallback markers not at all. One that means nothing in a pattern, and that the pattern has only
    outside of tokens, it has exactly as often. -/
theorem renderPattern_count_forbidden {pattern text : String}
    (valid : validatePlaceholder placeholder = .ok placeholder)
    (rendered : renderPattern source placeholder pattern = .ok text) :
    (∀ c ∈ forbiddenChars, text.toList.count c ≤ pattern.toList.count c) ∧
      closer ∉ text.toList ∧ fallbackMarker ∉ text.toList ∧
      ∀ c ∈ forbiddenChars, Ordinary c → OnlyOutside c pattern.toList →
        text.toList.count c = pattern.toList.count c := by
  have allowed := allowed_of_validatePlaceholder valid
  obtain ⟨pieces, outline, rfl⟩ := renderPattern_eq_ok rendered
  have absent : ∀ c ∈ forbiddenChars, c ∈ markers →
      c ∉ (String.join (pieces.map (Piece.fragment source placeholder))).toList := by
    intro c forbidden marker
    rw [← List.count_eq_zero, count_join_fragments allowed forbidden, List.count_eq_zero]
    exact fun member => Yields.verbatim_not_marker outline c member marker
  refine ⟨?_, absent closer (by decide) closer_mem_markers,
    absent fallbackMarker (by decide) fallbackMarker_mem_markers, ?_⟩
  · intro c forbidden
    rw [count_join_fragments allowed forbidden]
    exact (Yields.verbatim_sublist outline).count_le c
  · intro c forbidden ordinary outside
    rw [count_join_fragments allowed forbidden]
    exact Yields.count_verbatim outline ordinary outside

/-- The first disc of a band whose name has a slash. -/
def slashedBand : TagSource
  | .artist => some "AC/DC"
  | .discNumber => some "1"
  | _ => none

/-- The band's slash makes no folder; the addendum brings in an opener that the pattern has. -/
theorem renderPattern_count_forbidden_slash :
    (validatePlaceholder "_" = .ok "_" ∧
      renderPattern slashedBand "_" "\x7bartist\x7d/\x7bdisc+\x7b-\x7d\x7btitle\x7d" =
        .ok "AC_DC/1\x7b-_") ∧
    OnlyOutside '/' "\x7bartist\x7d/\x7bdisc+\x7b-\x7d\x7btitle\x7d".toList ∧
    "AC_DC/1\x7b-_".toList.count '/' =
      "\x7bartist\x7d/\x7bdisc+\x7b-\x7d\x7btitle\x7d".toList.count '/' := by
  have rendered : renderPattern slashedBand "_"
      "\x7bartist\x7d/\x7bdisc+\x7b-\x7d\x7btitle\x7d" = .ok "AC_DC/1\x7b-_" := rfl
  have outside : OnlyOutside '/' "\x7bartist\x7d/\x7bdisc+\x7b-\x7d\x7btitle\x7d".toList := by
    decide +kernel
  refine ⟨⟨rfl, rendered⟩, outside, ?_⟩
  exact (renderPattern_count_forbidden rfl rendered).2.2.2 '/' (by decide)
    ⟨by decide, by decide⟩ outside

end

end MusicFiling.Pattern
