import MusicFiling.Proofs.Text.Utf8.Character
import Mathlib.Data.Nat.Find

/-!
# Lenient UTF-8

Bytes are read as the characters whose UTF-8 they are. Where no character stands, the longest piece
with which one begins is replaced, or one byte if none does. Text that was written as UTF-8 is read
back, and a line feed is never part of a piece, so that the lines of a file are read one by one.
-/

namespace MusicFiling.Text.Utf8

/-- The piece that is replaced where no character stands: the longest one that begins a character,
    or one byte. The bytes `rest` come after it. -/
structure MaximalSubpart (piece rest : List UInt8) : Prop where
  nonempty : piece ≠ []
  noCharacter : ∀ c, ¬ String.utf8EncodeChar c <+: piece ++ rest
  begins : Begins piece ∨ piece.length = 1
  longest : ∀ longer, longer <+: piece ++ rest → Begins longer → longer.length ≤ piece.length

/-- The text that bytes are read as, character by character and piece by piece. -/
inductive Reads : List UInt8 → List Char → Prop where
  | nil : Reads [] []
  | char (c : Char) {rest : List UInt8} {text : List Char} (later : Reads rest text) :
      Reads (String.utf8EncodeChar c ++ rest) (c :: text)
  | replaced {piece rest : List UInt8} {text : List Char} (subpart : MaximalSubpart piece rest)
      (later : Reads rest text) : Reads (piece ++ rest) (replacement :: text)

private theorem begins_nil : Begins [] :=
  ⟨'\n', List.nil_prefix⟩

/-- Where no character stands there is something to replace. -/
theorem exists_maximalSubpart {bytes : List UInt8} (nonempty : bytes ≠ [])
    (noCharacter : ∀ c, ¬ String.utf8EncodeChar c <+: bytes) :
    ∃ piece rest, bytes = piece ++ rest ∧ MaximalSubpart piece rest := by
  classical
  -- Where not even one byte begins a character, that byte is the piece.
  have positive : 1 ≤ bytes.length := List.length_pos_iff.mpr nonempty
  let longest := Nat.findGreatest (fun k => Begins (bytes.take k)) bytes.length
  have within : longest ≤ bytes.length := Nat.findGreatest_le _
  have begins : Begins (bytes.take longest) :=
    Nat.findGreatest_spec (P := fun k => Begins (bytes.take k)) (Nat.zero_le _) begins_nil
  have whole := List.take_append_drop (max longest 1) bytes
  have size : (bytes.take (max longest 1)).length = max longest 1 :=
    List.length_take_of_le (Nat.max_le.mpr ⟨within, positive⟩)
  refine ⟨bytes.take (max longest 1), bytes.drop (max longest 1), whole.symm, ?_, ?_, ?_, ?_⟩
  · exact List.ne_nil_of_length_pos (by omega)
  · rwa [whole]
  · by_cases none : longest = 0
    · exact .inr (by omega)
    · exact .inl (by rwa [Nat.max_eq_left (Nat.one_le_iff_ne_zero.mpr none)])
  · rw [whole]
    intro longer leading begun
    have le : longer.length ≤ longest := by
      refine Nat.le_findGreatest leading.length_le ?_
      rwa [← List.prefix_iff_eq_take.mp leading]
    omega

private theorem exists_reads (bytes : List UInt8) : ∃ text, Reads bytes text := by
  induction count : bytes.length using Nat.strongRecOn generalizing bytes with
  | ind n ih =>
    subst count
    by_cases empty : bytes = []
    · exact ⟨[], empty ▸ .nil⟩
    by_cases stands : ∃ c, String.utf8EncodeChar c <+: bytes
    · obtain ⟨c, rest, rfl⟩ := stands
      obtain ⟨lead, more, spelled, -⟩ := effect_encode c
      have shorter : rest.length < (String.utf8EncodeChar c ++ rest).length := by
        rw [List.length_append, spelled, List.length_cons]
        omega
      obtain ⟨text, later⟩ := ih rest.length shorter rest rfl
      exact ⟨c :: text, .char c later⟩
    · obtain ⟨piece, rest, rfl, subpart⟩ := exists_maximalSubpart empty (not_exists.mp stands)
      have positive := List.length_pos_iff.mpr subpart.nonempty
      obtain ⟨text, later⟩ := ih rest.length (by simp [positive]) rest rfl
      exact ⟨replacement :: text, .replaced subpart later⟩

section Character

variable (done : List Char)

private theorem foldl_owed {lead : UInt8} {rest : List UInt8} {o : Owed}
    (owed : effect lead rest = .owed o) :
    (lead :: rest).foldl Lenient.step ⟨done, none⟩ = ⟨done, some o⟩ := by
  induction rest using List.reverseRecOn generalizing o with
  | nil =>
    have first : leading lead = .owed o := owed
    simp [Lenient.step, Lenient.lead, first]
  | append_singleton rest b ih =>
    obtain ⟨o', before, more⟩ := effect_concat_eq (by rw [owed]; simp)
    rw [owed] at more
    rw [← List.cons_append, List.foldl_append, ih before]
    simp [Lenient.step, ← more]

/-- The bytes of a character are read as that character. -/
theorem foldl_char (c : Char) :
    (String.utf8EncodeChar c).foldl Lenient.step ⟨done, none⟩ = ⟨c :: done, none⟩ := by
  obtain ⟨lead, rest, spelled, completed⟩ := effect_encode c
  rw [spelled]
  cases rest using List.reverseRecOn with
  | nil =>
    have first : leading lead = .char c := completed
    simp [Lenient.step, Lenient.lead, first]
  | append_singleton rest b =>
    obtain ⟨o, before, last⟩ := effect_concat_eq (by rw [completed]; simp)
    rw [completed] at last
    rw [← List.cons_append, List.foldl_append, foldl_owed done before]
    simp [Lenient.step, ← last]

/-- A longest piece is replaced, and the bytes after it are read anew. -/
theorem MaximalSubpart.foldl_text {piece rest : List UInt8} (subpart : MaximalSubpart piece rest) :
    ((piece ++ rest).foldl Lenient.step ⟨done, none⟩).text =
      (rest.foldl Lenient.step ⟨replacement :: done, none⟩).text := by
  obtain ⟨lead, others, rfl⟩ := List.exists_cons_of_ne_nil subpart.nonempty
  rw [List.foldl_append]
  cases reached : effect lead others with
  | char c =>
    refine absurd ?_ (subpart.noCharacter c)
    rw [effect_eq_char_iff.mp reached]
    exact List.prefix_append _ rest
  | illFormed =>
    have one : (lead :: others).length = 1 :=
      subpart.begins.resolve_left (effect_eq_illFormed_iff.mp reached)
    obtain rfl : others = [] := by simpa using one
    have first : leading lead = .illFormed := reached
    simp [Lenient.step, Lenient.lead, first]
  | owed o =>
    -- The piece ends inside a character. A byte that went on with it would make the piece longer.
    rw [foldl_owed done reached]
    cases rest with
    | nil => rfl
    | cons b rest =>
      have stuck : ¬ Begins (lead :: (others ++ [b])) := by
        intro begun
        have longer := subpart.longest (lead :: (others ++ [b])) ⟨rest, by simp⟩ begun
        rw [← List.cons_append, List.length_append, List.length_singleton] at longer
        omega
      have broken : o.next b = .illFormed :=
        (effect_concat reached b).symm.trans (effect_eq_illFormed_iff.mpr stuck)
      simp [Lenient.step, broken]

end Character

private theorem Reads.foldl_text {bytes : List UInt8} {text : List Char} (reads : Reads bytes text)
    (done : List Char) :
    (bytes.foldl Lenient.step ⟨done, none⟩).text = done.reverse ++ text := by
  induction reads generalizing done with
  | nil => simp [Lenient.text]
  | char c later ih => simp [foldl_char, ih]
  | replaced subpart later ih => simp only [subpart.foldl_text, ih, List.reverse_cons,
      List.append_assoc, List.singleton_append]

/-- Bytes are read as the one text that the rule gives. -/
theorem decodeLenient_eq_iff {bytes : List UInt8} {text : List Char} :
    decodeLenient bytes = text ↔ Reads bytes text := by
  obtain ⟨text', reads'⟩ := exists_reads bytes
  have decoded : ∀ {text}, Reads bytes text → decodeLenient bytes = text :=
    fun reads => reads.foldl_text []
  refine ⟨?_, decoded⟩
  rintro rfl
  rwa [decoded reads']

/-- What was written as UTF-8 is read back. -/
theorem decodeLenient_encode (text : List Char) : decodeLenient (encode text) = text := by
  rw [decodeLenient_eq_iff]
  induction text with
  | nil => exact .nil
  | cons c rest ih => exact .char c ih

/-- No character begins with a line feed after other bytes. -/
theorem eq_nil_of_begins {bytes : List UInt8} (begun : Begins (bytes ++ [0x0A])) : bytes = [] := by
  cases bytes with
  | nil => rfl
  | cons lead rest =>
    have continued : effect lead (rest ++ [0x0A]) ≠ .illFormed :=
      fun broken => effect_eq_illFormed_iff.mp broken begun
    obtain ⟨o, owed, next⟩ := effect_concat_eq continued
    obtain ⟨low, -, -⟩ := Owed.next_cases (next ▸ continued)
    have least := (after_effect owed).low
    exact absurd (Nat.le_trans least low) (by decide)

/-- What begins a character before a line feed ends before it. -/
theorem prefix_of_begins {bytes rest piece : List UInt8} (nonempty : bytes ≠ [])
    (leading : piece <+: bytes ++ 0x0A :: rest) (begun : Begins piece) : piece <+: bytes := by
  have beyond : ¬ bytes ++ [0x0A] <+: piece := by
    rintro inside
    obtain ⟨c, whole⟩ := begun
    exact nonempty (eq_nil_of_begins ⟨c, inside.trans whole⟩)
  have upTo : bytes ++ [0x0A] <+: bytes ++ 0x0A :: rest := ⟨rest, by simp⟩
  have inside := (List.prefix_or_prefix_of_prefix leading upTo).resolve_right beyond
  rcases List.prefix_concat_iff.mp inside with same | before
  · exact absurd (same ▸ List.prefix_refl _) beyond
  · exact before

private theorem MaximalSubpart.before_lineFeed {piece rest : List UInt8}
    (subpart : MaximalSubpart piece rest) (b : List UInt8) :
    MaximalSubpart piece (rest ++ 0x0A :: b) := by
  have nonempty : piece ++ rest ≠ [] := List.append_ne_nil_of_left_ne_nil subpart.nonempty rest
  refine ⟨subpart.nonempty, fun c stands => ?_, subpart.begins, fun longer leading begun => ?_⟩
  · rw [← List.append_assoc] at stands
    exact subpart.noCharacter c (prefix_of_begins nonempty stands ⟨c, List.prefix_refl _⟩)
  · rw [← List.append_assoc] at leading
    exact subpart.longest longer (prefix_of_begins nonempty leading begun) begun

private theorem Reads.append_lineFeed {a b : List UInt8} {text text' : List Char}
    (first : Reads a text)
    (second : Reads b text') : Reads (a ++ 0x0A :: b) (text ++ '\n' :: text') := by
  induction first with
  | nil => exact .char '\n' second
  | char c later ih =>
    rw [List.append_assoc, List.cons_append]
    exact .char c ih
  | replaced subpart later ih =>
    rw [List.append_assoc, List.cons_append]
    exact .replaced (subpart.before_lineFeed b) ih

/-- What stands before a line feed and what stands after it are read each by itself. -/
theorem decodeLenient_lineFeed (a b : List UInt8) :
    decodeLenient (a ++ 0x0A :: b) = decodeLenient a ++ '\n' :: decodeLenient b :=
  decodeLenient_eq_iff.mpr
    ((decodeLenient_eq_iff.mp rfl).append_lineFeed (decodeLenient_eq_iff.mp rfl))

end MusicFiling.Text.Utf8
