import MusicFiling.Text.Utf8
import Mathlib.Algebra.Group.Nat.Defs
import Mathlib.Data.List.Induction
import Mathlib.Tactic.SplitIfs

/-!
# Characters and their bytes

Bytes that are read as one character come to a character exactly if they are its UTF-8, and to
nothing exactly if no character's UTF-8 begins with them.
-/

namespace MusicFiling.Text.Utf8

private theorem leading_ofNat {n : Nat} (small : n < 256) :
    leading (UInt8.ofNat n) =
      if n < 0x80 then .char (Char.ofNat n)
      else if n < 0xC2 then .illFormed
      else if n < 0xE0 then .owed ⟨0x80, 0xBF, 0, n - 0xC0⟩
      else if n < 0xF0 then
        .owed ⟨if n = 0xE0 then 0xA0 else 0x80, if n = 0xED then 0x9F else 0xBF, 1, n - 0xE0⟩
      else if n < 0xF5 then
        .owed ⟨if n = 0xF0 then 0x90 else 0x80, if n = 0xF4 then 0x8F else 0xBF, 2, n - 0xF0⟩
      else .illFormed := by
  have same : (UInt8.ofNat n).toNat = n := UInt8.toNat_ofNat_of_lt' small
  simp only [leading, UInt8.lt_iff_toNat_lt, ← UInt8.toNat_inj, same, UInt8.reduceToNat]

namespace Owed

variable {o : Owed} {b : UInt8}

/-- A byte in the range of an unfinished character is its next group of six bits. -/
theorem next_inside (low : o.low.toNat ≤ b.toNat) (high : b.toNat ≤ o.high.toNat) :
    o.next b =
      match o.after with
      | 0 => .char (Char.ofNat (o.code * 64 + (b.toNat - 0x80)))
      | after + 1 => .owed ⟨0x80, 0xBF, after, o.code * 64 + (b.toNat - 0x80)⟩ := by
  have inside : o.low ≤ b ∧ b ≤ o.high :=
    ⟨UInt8.le_iff_toNat_le.mpr low, UInt8.le_iff_toNat_le.mpr high⟩
  cases after : o.after with
  | zero => simp only [next, inside, after, and_self, if_true]
  | succ count => simp only [next, inside, after, and_self, if_true]

/-- Only a byte in this range goes on with the character. -/
theorem next_cases (continued : o.next b ≠ .illFormed) :
    o.low.toNat ≤ b.toNat ∧ b.toNat ≤ o.high.toNat ∧
      (o.after = 0 ∧ o.next b = .char (Char.ofNat (o.code * 64 + (b.toNat - 0x80))) ∨
        ∃ k, o.after = k + 1 ∧
          o.next b = .owed ⟨0x80, 0xBF, k, o.code * 64 + (b.toNat - 0x80)⟩) := by
  by_cases inside : o.low ≤ b ∧ b ≤ o.high
  · have low := UInt8.le_iff_toNat_le.mp inside.1
    have high := UInt8.le_iff_toNat_le.mp inside.2
    refine ⟨low, high, ?_⟩
    rw [next_inside low high]
    cases o.after with
    | zero => exact .inl ⟨rfl, rfl⟩
    | succ k => exact .inr ⟨k, rfl, rfl⟩
  · rw [next, if_neg inside] at continued
    exact absurd rfl continued

end Owed

private theorem toNat_ofNat {n : Nat} (valid : n.isValidChar) : (Char.ofNat n).val.toNat = n := by
  rw [Char.ofNat, dif_pos valid]
  rfl

/-- The bytes of the last groups of six bits of a number. -/
def continuation : Nat → Nat → List UInt8
  | 0, _ => []
  | k + 1, n => UInt8.ofNat (n / 64 ^ k % 64 + 0x80) :: continuation k n

private theorem encode_one {n : Nat} (high : n < 0x80) :
    String.utf8EncodeChar (Char.ofNat n) = [UInt8.ofNat n] := by
  have valid : n.isValidChar := .inl (by omega)
  simp only [String.utf8EncodeChar, toNat_ofNat valid]
  rw [if_pos (by omega)]

private theorem encode_two {n : Nat} (low : 0x80 ≤ n) (high : n < 0x800) :
    String.utf8EncodeChar (Char.ofNat n) = UInt8.ofNat (n / 64 + 0xC0) :: continuation 1 n := by
  have valid : n.isValidChar := .inl (by omega)
  have code : n / 64 % 32 = n / 64 := by omega
  simp only [String.utf8EncodeChar, toNat_ofNat valid, continuation, code]
  rw [if_neg (by omega), if_pos (by omega)]
  simp

private theorem encode_three {n : Nat} (low : 0x800 ≤ n) (high : n < 0x10000)
    (valid : n < 0xD800 ∨ 0xDFFF < n) :
    String.utf8EncodeChar (Char.ofNat n) = UInt8.ofNat (n / 4096 + 0xE0) :: continuation 2 n := by
  have valid : n.isValidChar := valid.imp_right fun above => ⟨above, by omega⟩
  have code : n / 4096 % 16 = n / 4096 := by omega
  simp only [String.utf8EncodeChar, toNat_ofNat valid, continuation, code]
  rw [if_neg (by omega), if_neg (by omega), if_pos (by omega)]
  simp

private theorem encode_four {n : Nat} (low : 0x10000 ≤ n) (high : n < 0x110000) :
    String.utf8EncodeChar (Char.ofNat n) = UInt8.ofNat (n / 262144 + 0xF0) :: continuation 3 n := by
  have valid : n.isValidChar := .inr ⟨by omega, high⟩
  have code : n / 262144 % 8 = n / 262144 := by omega
  simp only [String.utf8EncodeChar, toNat_ofNat valid, continuation, code]
  rw [if_neg (by omega), if_neg (by omega), if_neg (by omega)]
  simp

/-- What is owed after the lead byte of two. -/
def owedTwo (lead : Nat) : Owed :=
  ⟨0x80, 0xBF, 0, lead - 0xC0⟩

/-- What is owed after the lead byte of three: neither an overlong form nor a surrogate may
    follow. -/
def owedThree (lead : Nat) : Owed :=
  ⟨if lead = 0xE0 then 0xA0 else 0x80, if lead = 0xED then 0x9F else 0xBF, 1, lead - 0xE0⟩

/-- What is owed after the lead byte of four: neither an overlong form nor a number beyond the
    last character may follow. -/
def owedFour (lead : Nat) : Owed :=
  ⟨if lead = 0xF0 then 0x90 else 0x80, if lead = 0xF4 then 0x8F else 0xBF, 2, lead - 0xF0⟩

private theorem leading_one {lead : Nat} (high : lead < 0x80) :
    leading (UInt8.ofNat lead) = .char (Char.ofNat lead) := by
  rw [leading_ofNat (by omega), if_pos high]

private theorem leading_two {lead : Nat} (low : 0xC2 ≤ lead) (high : lead < 0xE0) :
    leading (UInt8.ofNat lead) = .owed (owedTwo lead) := by
  rw [leading_ofNat (by omega), if_neg (by omega), if_neg (by omega), if_pos high, owedTwo]

private theorem leading_three {lead : Nat} (low : 0xE0 ≤ lead) (high : lead < 0xF0) :
    leading (UInt8.ofNat lead) = .owed (owedThree lead) := by
  rw [leading_ofNat (by omega), if_neg (by omega), if_neg (by omega), if_neg (by omega),
    if_pos high, owedThree]

private theorem leading_four {lead : Nat} (low : 0xF0 ≤ lead) (high : lead < 0xF5) :
    leading (UInt8.ofNat lead) = .owed (owedFour lead) := by
  rw [leading_ofNat (by omega), if_neg (by omega), if_neg (by omega), if_neg (by omega),
    if_neg (by omega), if_pos high, owedFour]

/-- The ranges of lead bytes. -/
theorem leading_cases {b : UInt8} (begun : leading b ≠ .illFormed) :
    ∃ lead, b = UInt8.ofNat lead ∧ (lead < 0x80 ∨ 0xC2 ≤ lead ∧ lead < 0xE0 ∨
      0xE0 ≤ lead ∧ lead < 0xF0 ∨ 0xF0 ≤ lead ∧ lead < 0xF5) := by
  refine ⟨b.toNat, UInt8.ofNat_toNat.symm, ?_⟩
  by_contra outside
  have read := leading_ofNat (n := b.toNat) b.toNat_lt
  rw [UInt8.ofNat_toNat] at read
  refine begun (read.trans ?_)
  by_cases below : b.toNat < 0xC2
  · rw [if_neg (by omega), if_pos below]
  · rw [if_neg (by omega), if_neg below, if_neg (by omega), if_neg (by omega), if_neg (by omega)]

/-- Bytes with which the bytes of a character begin. -/
def Begins (bytes : List UInt8) : Prop :=
  ∃ c, bytes <+: String.utf8EncodeChar c

/-- A number that an unfinished character may still become. -/
structure Owed.Admits (o : Owed) (n : Nat) : Prop where
  code : n / 64 ^ (o.after + 1) = o.code
  low : o.low.toNat ≤ n / 64 ^ o.after % 64 + 0x80
  high : n / 64 ^ o.after % 64 + 0x80 ≤ o.high.toNat

private theorem admits_two {lead n : Nat} : (owedTwo lead).Admits n ↔ n / 64 = lead - 0xC0 := by
  constructor
  · intro admitted
    exact admitted.code
  · intro code
    have most : n % 64 + 0x80 ≤ 0xBF := by omega
    exact ⟨code, by simp [owedTwo], by simpa [owedTwo] using most⟩

private theorem admits_three {lead n : Nat} (low : 0xE0 ≤ lead) (high : lead < 0xF0) :
    (owedThree lead).Admits n ↔
      n / 4096 = lead - 0xE0 ∧ 0x800 ≤ n ∧ (n < 0xD800 ∨ 0xDFFF < n) := by
  constructor
  · rintro ⟨code, least, most⟩
    simp only [owedThree, Nat.reduceAdd, Nat.reducePow, apply_ite UInt8.toNat,
      UInt8.reduceToNat] at code least most
    refine ⟨code, ?_⟩
    split_ifs at least most <;> omega
  · rintro ⟨code, above, valid⟩
    refine ⟨code, ?_, ?_⟩
    · simp only [owedThree, Nat.reducePow, apply_ite UInt8.toNat, UInt8.reduceToNat]
      split_ifs <;> omega
    · simp only [owedThree, Nat.reducePow, apply_ite UInt8.toNat, UInt8.reduceToNat]
      split_ifs <;> omega

private theorem admits_four {lead n : Nat} (low : 0xF0 ≤ lead) (high : lead < 0xF5) :
    (owedFour lead).Admits n ↔ n / 262144 = lead - 0xF0 ∧ 0x10000 ≤ n ∧ n < 0x110000 := by
  constructor
  · rintro ⟨code, least, most⟩
    simp only [owedFour, Nat.reduceAdd, Nat.reducePow, apply_ite UInt8.toNat,
      UInt8.reduceToNat] at code least most
    refine ⟨code, ?_⟩
    split_ifs at least most <;> omega
  · rintro ⟨code, above, valid⟩
    refine ⟨code, ?_, ?_⟩
    · simp only [owedFour, Nat.reducePow, apply_ite UInt8.toNat, UInt8.reduceToNat]
      split_ifs <;> omega
    · simp only [owedFour, Nat.reducePow, apply_ite UInt8.toNat, UInt8.reduceToNat]
      split_ifs <;> omega

/-- The character is unfinished after the bytes `seen`, with which every character begins that it
    may still become. -/
structure Owed.After (o : Owed) (seen : List UInt8) : Prop where
  low : 0x80 ≤ o.low.toNat
  between : o.low.toNat ≤ o.high.toNat
  high : o.high.toNat ≤ 0xBF
  spelled : ∀ n, o.Admits n →
    String.utf8EncodeChar (Char.ofNat n) = seen ++ continuation (o.after + 1) n

private theorem after_two {lead : Nat} (low : 0xC2 ≤ lead) (high : lead < 0xE0) :
    (owedTwo lead).After [UInt8.ofNat lead] := by
  refine ⟨by simp [owedTwo], by simp [owedTwo], by simp [owedTwo], fun n admitted => ?_⟩
  have code := admits_two.mp admitted
  rw [encode_two (by omega) (by omega), code, Nat.sub_add_cancel (by omega)]
  rfl

private theorem after_three {lead : Nat} (low : 0xE0 ≤ lead) (high : lead < 0xF0) :
    (owedThree lead).After [UInt8.ofNat lead] := by
  refine ⟨?_, ?_, ?_, fun n admitted => ?_⟩
  · simp only [owedThree]
    split_ifs <;> decide
  · simp only [owedThree]
    split_ifs
    · omega
    all_goals decide
  · simp only [owedThree]
    split_ifs <;> decide
  · obtain ⟨code, above, valid⟩ := (admits_three low high).mp admitted
    rw [encode_three above (by omega) valid, code, Nat.sub_add_cancel low]
    rfl

private theorem after_four {lead : Nat} (low : 0xF0 ≤ lead) (high : lead < 0xF5) :
    (owedFour lead).After [UInt8.ofNat lead] := by
  refine ⟨?_, ?_, ?_, fun n admitted => ?_⟩
  · simp only [owedFour]
    split_ifs <;> decide
  · simp only [owedFour]
    split_ifs
    · omega
    all_goals decide
  · simp only [owedFour]
    split_ifs <;> decide
  · obtain ⟨code, above, valid⟩ := (admits_four low high).mp admitted
    rw [encode_four above valid, code, Nat.sub_add_cancel low]
    rfl

private theorem after_leading {b : UInt8} {o : Owed} (owed : leading b = .owed o) :
    o.After [b] := by
  obtain ⟨lead, rfl, one | ⟨low, high⟩ | ⟨low, high⟩ | ⟨low, high⟩⟩ :=
    leading_cases (by rw [owed]; simp)
  · rw [leading_one one] at owed
    cases owed
  · rw [leading_two low high] at owed
    exact Effect.owed.inj owed ▸ after_two low high
  · rw [leading_three low high] at owed
    exact Effect.owed.inj owed ▸ after_three low high
  · rw [leading_four low high] at owed
    exact Effect.owed.inj owed ▸ after_four low high

private theorem encode_of_leading {b : UInt8} {c : Char} (completed : leading b = .char c) :
    String.utf8EncodeChar c = [b] := by
  obtain ⟨lead, rfl, one | ⟨low, high⟩ | ⟨low, high⟩ | ⟨low, high⟩⟩ :=
    leading_cases (by rw [completed]; simp)
  · rw [leading_one one] at completed
    exact Effect.char.inj completed ▸ encode_one one
  · rw [leading_two low high] at completed
    cases completed
  · rw [leading_three low high] at completed
    cases completed
  · rw [leading_four low high] at completed
    cases completed

namespace Owed

variable {o : Owed} {b : UInt8}

namespace After

variable {seen : List UInt8} (after : o.After seen)
include after

/-- What may come of a character after its next byte might have come of it before. -/
theorem admits {n : Nat} (low : o.low.toNat ≤ b.toNat) (high : b.toNat ≤ o.high.toNat)
    (code : n / 64 ^ o.after = o.code * 64 + (b.toNat - 0x80)) :
    o.Admits n ∧ UInt8.ofNat (n / 64 ^ o.after % 64 + 0x80) = b := by
  have least := after.low
  have most := after.high
  have six : n / 64 ^ o.after % 64 + 0x80 = b.toNat := by omega
  refine ⟨⟨?_, by omega, by omega⟩, ?_⟩
  · rw [Nat.pow_succ, ← Nat.div_div_eq_div_mul]
    omega
  · rw [six, UInt8.ofNat_toNat]

private theorem next {o' : Owed} (more : o.next b = .owed o') : o'.After (seen ++ [b]) := by
  obtain ⟨low, high, ⟨-, completed⟩ | ⟨k, count, owed⟩⟩ := next_cases (by rw [more]; simp)
  · rw [more] at completed
    cases completed
  · obtain rfl := Effect.owed.inj (more.symm.trans owed)
    refine ⟨by simp, by simp, by simp, fun n admitted => ?_⟩
    obtain ⟨admitted', byte⟩ := after.admits low high (by rw [count]; exact admitted.code)
    rw [after.spelled n admitted', continuation, byte, count, List.append_assoc]
    rfl

private theorem last {c : Char} (completed : o.next b = .char c) :
    String.utf8EncodeChar c = seen ++ [b] := by
  obtain ⟨low, high, ⟨count, char⟩ | ⟨k, -, owed⟩⟩ := next_cases (by rw [completed]; simp)
  · obtain ⟨admitted, byte⟩ := after.admits low high (by rw [count, Nat.pow_zero, Nat.div_one])
    rw [Effect.char.inj (completed.symm.trans char), after.spelled _ admitted, continuation, byte,
      count]
    rfl
  · rw [completed] at owed
    cases owed

/-- An unfinished character can be completed: its least bytes do. -/
theorem begins : Begins seen := by
  have positive : 0 < 64 ^ o.after := Nat.pow_pos (by decide)
  obtain ⟨admitted, -⟩ := after.admits (b := o.low) (Nat.le_refl _) after.between
    (Nat.mul_div_cancel _ positive)
  exact ⟨_, _, (after.spelled _ admitted).symm⟩

end After

end Owed

/-- The effect of a byte after those of a character. -/
def Effect.next : Effect → UInt8 → Effect
  | .owed o, b => o.next b
  | _, _ => .illFormed

/-- What bytes come to that are read as one character. -/
def effect (lead : UInt8) (rest : List UInt8) : Effect :=
  rest.foldl Effect.next (leading lead)

theorem effect_concat {lead : UInt8} {rest : List UInt8} {o : Owed}
    (owed : effect lead rest = .owed o) (b : UInt8) : effect lead (rest ++ [b]) = o.next b := by
  rw [effect, List.foldl_append, ← effect, owed]
  rfl

/-- A byte can only follow the bytes of an unfinished character. -/
theorem effect_concat_eq {lead b : UInt8} {rest : List UInt8}
    (continued : effect lead (rest ++ [b]) ≠ .illFormed) :
    ∃ o, effect lead rest = .owed o ∧ effect lead (rest ++ [b]) = o.next b := by
  have next : effect lead (rest ++ [b]) = (effect lead rest).next b := by simp [effect]
  cases before : effect lead rest with
  | owed o => exact ⟨o, rfl, effect_concat before b⟩
  | char c => exact absurd (by rw [next, before]; rfl) continued
  | illFormed => exact absurd (by rw [next, before]; rfl) continued

private theorem Effect.foldl_illFormed (bytes : List UInt8) :
    bytes.foldl Effect.next .illFormed = .illFormed := by
  induction bytes with
  | nil => rfl
  | cons b rest ih => exact ih

private theorem Owed.Admits.next {o : Owed} {n : Nat} (admitted : o.Admits n) :
    o.next (UInt8.ofNat (n / 64 ^ o.after % 64 + 0x80)) =
      match o.after with
      | 0 => .char (Char.ofNat (n / 64 ^ o.after))
      | k + 1 => .owed ⟨0x80, 0xBF, k, n / 64 ^ o.after⟩ := by
  have six : n / 64 ^ o.after % 64 < 64 := Nat.mod_lt _ (by decide)
  have group : o.code * 64 + (n / 64 ^ o.after % 64 + 0x80 - 0x80) = n / 64 ^ o.after := by
    have code := admitted.code
    rw [Nat.pow_succ, ← Nat.div_div_eq_div_mul] at code
    omega
  have same : (UInt8.ofNat (n / 64 ^ o.after % 64 + 0x80)).toNat = n / 64 ^ o.after % 64 + 0x80 :=
    UInt8.toNat_ofNat_of_lt' (Nat.lt_of_lt_of_le (Nat.add_lt_add_right six 0x80) (by decide))
  rw [next_inside (by rw [same]; exact admitted.low) (by rw [same]; exact admitted.high), same,
    group]

/-- The bytes of an admitted number complete the character. -/
theorem Owed.Admits.completes {o : Owed} {n : Nat} (admitted : o.Admits n) :
    (continuation (o.after + 1) n).foldl Effect.next (.owed o) = .char (Char.ofNat n) := by
  have next := admitted.next
  induction count : o.after generalizing o with
  | zero =>
    rw [count] at next
    simpa [continuation, Effect.next] using next
  | succ k ih =>
    rw [count] at next
    have six : n / 64 ^ k % 64 < 64 := Nat.mod_lt _ (by decide)
    have later : Owed.Admits ⟨0x80, 0xBF, k, n / 64 ^ (k + 1)⟩ n :=
      ⟨rfl, Nat.le_add_left _ _, Nat.le_of_lt_succ (Nat.add_lt_add_right six 0x80)⟩
    rw [continuation, List.foldl_cons, Effect.next, next]
    exact ih later later.next rfl

/-- The bytes of a character come to that character. -/
theorem effect_encode (c : Char) :
    ∃ lead rest, String.utf8EncodeChar c = lead :: rest ∧ effect lead rest = .char c := by
  have valid : c.toNat < 0xD800 ∨ 0xDFFF < c.toNat ∧ c.toNat < 0x110000 := c.valid
  have whole : Char.ofNat c.toNat = c := Char.ofNat_toNat c
  generalize c.toNat = n at valid whole
  subst whole
  by_cases one : n < 0x80
  · exact ⟨_, _, encode_one one, leading_one one⟩
  by_cases two : n < 0x800
  · refine ⟨_, _, encode_two (by omega) two, ?_⟩
    rw [effect, leading_two (by omega) (by omega)]
    exact (admits_two.mpr (by omega)).completes
  by_cases three : n < 0x10000
  · refine ⟨_, _, encode_three (by omega) three (by omega), ?_⟩
    rw [effect, leading_three (by omega) (by omega)]
    exact ((admits_three (by omega) (by omega)).mpr ⟨by omega, by omega, by omega⟩).completes
  · refine ⟨_, _, encode_four (by omega) (by omega), ?_⟩
    rw [effect, leading_four (by omega) (by omega)]
    exact ((admits_four (by omega) (by omega)).mpr ⟨by omega, by omega, by omega⟩).completes

/-- What is owed after some bytes is owed after them. -/
theorem after_effect {lead : UInt8} {rest : List UInt8} {o : Owed}
    (owed : effect lead rest = .owed o) : o.After (lead :: rest) := by
  -- From the last byte backwards, since each byte is checked against what those before it owe.
  induction rest using List.reverseRecOn generalizing o with
  | nil => exact after_leading owed
  | append_singleton rest b ih =>
    obtain ⟨o', before, more⟩ := effect_concat_eq (by rw [owed]; simp)
    exact (ih before).next (more.symm.trans owed)

/-- Exactly the bytes of a character come to it. -/
theorem effect_eq_char_iff {lead : UInt8} {rest : List UInt8} {c : Char} :
    effect lead rest = .char c ↔ String.utf8EncodeChar c = lead :: rest := by
  constructor
  · intro completed
    cases rest using List.reverseRecOn with
    | nil => exact encode_of_leading completed
    | append_singleton rest b =>
      obtain ⟨o, before, last⟩ := effect_concat_eq (by rw [completed]; simp)
      exact (after_effect before).last (last.symm.trans completed)
  · intro spelled
    obtain ⟨lead', rest', spelled', completed⟩ := effect_encode c
    obtain ⟨rfl, rfl⟩ := List.cons.inj (spelled.symm.trans spelled')
    exact completed

/-- Bytes come to nothing exactly if no character begins with them. -/
theorem effect_eq_illFormed_iff {lead : UInt8} {rest : List UInt8} :
    effect lead rest = .illFormed ↔ ¬ Begins (lead :: rest) := by
  constructor
  · rintro broken ⟨c, more, spelled⟩
    have completed : effect lead (rest ++ more) = .char c := effect_eq_char_iff.mpr spelled.symm
    rw [effect, List.foldl_append, ← effect, broken, Effect.foldl_illFormed] at completed
    cases completed
  · intro stuck
    cases reached : effect lead rest with
    | owed o => exact absurd (after_effect reached).begins stuck
    | char c =>
      have spelled := effect_eq_char_iff.mp reached
      exact absurd ⟨c, [], by rw [List.append_nil, spelled]⟩ stuck
    | illFormed => rfl

end MusicFiling.Text.Utf8
