import MusicFiling.Proofs.Path
import MusicFiling.Proofs.Text.Utf8.Character
import Mathlib.Data.List.TakeWhile

/-!
# Reading back UTF-8

Text that was written as UTF-8 is read back strictly without a flaw, in blocks of any size: a
character that a block leaves unfinished is completed by the next one.
-/

namespace MusicFiling.Text.Utf8

section Character

variable (done : List Char) (position : Nat)

private theorem read_owed {lead : UInt8} {rest : List UInt8} {o : Owed}
    (owed : effect lead rest = .owed o) :
    (lead :: rest).foldlM Strict.step ⟨done, [], .between, position⟩ =
      .ok ⟨done, (lead :: rest).reverse, .inside o, position + (lead :: rest).length⟩ := by
  induction rest using List.reverseRecOn generalizing o with
  | nil =>
    have first : leading lead = .owed o := owed
    simp [Strict.step, first]
  | append_singleton rest b ih =>
    obtain ⟨o', before, more⟩ := effect_concat_eq (by rw [owed]; simp)
    rw [owed] at more
    rw [← List.cons_append, List.foldlM_append, ih before]
    simp [bind, Except.bind, pure, Except.pure, Strict.step, ← more, Nat.add_assoc]

/-- The bytes of a character are read as that character. -/
theorem read_char (c : Char) :
    (String.utf8EncodeChar c).foldlM Strict.step ⟨done, [], .between, position⟩ =
      .ok ⟨c :: done, [], .between, position + (String.utf8EncodeChar c).length⟩ := by
  obtain ⟨lead, rest, spelled, completed⟩ := effect_encode c
  rw [spelled]
  cases rest using List.reverseRecOn with
  | nil =>
    have first : leading lead = .char c := completed
    simp [Strict.step, first]
  | append_singleton rest b =>
    obtain ⟨o, before, last⟩ := effect_concat_eq (by rw [completed]; simp)
    rw [completed] at last
    rw [← List.cons_append, List.foldlM_append, read_owed done position before]
    simp [bind, Except.bind, pure, Except.pure, Strict.step, ← last, Nat.add_assoc]

end Character

/-- The bytes of a text are read as that text. -/
theorem read_encode (cs done : List Char) (position : Nat) :
    (encode cs).foldlM Strict.step ⟨done, [], .between, position⟩ =
      .ok ⟨cs.reverse ++ done, [], .between, position + (encode cs).length⟩ := by
  induction cs generalizing done position with
  | nil => rfl
  | cons c rest ih =>
    have split : encode (c :: rest) = String.utf8EncodeChar c ++ encode rest := rfl
    rw [split, List.foldlM_append, read_char]
    simp only [bind, Except.bind, ih, List.length_append, List.reverse_cons, List.append_assoc,
      List.singleton_append, Nat.add_assoc]

/-- Two states of reading that differ in their positions at most. -/
def Strict.Alike (s t : Strict) : Prop :=
  s.done = t.done ∧ s.pending = t.pending ∧ s.stage = t.stage

private theorem Strict.Alike.step {s t s' : Strict} (alike : s.Alike t) {b : UInt8}
    (read : s.step b = .ok s') : ∃ t', t.step b = .ok t' ∧ s'.Alike t' := by
  obtain ⟨done, pending, stage, position⟩ := s
  obtain ⟨done', pending', stage', position'⟩ := t
  obtain ⟨rfl, rfl, rfl⟩ := alike
  unfold Strict.step at read ⊢
  simp only at read ⊢
  split at read
  · split at read
    · obtain rfl := Except.ok.inj read
      exact ⟨_, rfl, rfl, rfl, rfl⟩
    · obtain rfl := Except.ok.inj read
      exact ⟨_, rfl, rfl, rfl, rfl⟩
    · cases read
  · split at read
    · obtain rfl := Except.ok.inj read
      exact ⟨_, rfl, rfl, rfl, rfl⟩
    · obtain rfl := Except.ok.inj read
      exact ⟨_, rfl, rfl, rfl, rfl⟩
    · split at read
      · split_ifs at read ⊢
        obtain rfl := Except.ok.inj read
        exact ⟨_, rfl, rfl, rfl, rfl⟩
      · cases read
  · cases read

private theorem Strict.Alike.foldlM {bytes : List UInt8} {s t s' : Strict} (alike : s.Alike t)
    (read : bytes.foldlM Strict.step s = .ok s') :
    ∃ t', bytes.foldlM Strict.step t = .ok t' ∧ s'.Alike t' := by
  induction bytes generalizing s t with
  | nil =>
    obtain rfl := Except.ok.inj read
    exact ⟨t, rfl, alike⟩
  | cons b rest ih =>
    rw [List.foldlM_cons] at read
    cases first : s.step b with
    | error flaw => simp [first, bind, Except.bind] at read
    | ok next =>
      obtain ⟨next', first', alike'⟩ := alike.step first
      simp only [first, bind, Except.bind] at read
      obtain ⟨t', rest', alike''⟩ := ih alike' read
      refine ⟨t', ?_, alike''⟩
      rw [List.foldlM_cons, first']
      exact rest'

/-- Blocks that can be read in one go can be read one by one. -/
theorem decodeBlocks_of_foldlM {blocks : List (List UInt8)} {s t s' : Strict}
    (alike : s.Alike t) (read : blocks.flatten.foldlM Strict.step s = .ok s')
    (finished : s'.stage = .between) : decodeBlocks t blocks = ⟨s'.done.reverse, none⟩ := by
  induction blocks generalizing s t with
  | nil =>
    obtain rfl := Except.ok.inj read
    obtain ⟨done, -, stage⟩ := alike
    simp [decodeBlocks, Strict.unfinished?, ← stage, finished, done]
  | cons block rest ih =>
    rw [List.flatten_cons, List.foldlM_append] at read
    cases first : block.foldlM Strict.step s with
    | error flaw => simp [first, bind, Except.bind] at read
    | ok next =>
      simp only [first, bind, Except.bind] at read
      have restarted : s.Alike { t with position := t.pending.length } := alike
      obtain ⟨next', first', alike'⟩ := restarted.foldlM first
      simp only [decodeBlocks, first']
      exact ih alike' read

private theorem flatten_go (size n : Nat) (done : List (List UInt8)) (bytes : List UInt8)
    (enough : bytes.length ≤ n * size) :
    (blocks.go size n done bytes).flatten = done.reverse.flatten ++ bytes := by
  induction n generalizing done bytes with
  | zero =>
    have none : bytes = [] := by simpa using enough
    simp [none, blocks.go]
  | succ n ih =>
    cases bytes with
    | nil => simp [blocks.go]
    | cons b rest =>
      have later : ((b :: rest).drop size).length ≤ n * size := by
        have more : (n + 1) * size = n * size + size := Nat.succ_mul n size
        rw [List.length_drop]
        omega
      rw [blocks.go, ih _ _ later]
      · simp
      · simp

private theorem flatten_blocks {size : Nat} (positive : 0 < size) (bytes : List UInt8) :
    (blocks size bytes).flatten = bytes := by
  have enough : bytes.length ≤ (bytes.length / size + 1) * size := by
    rw [Nat.mul_comm]
    exact Nat.le_of_lt (Nat.lt_mul_div_succ bytes.length positive)
  exact flatten_go size _ [] bytes enough

/-- What was written as UTF-8 is read back. -/
theorem decodeStrict_encode (cs : List Char) : decodeStrict (encode cs) = ⟨cs, none⟩ := by
  unfold decodeStrict
  have whole : (blocks blockSize (encode cs)).flatten = encode cs :=
    flatten_blocks (by decide) _
  have read := read_encode cs [] 0
  rw [← whole] at read
  rw [decodeBlocks_of_foldlM ⟨rfl, rfl, rfl⟩ read rfl]
  simp

/-- A text is written if it holds no stray bytes. -/
theorem encodeText_of_plain {text : List Letter} (plain : Plain text) :
    encodeText text = .ok (encode (text.map Letter.shown)) := by
  have none : text.dropWhile Letter.isChar = [] := List.dropWhile_eq_nil_iff.mpr plain
  simp only [encodeText, none]

theorem plain_of_encodeText {text : List Letter} {bytes : List UInt8}
    (written : encodeText text = .ok bytes) : Plain text := by
  unfold encodeText at written
  split at written
  · next none => exact List.dropWhile_eq_nil_iff.mp none
  · cases written

private theorem encode_append (cs cs' : List Char) : encode (cs ++ cs') = encode cs ++ encode cs' :=
  List.flatMap_append

theorem encodeText_append {text text' : List Letter} {bytes bytes' : List UInt8}
    (written : encodeText text = .ok bytes) (written' : encodeText text' = .ok bytes') :
    encodeText (text ++ text') = .ok (bytes ++ bytes') := by
  have plain := plain_of_encodeText written
  have plain' := plain_of_encodeText written'
  rw [encodeText_of_plain plain] at written
  rw [encodeText_of_plain plain'] at written'
  rw [encodeText_of_plain (plain_append.mpr ⟨plain, plain'⟩), List.map_append, encode_append,
    Except.ok.inj written, Except.ok.inj written']

end MusicFiling.Text.Utf8
