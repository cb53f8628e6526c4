import MusicFiling.Text.Case
import Mathlib.Tactic.SplitIfs

/-!
# Separators in upper case

Underscores and spaces separate the words of names. In upper case they stay what they are, and no
other character becomes one, so it does not matter whether a separator is dropped before or after a
text is written in upper case.
-/

namespace MusicFiling.Text

/-- Whether a character separates the words of a name. -/
def isSeparator (c : Char) : Bool :=
  c = '_' || c = ' '

theorem isSeparator_eq : isSeparator = fun c => decide (c = '_' ∨ c = ' ') := by
  funext c
  simp [isSeparator]

theorem isSeparator_iff {c : Char} : isSeparator c = true ↔ c = '_' ∨ c = ' ' := by
  simp [isSeparator]

/-- Nothing that comes before the small letters changes in upper case. -/
theorem upperChar_of_lt {c : Char} (low : c.toNat < 0x61) : upperChar c = [c] := by
  have runs : ∀ run ∈ upperRuns, 0x61 ≤ run.first := by decide +kernel
  have expansions : ∀ expansion ∈ upperExpansions, 0x61 ≤ expansion.1 := by decide +kernel
  have single : upperRuns.findSome? (·.image? c.toNat) = none := by
    refine List.findSome?_eq_none_iff.mpr fun run member => if_neg fun covered => ?_
    exact absurd (Nat.le_trans (runs run member) covered.1) (Nat.not_le.mpr low)
  have several : upperExpansions.lookup c.toNat = none := by
    refine List.lookup_eq_none_iff.mpr fun expansion member => bne_iff_ne.mpr fun same => ?_
    exact absurd (same ▸ expansions expansion member) (Nat.not_le.mpr low)
  simp only [upperChar, caseImage, single, several]

theorem upperChars_of_lt {cs : List Char} (low : ∀ c ∈ cs, c.toNat < 0x61) :
    upperChars cs = cs := by
  induction cs with
  | nil => rfl
  | cons c rest ih =>
    rw [upperChars, List.flatMap_cons, upperChar_of_lt (low c List.mem_cons_self)]
    exact congrArg (c :: ·) (ih fun c' member => low c' (List.mem_cons_of_mem c member))

private theorem upperChar_separator {c : Char} (separator : isSeparator c = true) :
    upperChar c = [c] := by
  rcases isSeparator_iff.mp separator with rfl | rfl <;> exact upperChar_of_lt (by decide)

/-- The code points that are no separators. -/
def Solid (code : Nat) : Prop :=
  code ≠ 0x5F ∧ code ≠ 0x20

instance (code : Nat) : Decidable (Solid code) :=
  inferInstanceAs (Decidable (_ ∧ _))

/-- A number that is no code point gives the null character. -/
theorem toNat_ofNat_cases (code : Nat) :
    (Char.ofNat code).toNat = code ∨ (Char.ofNat code).toNat = 0 := by
  unfold Char.ofNat
  by_cases valid : code.isValidChar
  · left
    rw [dif_pos valid]
    rfl
  · right
    rw [dif_neg valid]
    rfl

private theorem isSeparator_ofNat {code : Nat} (solid : Solid code) :
    isSeparator (Char.ofNat code) = false := by
  rw [← Bool.not_eq_true, isSeparator_iff, ← Char.toNat_inj, ← Char.toNat_inj]
  obtain ⟨underscore, space⟩ := solid
  rcases toNat_ofNat_cases code with same | null
  · rw [same]
    exact fun separator => separator.elim underscore space
  · rw [null]
    decide

/-- No run of the table has a separator among its images. -/
theorem CaseRun.solid_of_image? {run : CaseRun} (member : run ∈ upperRuns) {code image : Nat}
    (mapped : run.image? code = some image) : Solid image := by
  have beside : ∀ run ∈ upperRuns,
      0x20 < run.image ∧ (run.image + (run.last - run.first) < 0x5F ∨ 0x5F < run.image) := by
    decide +kernel
  obtain ⟨above, apart⟩ := beside run member
  unfold CaseRun.image? at mapped
  split_ifs at mapped with covered
  obtain rfl := Option.some.inj mapped
  unfold Solid
  omega

/-- No other character becomes a separator. -/
theorem isSeparator_of_mem_upperChar {c c' : Char} (solid : isSeparator c = false)
    (member : c' ∈ upperChar c) : isSeparator c' = false := by
  unfold upperChar caseImage at member
  split at member
  case h_1 image mapped =>
    obtain ⟨run, inTable, found⟩ := List.exists_of_findSome?_eq_some mapped
    obtain rfl := List.mem_singleton.mp member
    exact isSeparator_ofNat (CaseRun.solid_of_image? inTable found)
  case h_2 =>
    split at member
    case h_1 codes found =>
      have expansions : ∀ expansion ∈ upperExpansions, ∀ code ∈ expansion.2, Solid code := by
        decide +kernel
      obtain ⟨code, listed, rfl⟩ := List.mem_map.mp member
      obtain ⟨before, after, split, -⟩ := List.lookup_eq_some_iff.mp found
      exact isSeparator_ofNat (expansions (c.toNat, codes) (by simp [split]) code listed)
    case h_2 =>
      obtain rfl := List.mem_singleton.mp member
      exact solid

section

variable {separates : Char → Bool} (only : ∀ c, separates c = true → isSeparator c = true)
include only

private theorem not_separates_of_mem_upperChar {c : Char} (other : ¬ separates c = true) :
    ∀ c' ∈ upperChar c, ¬ separates c' = true := by
  intro c' member separated
  cases kind : isSeparator c with
  | true =>
    rw [upperChar_separator kind, List.mem_singleton] at member
    exact other (member ▸ separated)
  | false =>
    have solid := isSeparator_of_mem_upperChar kind member
    rw [only c' separated] at solid
    cases solid

/-- The first of some separators may be dropped before or after a text is written in upper case. -/
theorem eraseP_upperChars (cs : List Char) :
    (upperChars cs).eraseP separates = upperChars (cs.eraseP separates) := by
  induction cs with
  | nil => rfl
  | cons c rest ih =>
    rw [upperChars, List.flatMap_cons]
    by_cases separated : separates c = true
    · rw [List.eraseP_cons_of_pos separated, upperChar_separator (only c separated)]
      exact List.eraseP_cons_of_pos separated
    · rw [List.eraseP_cons_of_neg separated, upperChars, List.flatMap_cons,
        List.eraseP_append_right _ (not_separates_of_mem_upperChar only separated)]
      exact congrArg (upperChar c ++ ·) ih

end

theorem separator_mem_upper {c : Char} (separator : isSeparator c = true) {text : String}
    (member : c ∈ text.toList) : c ∈ (upper text).toList := by
  rw [upper, String.toList_ofList]
  refine List.mem_flatMap.mpr ⟨c, member, ?_⟩
  simp [upperChar_separator separator]

end MusicFiling.Text
