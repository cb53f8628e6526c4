import MusicFiling.Proofs.Destination
import Mathlib.Data.List.TakeWhile

/-!
# The end of a name

A destination's name ends as the rendered text does, and what follows the last dot of a name that
does not begin with it is the name's extension.
-/

namespace MusicFiling

private theorem splitOn_append {last : List Char} (noSlash : '/' ∉ last) (text : List Char) :
    ∃ before stem, (text ++ last).splitOn '/' = before ++ [stem ++ last] := by
  induction text with
  | nil => exact ⟨[], [], List.splitOn_eq_singleton noSlash⟩
  | cons c rest ih =>
    obtain ⟨before, stem, split⟩ := ih
    rw [List.cons_append, List.splitOn_cons_eq_if_modifyHead, split]
    split_ifs
    · exact ⟨[] :: before, stem, rfl⟩
    · cases before with
      | nil => exact ⟨[], c :: stem, rfl⟩
      | cons first others => exact ⟨(c :: first) :: others, stem, rfl⟩

/-- The name of a destination ends as the rendered text does. -/
theorem name_of_buildDestination {target destination : Path} {text last : String}
    (noSlash : '/' ∉ last.toList)
    (built : buildDestination target (text ++ last) = .ok destination) :
    ∃ stem, destination.name = Text.letters (stem ++ last) := by
  obtain ⟨before, stem, split⟩ := splitOn_append noSlash text.toList
  obtain ⟨cs, rfl, pieces⟩ := (extends_of_buildDestination built).2.exists_descend
  rw [String.toList_append, split, List.map_append] at pieces
  obtain ⟨others, ending, rfl, -, shown⟩ := List.map_eq_append_iff.mp pieces
  obtain ⟨c, rfl, text'⟩ := List.map_eq_singleton_iff.mp shown
  refine ⟨String.ofList stem, ?_⟩
  have named : (target.descend (others ++ [c])).name = c.text := by
    simp [Path.descend, Path.name, ← List.append_assoc]
  rw [named, text', Text.letters, String.toList_append, String.toList_ofList]

namespace Path

private theorem dot_not_mem_extensionOf (name : List Letter) : .char '.' ∉ extensionOf name := by
  unfold extensionOf
  simp only
  split_ifs
  · intro member
    simpa using List.mem_takeWhile_imp (List.mem_reverse.mp member)
  · exact List.not_mem_nil

private theorem extensionOf_append {stem ext : List Letter} (nonempty : stem ≠ [])
    (dotless : .char '.' ∉ ext) : extensionOf (stem ++ .char '.' :: ext) = ext := by
  have tail : ((stem ++ .char '.' :: ext).reverse.takeWhile (· ≠ .char '.')).reverse = ext := by
    have plain : ∀ l ∈ ext.reverse, decide (l ≠ .char '.') = true := by
      intro l member
      have other : l ≠ .char '.' := by
        rintro rfl
        exact dotless (List.mem_reverse.mp member)
      exact decide_eq_true other
    rw [List.reverse_append, List.reverse_cons, List.append_assoc,
      List.takeWhile_append_of_pos plain]
    simp
  have positive := List.length_pos_iff.mpr nonempty
  simp only [extensionOf, tail]
  rw [if_pos (by simp; omega)]

private theorem dot_not_mem_extension (p : Path) : '.' ∉ p.extension.toList := by
  intro member
  rw [extension, Text.shown, String.toList_ofList] at member
  obtain ⟨l, inside, dot⟩ := List.mem_map.mp member
  cases l with
  | char c =>
    obtain rfl : c = '.' := dot
    exact dot_not_mem_extensionOf _ inside
  | stray byte high => cases dot

/-- A name that continues a stem by a dot and an extension has this extension. -/
theorem extension_of_name {p q : Path} {stem : String} (nonempty : stem ≠ "")
    (name : p.name = Text.letters (stem ++ ("." ++ q.extension))) : p.extension = q.extension := by
  have dotless : .char '.' ∉ Text.letters q.extension := by
    simpa [Text.letters] using q.dot_not_mem_extension
  have split : p.name = Text.letters stem ++ .char '.' :: Text.letters q.extension := by
    rw [name, Text.letters_append, Text.letters_append]
    rfl
  have proper : Text.letters stem ≠ [] := by simpa [Text.letters] using nonempty
  rw [extension, split, extensionOf_append proper dotless, Text.shown_letters]

theorem suffix_of_extension {p : Path} (named : p.extension ≠ "") :
    p.suffix = "." ++ p.extension :=
  if_neg named

end Path

end MusicFiling
