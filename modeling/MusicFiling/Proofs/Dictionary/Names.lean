import MusicFiling.Proofs.Dictionary

/-!
# Names in patterns and keys in dictionaries

A pattern names its tags without the first underscore, a dictionary stores its values without the
first underscore or space, and the two write in upper case at different moments. They agree on
every name that a pattern may use, so that a value stored under such a name is the one that the
pattern reads. What keeps a separator names no tag on either side.
-/

namespace MusicFiling

open Text

private theorem countP_eraseP_self {α : Type} (p : α → Bool) (l : List α) :
    (l.eraseP p).countP p = l.countP p - 1 := by
  induction l with
  | nil => rfl
  | cons a rest ih =>
    by_cases accepted : p a = true
    · simp [accepted]
    · simpa [accepted] using ih

/-- The first separator of a key may be dropped before the key is written in upper case, as that of
    a name is. -/
theorem normalizeKey_eq (key : String) :
    normalizeKey key = upper (String.ofList (key.toList.eraseP isSeparator)) := by
  rw [normalizeKey, ← isSeparator_eq, upper, String.toList_ofList, eraseP_upperChars fun _ => id,
    upper,
    String.toList_ofList]

/-- Without spaces, a key has the normal form that it has as a name. -/
theorem normalizeKey_eq_normalizeName {name : String} (spaceless : ' ' ∉ name.toList) :
    normalizeKey name = Tag.normalizeName name := by
  have dropped : ∀ cs : List Char, ' ' ∉ cs → cs.eraseP isSeparator = cs.eraseP (· == '_') := by
    intro cs none
    induction cs with
    | nil => rfl
    | cons c rest ih =>
      obtain ⟨other, later⟩ := not_or.mp (mt List.mem_cons.mpr none)
      have same : isSeparator c = (c == '_') := by simp [isSeparator, Ne.symm other, beq_eq_decide]
      rw [List.eraseP_cons, List.eraseP_cons, same, ih later]
  rw [normalizeKey_eq, dropped _ spaceless, Tag.normalizeName]

namespace Tag

private theorem word_solid {word : String} {tag : Tag} (known : ofWord? word = some tag) :
    ∀ c ∈ word.toList, isSeparator c = false := by
  have solid : (vocabulary.all fun entry => !entry.1.toList.any isSeparator) = true := by
    decide +kernel
  obtain ⟨before, after, split, -⟩ := List.lookup_eq_some_iff.mp known
  have none := List.all_eq_true.mp solid (word, tag) (by simp [split])
  simpa using none

private theorem canonicalName_solid (tag : Tag) :
    ∀ c ∈ tag.canonicalName.toList, isSeparator c = false := by
  have solid : tag.canonicalName.toList.any isSeparator = false := by cases tag <;> decide
  simpa using solid

private theorem word_injective {tag tag' : Tag} (same : tag.word = tag'.word) : tag = tag' := by
  have found := ofWord?_word tag
  rw [same, ofWord?_word] at found
  exact (Option.some.inj found).symm

/-- No word has a separator. -/
theorem ofWord?_eq_none {word : String} {c : Char} (separator : isSeparator c = true)
    (member : c ∈ word.toList) : ofWord? word = none := by
  refine Option.eq_none_iff_forall_ne_some.mpr fun tag known => ?_
  rw [word_solid known c member] at separator
  cases separator

/-- A name that keeps a separator names no tag. -/
theorem ofName?_eq_none {name : String} {c : Char} (separator : isSeparator c = true)
    (kept : c ∈ name.toList.eraseP (· == '_')) : ofName? name = none :=
  ofWord?_eq_none separator (separator_mem_upper separator (by simpa using kept))

end Tag

/-- A key that keeps a separator comes to no tag. -/
theorem canonicalKey_ne_canonicalName {key : String} {c : Char} (separator : isSeparator c = true)
    (kept : c ∈ key.toList.eraseP isSeparator) (tag : Tag) :
    canonicalKey key ≠ tag.canonicalName := by
  have left : c ∈ (normalizeKey key).toList := by
    rw [normalizeKey_eq]
    exact separator_mem_upper separator (by simpa using kept)
  intro same
  have unchanged : canonicalKey key = normalizeKey key := by
    rw [canonicalKey, Tag.ofWord?_eq_none separator left]
  rw [← unchanged, same] at left
  rw [tag.canonicalName_solid c left] at separator
  cases separator

section

variable {name : String} {tag : Tag} (named : tag ≠ .extension)
include named

private theorem canonicalKey_of_ofWord? (known : Tag.ofWord? (normalizeKey name) = some tag) :
    canonicalKey name = tag.canonicalName := by
  rw [canonicalKey, known]
  cases tag <;> first | exact absurd rfl named | rfl

private theorem ofWord?_of_canonicalKey (stored : canonicalKey name = tag.canonicalName) :
    Tag.ofWord? (normalizeKey name) = some tag := by
  have own := Tag.ofWord?_word tag
  rw [← Tag.canonicalName_of_ne named] at own
  unfold canonicalKey at stored
  split at stored
  case h_1 => rw [stored, own]
  case h_2 tag' other known =>
    rw [Tag.canonicalName_of_ne other, Tag.canonicalName_of_ne named] at stored
    rw [known, Tag.word_injective stored]
  case h_3 => rw [stored, own]

/-- A name that a pattern may use has no spaces, so it has the same normal form as a key. -/
theorem canonicalKey_of_ofName? (known : Tag.ofName? name = some tag) :
    canonicalKey name = tag.canonicalName := by
  have spaceless : ' ' ∉ name.toList := by
    intro member
    have kept : ' ' ∈ name.toList.eraseP (· == '_') :=
      (List.mem_eraseP_of_neg (by decide)).mpr member
    rw [Tag.ofName?_eq_none (by decide) kept] at known
    cases known
  refine canonicalKey_of_ofWord? named ?_
  rw [normalizeKey_eq_normalizeName spaceless]
  exact known

/-- What is stored under a key of a tag is the tag's value. -/
theorem lookup_single (stored : canonicalKey name = tag.canonicalName) (value : String)
    (extension : Option String) :
    (Dictionary.ofPairs [(name, value)] extension).lookup tag = Dictionary.present (some value) := by
  rw [Dictionary.lookup_eq _ named]
  simp [Dictionary.ofPairs, Dictionary.ofEntries, collect, assign, stored,
    canonicalKey_canonicalName named]

end

/-- The names that a pattern may use for a tag are the keys without spaces under which its value is
    stored. A name with a space or with two underscores is none, and a key with two separators
    stores no tag's value. -/
theorem ofName?_iff_canonicalKey (name : String) :
    (∀ tag : Tag, tag ≠ .extension →
      (Tag.ofName? name = some tag → canonicalKey name = tag.canonicalName ∧
        ∀ value extension, (Dictionary.ofPairs [(name, value)] extension).lookup tag =
          Dictionary.present (some value)) ∧
      (' ' ∉ name.toList → canonicalKey name = tag.canonicalName →
        Tag.ofName? name = some tag)) ∧
    (' ' ∈ name.toList ∨ 2 ≤ name.toList.count '_' → Tag.ofName? name = none) ∧
    (2 ≤ name.toList.countP (fun c => c = '_' ∨ c = ' ') →
      ∀ tag : Tag, canonicalKey name ≠ tag.canonicalName) := by
  refine ⟨fun tag named => ⟨fun known => ?_, fun spaceless stored => ?_⟩, ?_, ?_⟩
  · have stored := canonicalKey_of_ofName? named known
    exact ⟨stored, lookup_single named stored⟩
  · rw [Tag.ofName?, ← normalizeKey_eq_normalizeName spaceless]
    exact ofWord?_of_canonicalKey named stored
  · rintro (space | underscores)
    · exact Tag.ofName?_eq_none (c := ' ') (by decide)
        ((List.mem_eraseP_of_neg (by decide)).mpr space)
    · have left : 0 < (name.toList.eraseP (· == '_')).countP (· == '_') := by
        rw [countP_eraseP_self]
        exact Nat.sub_pos_of_lt underscores
      obtain ⟨c, kept, same⟩ := List.countP_pos_iff.mp left
      exact Tag.ofName?_eq_none (isSeparator_iff.mpr (.inl (eq_of_beq same))) kept
  · intro separators
    rw [← isSeparator_eq] at separators
    have left : 0 < (name.toList.eraseP isSeparator).countP isSeparator := by
      rw [countP_eraseP_self]
      exact Nat.sub_pos_of_lt separators
    obtain ⟨c, kept, separator⟩ := List.countP_pos_iff.mp left
    exact canonicalKey_ne_canonicalName separator kept

/-- The ligature at the end is two letters in upper case. -/
theorem ofName?_ligature :
    Tag.albumArtist ≠ .extension ∧
      Tag.ofName? "album_arti\uFB06" = some .albumArtist ∧
      canonicalKey "album_arti\uFB06" = "ALBUMARTIST" ∧
      (Dictionary.ofPairs [("album_arti\uFB06", "Air")] none).lookup .albumArtist = some "Air" ∧
      Tag.ofName? "al_bum_arti\uFB06" = none ∧
      canonicalKey "album artist" = "ALBUMARTIST" ∧ Tag.ofName? "album artist" = none ∧
      canonicalKey "album_ artist" ≠ "ALBUMARTIST" := by
  have named : Tag.albumArtist ≠ .extension := by decide
  have known : Tag.ofName? "album_arti\uFB06" = some .albumArtist := by decide +kernel
  have ligature := (ofName?_iff_canonicalKey "album_arti\uFB06").1 .albumArtist named
  obtain ⟨stored, found⟩ := ligature.1 known
  have twice := (ofName?_iff_canonicalKey "al_bum_arti\uFB06").2.1 (.inr (by decide +kernel))
  have spaced := (ofName?_iff_canonicalKey "album artist").2.1 (.inl (by decide +kernel))
  have kept := (ofName?_iff_canonicalKey "album_ artist").2.2 (by decide +kernel) .albumArtist
  exact ⟨named, known, stored, found "Air" none, twice, by decide +kernel, spaced, kept⟩

end MusicFiling
