import MusicFiling.Path
import Mathlib.Tactic.SplitIfs
import Mathlib.Data.List.Basic

/-!
# Paths and their texts

A text without stray bytes is the string that shows it. A path whose components are such texts is
read back from its text: its components are the pieces between the text's slashes.
-/

namespace MusicFiling

theorem Letter.size_pos (l : Letter) : 0 < l.size := by
  cases l with
  | char c => exact c.utf8Size_pos
  | stray byte high => exact Nat.one_pos

private theorem Letter.code_injective : Function.Injective Letter.code := by
  -- Stray bytes are numbered among the surrogates, where no character is.
  have apart : ∀ (c : Char) (byte : UInt8), c.toNat ≠ 0xDC00 + byte.toNat := by
    intro c byte same
    have valid : c.toNat < 0xD800 ∨ 0xDFFF < c.toNat ∧ c.toNat < 0x110000 := c.valid
    have small := byte.toNat_lt
    omega
  rintro (c | ⟨byte, high⟩) (c' | ⟨byte', high'⟩) same
  · exact congrArg Letter.char (Char.toNat_inj.mp same)
  · exact absurd same (apart c byte')
  · exact absurd same.symm (apart c' byte)
  · obtain rfl : byte = byte' := UInt8.toNat_inj.mp (Nat.add_left_cancel same)
    rfl

namespace Text

/-- Whether a text holds no stray bytes. -/
def Plain (text : List Letter) : Prop := ∀ l ∈ text, l.isChar = true

instance (text : List Letter) : Decidable (Plain text) :=
  inferInstanceAs (Decidable (∀ l ∈ text, l.isChar = true))

theorem plain_letters (s : String) : Plain (letters s) := by
  simp [Plain, letters, Letter.isChar]

@[simp] theorem plain_append {a b : List Letter} : Plain (a ++ b) ↔ Plain a ∧ Plain b := by
  simp only [Plain, List.forall_mem_append]

@[simp] theorem shown_letters (s : String) : shown (letters s) = s := by
  simp [shown, letters, Function.comp_def, Letter.shown]

theorem letters_append (s t : String) : letters (s ++ t) = letters s ++ letters t := by
  simp [letters]

theorem plain_intercalate {separator : List Letter} (sep : Plain separator)
    {pieces : List (List Letter)} :
    Plain (List.intercalate separator pieces) ↔ ∀ piece ∈ pieces, Plain piece := by
  induction pieces with
  | nil => simp [Plain]
  | cons piece rest ih =>
    cases rest with
    | nil => simp
    | cons next rest =>
      rw [List.intercalate_cons_cons, plain_append, plain_append, ih, and_iff_left sep,
        ← List.forall_mem_cons]

private theorem map_char_map_shown {text : List Letter} (plain : Plain text) :
    (text.map Letter.shown).map Letter.char = text := by
  rw [List.map_map]
  refine (List.map_congr_left fun l member => ?_).trans (List.map_id text)
  cases l with
  | char c => rfl
  | stray byte high => cases plain _ member

theorem letters_shown {text : List Letter} (plain : Plain text) : letters (shown text) = text := by
  rw [letters, shown, String.toList_ofList, map_char_map_shown plain]

@[simp] theorem size_append (a b : List Letter) : size (a ++ b) = size a + size b := by
  induction a with
  | nil => simp [size]
  | cons l rest ih => simp only [List.cons_append, size, ih, Nat.add_assoc]

@[simp] theorem size_cons (l : Letter) (text : List Letter) : size
    (l :: text) = l.size + size text :=
  rfl

theorem Precedes.irrefl (a : List Letter) : ¬Precedes a a :=
  List.lex_irrefl Nat.lt_irrefl _

theorem Precedes.asymm {a b : List Letter} (before : Precedes a b) : ¬Precedes b a :=
  List.lex_asymm Nat.lt_asymm before

/-- Texts of which neither comes before the other are the same. -/
theorem Precedes.trichotomous {a b : List Letter} (first : ¬Precedes a b) (second : ¬Precedes b a) :
    a = b := by
  have codes : Function.Injective codes := List.map_injective_iff.mpr Letter.code_injective
  refine codes (List.lex_trichotomous (fun x y le ge => ?_) second first)
  exact Nat.le_antisymm (Nat.not_lt.mp ge) (Nat.not_lt.mp le)

theorem not_precedes_trans {a b c : List Letter} (first : ¬Precedes b a) (second : ¬Precedes c b) :
    ¬Precedes c a :=
  @List.le_trans Nat _ _ _ _ (codes a) (codes b) (codes c) first second

theorem size_le_of_prefix {a b : List Letter} (inside : a <+: b) : size a ≤ size b := by
  obtain ⟨rest, rfl⟩ := inside
  simp

private theorem length_le_size (text : List Letter) : text.length ≤ size text := by
  induction text with
  | nil => exact Nat.le_refl 0
  | cons l rest ih =>
    have positive := l.size_pos
    simp only [List.length_cons, size_cons]
    omega

end Text

/-- The pieces that are read are those that splitting at slashes gives. -/
theorem splitSlashFrom_eq (done : List (List Char)) (piece text : List Char) :
    splitSlashFrom done piece text = done.reverse ++ text.splitOnPPrepend (· == '/') piece := by
  induction text generalizing done piece with
  | nil => simp [splitSlashFrom]
  | cons c rest ih =>
    rw [splitSlashFrom, List.splitOnPPrepend_cons_eq_if]
    by_cases slash : c = '/'
    · simp [slash, ih]
    · simp [slash, ih]

theorem splitSlash_eq (text : String) :
    splitSlash text = (text.toList.splitOn '/').map String.ofList := by
  rw [splitSlash, splitSlashFrom_eq]
  rfl

private theorem splitSlash_ofList (text : List Char) :
    splitSlash (String.ofList text) = (text.splitOn '/').map String.ofList := by
  rw [splitSlash_eq, String.toList_ofList]

theorem slash_not_mem_of_mem_splitOn {text piece : List Char}
    (member : piece ∈ text.splitOn '/') : '/' ∉ piece := by
  induction text generalizing piece with
  | nil =>
    obtain rfl : piece = [] := by simpa using member
    exact List.not_mem_nil
  | cons c rest ih =>
    rw [List.splitOn_cons_eq_if_modifyHead] at member
    split_ifs at member with slash
    · rcases List.mem_cons.mp member with rfl | later
      · exact List.not_mem_nil
      · exact ih later
    · obtain ⟨first, others, split⟩ := List.exists_cons_of_ne_nil (List.splitOn_ne_nil '/' rest)
      rw [split, List.modifyHead_cons] at member
      rcases List.mem_cons.mp member with rfl | later
      · have other : '/' ≠ c := fun same => slash (by simp [← same])
        exact List.not_mem_cons_of_ne_of_not_mem other (ih (by simp [split]))
      · exact ih (by simp [split, later])

namespace Component

theorem text_injective {a b : Component} (same : a.text = b.text) : a = b := by
  cases a
  cases b
  cases same
  rfl

private theorem ofLetters?_text (c : Component) : ofLetters? c.text = some c := by
  simp [ofLetters?, c.isName]

private theorem ofString?_shown {c : Component} (plain : Text.Plain c.text) :
    ofString? (Text.shown c.text) = some c := by
  rw [ofString?, Text.letters_shown plain, ofLetters?_text]

end Component

namespace Path

/-- Whether all components of a path are free of stray bytes. -/
def IsText (p : Path) : Prop := ∀ c ∈ p.parts, Text.Plain c.text

instance (p : Path) : Decidable p.IsText :=
  inferInstanceAs (Decidable (∀ c ∈ p.parts, Text.Plain c.text))

private theorem map_intercalate {α β : Type} (f : α → β) (separator : List α)
    (pieces : List (List α)) :
    (List.intercalate separator pieces).map f =
      List.intercalate (separator.map f) (pieces.map (·.map f)) := by
  induction pieces with
  | nil => rfl
  | cons piece rest ih =>
    cases rest with
    | nil => simp
    | cons next rest => simp [List.intercalate_cons_cons, ih]

private theorem anchor_ofChars_append {joined : List Char} (start : joined.head? ≠ some '/')
    (anchor : Anchor) :
    Anchor.ofChars (anchor.text.map Letter.shown ++ joined) = anchor := by
  cases joined with
  | nil => cases anchor <;> rfl
  | cons c rest =>
    have other : c ≠ '/' := by simpa using start
    cases anchor <;> simp [Anchor.text, Anchor.ofChars, Letter.shown, other]

/-- The characters that show the components of a path. -/
def shownParts (parts : List Component) : List (List Char) :=
  parts.map fun c => c.text.map Letter.shown

private theorem slash_not_mem_shown (c : Component) : '/' ∉ c.text.map Letter.shown := by
  rintro member
  obtain ⟨l, inside, slash⟩ := List.mem_map.mp member
  cases l with
  | char d =>
    obtain rfl : d = '/' := slash
    exact c.isName.2.2 inside
  | stray byte high => cases slash

private theorem head?_intercalate (parts : List Component) :
    (List.intercalate ['/'] (shownParts parts)).head? ≠ some '/' := by
  cases parts with
  | nil => simp [shownParts]
  | cons c rest =>
    have noSlash := slash_not_mem_shown c
    have nonempty : c.text.map Letter.shown ≠ [] := by simpa using c.isName.1
    obtain ⟨first, later, split⟩ := List.exists_cons_of_ne_nil nonempty
    have other : first ≠ '/' := by
      rintro rfl
      simp [split] at noSlash
    cases rest <;> simp [shownParts, List.intercalate, split, other]

private theorem splitSlash_anchor (anchor : Anchor) {parts : List Component}
    (plain : ∀ c ∈ parts, Text.Plain c.text) :
    (splitSlash (String.ofList (anchor.text.map Letter.shown ++
      List.intercalate ['/'] (shownParts parts)))).filterMap Component.ofString? = parts := by
  have empty : Component.ofString? "" = none := rfl
  have slash : ∀ rest : List Char, ('/' :: rest).splitOn '/' = [] :: rest.splitOn '/' :=
    fun rest => List.splitOn_append_cons_self_of_not_mem List.not_mem_nil rest
  have read : ∀ c ∈ parts,
      (Component.ofString? ∘ String.ofList) (c.text.map Letter.shown) = some c :=
    fun c member => Component.ofString?_shown (plain c member)
  have joined : (((List.intercalate ['/'] (shownParts parts)).splitOn '/').map
      String.ofList).filterMap Component.ofString? = parts := by
    by_cases none : parts = []
    · subst none
      rfl
    · rw [List.splitOn_intercalate]
      · rw [List.filterMap_map, shownParts, List.filterMap_map]
        exact (List.filterMap_congr read).trans (List.filterMap_some)
      · intro piece member
        obtain ⟨c, -, rfl⟩ := List.mem_map.mp member
        exact slash_not_mem_shown c
      · simpa [shownParts] using none
  rw [splitSlash_ofList]
  cases anchor <;> simpa [Anchor.text, Letter.shown, slash, empty] using joined

/-- A path is read back from its text, if no stray bytes are in it. -/
theorem ofString_toString {p : Path} (plain : p.IsText) : ofString p.toString = p := by
  obtain ⟨anchor, parts⟩ := p
  unfold ofString Path.toString Text.shown text
  split_ifs with empty
  · obtain ⟨rfl, rfl⟩ := empty
    rfl
  · have shown : (anchor.text ++ List.intercalate [.char '/'] (parts.map Component.text)).map
        Letter.shown = anchor.text.map Letter.shown ++
          List.intercalate ['/'] (shownParts parts) := by
      rw [List.map_append, map_intercalate, List.map_map]
      rfl
    simp only [shown, splitSlash_anchor anchor plain, String.toList_ofList,
      anchor_ofChars_append (head?_intercalate parts)]

/-- A path has no more characters than bytes. -/
theorem length_toString_le (p : Path) : p.toString.length ≤ Text.size p.text := by
  have same : p.toString.length = p.text.length := by
    rw [Path.toString, Text.shown, String.length_ofList, List.length_map]
  exact same ▸ Text.length_le_size p.text

@[simp] theorem plain_text {p : Path} : Text.Plain p.text ↔ p.IsText := by
  unfold text IsText
  split_ifs with empty
  · simp [empty.2, Text.Plain, Letter.isChar]
  · have anchor : Text.Plain p.anchor.text := by cases p.anchor <;> decide
    rw [Text.plain_append, and_iff_right anchor, Text.plain_intercalate (by decide),
      List.forall_mem_map]

end Path

end MusicFiling
