import MusicFiling.Dictionary
import MusicFiling.Proofs.Lookup
import MusicFiling.Proofs.Text.Case
import Mathlib.Data.List.Induction
import Mathlib.Tactic.SplitIfs

/-!
# The value of a tag

Pairs are collected under their canonical keys, and the entries are collected once more under the
canonical keys of those. A key with two separators loses one each time, so keys that differ at
first may meet under one tag, whose value is then that of the key that came up last for the first
time. Where no key comes to a tag only the second time, the last pair for the tag gives its value.
-/

namespace MusicFiling

/-- The value of the last pair whose key a test accepts. -/
def lastValue (accepts : String → Bool) (pairs : List (String × String)) : Option String :=
  ((pairs.filter fun pair => accepts pair.1).getLast?).map Prod.snd

private theorem lastValue_concat (accepts : String → Bool) (pairs : List (String × String))
    (pair : String × String) :
    lastValue accepts (pairs ++ [pair]) =
      if accepts pair.1 then some pair.2 else lastValue accepts pairs := by
  unfold lastValue
  rw [List.filter_append]
  split_ifs with accepted
  · simp [accepted]
  · simp [accepted]

private theorem lastValue_eq_none_iff {accepts : String → Bool} {pairs : List (String × String)} :
    lastValue accepts pairs = none ↔ ∀ pair ∈ pairs, accepts pair.1 = false := by
  simp [lastValue]

/-- Among entries with distinct keys, the value of the last key that is accepted. -/
theorem lastValue_of_nodup (accepts : String → Bool) {entries : List (String × String)}
    (distinct : (entries.map Prod.fst).Nodup) :
    lastValue accepts entries =
      ((entries.map Prod.fst).filter accepts).getLast?.bind fun key => entries.lookup key := by
  have keys : (entries.map Prod.fst).filter accepts =
      (entries.filter fun entry => accepts entry.1).map Prod.fst := by
    rw [List.filter_map]
    rfl
  rw [keys, List.getLast?_map, lastValue]
  cases last : (entries.filter fun entry => accepts entry.1).getLast? with
  | none => rfl
  | some entry =>
    have member := (List.mem_filter.mp (List.mem_of_getLast? last)).1
    simp [lookup_of_mem distinct member]

private theorem lookup_assign (key value : String) (entries : List (String × String)) (k : String) :
    (assign key value entries).lookup k = if k = key then some value else entries.lookup k := by
  induction entries with
  | nil =>
    by_cases same : k = key
    · simp [assign, same]
    · simp [assign, same, beq_eq_false_iff_ne.mpr same]
  | cons entry rest ih =>
    obtain ⟨key', value'⟩ := entry
    unfold assign
    by_cases here : key' = key
    · subst here
      by_cases same : k = key'
      · simp [same]
      · simp [same, List.lookup_cons, beq_eq_false_iff_ne.mpr same]
    · rw [if_neg here, List.lookup_cons, List.lookup_cons, ih]
      by_cases first : k = key'
      · subst first
        simp [here]
      · simp [beq_eq_false_iff_ne.mpr first]

private theorem map_fst_assign (key value : String) (entries : List (String × String)) :
    (assign key value entries).map Prod.fst =
      if key ∈ entries.map Prod.fst then entries.map Prod.fst
      else entries.map Prod.fst ++ [key] := by
  induction entries with
  | nil => rfl
  | cons entry rest ih =>
    obtain ⟨key', value'⟩ := entry
    unfold assign
    by_cases here : key' = key
    · simp [here]
    · rw [if_neg here, List.map_cons, ih]
      by_cases later : key ∈ rest.map Prod.fst
      · simp [later]
      · simp [later, Ne.symm here]

section Collect

variable (rename : String → String) (pairs : List (String × String))

private theorem collect_concat (pair : String × String) :
    collect rename (pairs ++ [pair]) = assign (rename pair.1) pair.2 (collect rename pairs) := by
  simp [collect]

/-- Each renamed key has the value that it was given last. -/
theorem lookup_collect (key : String) :
    (collect rename pairs).lookup key = lastValue (fun k => rename k = key) pairs := by
  induction pairs using List.reverseRecOn with
  | nil => rfl
  | append_singleton pairs pair ih =>
    rw [collect_concat, lookup_assign, lastValue_concat, ih]
    simp [eq_comm]

/-- The renamed keys stand in the order in which they came up for the first time. -/
theorem map_fst_collect :
    (collect rename pairs).map Prod.fst = (pairs.map fun pair => rename pair.1).eraseDups := by
  induction pairs using List.reverseRecOn with
  | nil => rfl
  | append_singleton pairs pair ih =>
    rw [collect_concat, map_fst_assign, ih, List.map_append, List.eraseDups_append]
    by_cases known : rename pair.1 ∈ pairs.map fun pair => rename pair.1
    · simp [known, List.removeAll]
    · simp [known, List.removeAll, List.eraseDups_cons]

private theorem nodup_collect : ((collect rename pairs).map Prod.fst).Nodup := by
  induction pairs using List.reverseRecOn with
  | nil => exact List.nodup_nil
  | append_singleton pairs pair ih =>
    rw [collect_concat, map_fst_assign]
    split_ifs with known
    · exact ih
    · simpa using ih.concat known

end Collect

namespace Tag

private theorem word_plain (tag : Tag) :
    ∀ c ∈ tag.word.toList, c.toNat < 0x61 ∧ ¬(c = '_' ∨ c = ' ') := by
  cases tag <;> simp [word]

theorem ofWord?_word (tag : Tag) : ofWord? tag.word = some tag := by
  cases tag <;> decide +kernel

theorem canonicalName_of_ne {tag : Tag} (named : tag ≠ .extension) :
    tag.canonicalName = tag.word := by
  cases tag <;> first | exact absurd rfl named | rfl

end Tag

private theorem normalizeKey_word (tag : Tag) : normalizeKey tag.word = tag.word := by
  have capital : Text.upper tag.word = tag.word := by
    rw [Text.upper, Text.upperChars_of_lt fun c member => (tag.word_plain c member).1,
      String.ofList_toList]
  have whole : tag.word.toList.eraseP (fun c => c = '_' ∨ c = ' ') = tag.word.toList :=
    List.eraseP_of_forall_not fun c member => by simpa using (tag.word_plain c member).2
  rw [normalizeKey, capital, whole, String.ofList_toList]

/-- A tag's name is its own canonical key. -/
theorem canonicalKey_canonicalName {tag : Tag} (named : tag ≠ .extension) :
    canonicalKey tag.canonicalName = tag.canonicalName := by
  rw [Tag.canonicalName_of_ne named, canonicalKey, normalizeKey_word, Tag.ofWord?_word]
  cases tag <;> first | exact absurd rfl named | rfl

/-- A key comes to a tag only when the separators of its canonical key are looked for again. -/
def Drifts (tag : Tag) (key : String) : Prop :=
  canonicalKey key ≠ tag.canonicalName ∧ canonicalKey (canonicalKey key) = tag.canonicalName

instance (tag : Tag) (key : String) : Decidable (Drifts tag key) :=
  inferInstanceAs (Decidable (_ ∧ _))

/-- Of the canonical keys in the order in which they came up, the last that comes to a tag. -/
def rulingKey? (tag : Tag) (pairs : List (String × String)) : Option String :=
  ((pairs.map fun pair => canonicalKey pair.1).eraseDups.filter
    fun key => canonicalKey key = tag.canonicalName).getLast?

section Ruling

variable {tag : Tag} {pairs : List (String × String)}

/-- Where no key drifts to a tag, only the tag's own name rules it. -/
theorem rulingKey?_of_steady (steady : ∀ pair ∈ pairs, ¬ Drifts tag pair.1) {key : String}
    (ruling : rulingKey? tag pairs = some key) : key = tag.canonicalName := by
  obtain ⟨known, comes⟩ := List.mem_filter.mp (List.mem_of_getLast? ruling)
  obtain ⟨pair, member, rfl⟩ := List.mem_map.mp (List.mem_eraseDups.mp known)
  by_contra other
  exact steady pair member ⟨other, of_decide_eq_true comes⟩

/-- Where no key rules a tag, no pair is for it. -/
theorem lastValue_of_unruled (named : tag ≠ .extension) (unruled : rulingKey? tag pairs = none) :
    lastValue (fun key => canonicalKey key = tag.canonicalName) pairs = none := by
  have absent := List.filter_eq_nil_iff.mp (List.getLast?_eq_none_iff.mp unruled)
  refine lastValue_eq_none_iff.mpr fun pair member => decide_eq_false fun own => ?_
  have known := List.mem_eraseDups.mpr (List.mem_map_of_mem (f := fun p => canonicalKey p.1) member)
  exact absent _ (own ▸ known) (decide_eq_true (canonicalKey_canonicalName named))

end Ruling

namespace Dictionary

theorem lookup_eq (d : Dictionary) {tag : Tag} (named : tag ≠ .extension) :
    d.lookup tag = present (d.values.lookup tag.canonicalName) := by
  cases tag <;> first | exact absurd rfl named | rfl

private theorem lookup_values_ofPairs (pairs : List (String × String)) (extension : Option String)
    (tag : Tag) :
    (ofPairs pairs extension).values.lookup tag.canonicalName =
      (rulingKey? tag pairs).bind fun key => lastValue (fun k => canonicalKey k = key) pairs := by
  rw [ofPairs, ofEntries, lookup_collect,
    lastValue_of_nodup _ (nodup_collect canonicalKey pairs), map_fst_collect]
  simp only [lookup_collect, rulingKey?]

/-- A tag has the last value of the key that rules it. Where no key drifts to it, this is the value
    of the last pair for the tag itself. -/
theorem lookup_ofPairs (pairs : List (String × String)) (extension : Option String) {tag : Tag}
    (named : tag ≠ .extension) :
    (ofPairs pairs extension).lookup tag =
        present ((rulingKey? tag pairs).bind
          fun key => lastValue (fun k => canonicalKey k = key) pairs) ∧
      ((∀ pair ∈ pairs, ¬ Drifts tag pair.1) →
        (ofPairs pairs extension).lookup tag =
          present (lastValue (fun key => canonicalKey key = tag.canonicalName) pairs)) := by
  have found := lookup_eq (ofPairs pairs extension) named
  rw [lookup_values_ofPairs] at found
  refine ⟨found, fun steady => ?_⟩
  rw [found]
  cases ruling : rulingKey? tag pairs with
  | none => rw [lastValue_of_unruled named ruling, Option.bind_none]
  | some key => rw [Option.bind_some, rulingKey?_of_steady steady ruling]

theorem lookup_ofPairs_year :
    Tag.date ≠ .extension ∧
      (∀ pair ∈ [("date", "1997"), ("Year", "1998"), ("title", "x")], ¬ Drifts .date pair.1) ∧
      (ofPairs [("date", "1997"), ("Year", "1998"), ("title", "x")] none).lookup .date =
        some "1998" := by
  have steady : ∀ pair ∈ [("date", "1997"), ("Year", "1998"), ("title", "x")],
      ¬ Drifts .date pair.1 := by
    decide +kernel
  refine ⟨by decide, steady, ?_⟩
  rw [(lookup_ofPairs _ none (by decide)).2 steady]
  decide +kernel

/-- A key with two separators takes the place of a later pair. -/
theorem lookup_ofPairs_ne_last :
    (ofPairs [("title", "a"), ("__title", "b"), ("title", "c")] none).lookup .title ≠
      present (lastValue (fun key => canonicalKey key = Tag.title.canonicalName)
        [("title", "a"), ("__title", "b"), ("title", "c")]) := by
  decide +kernel

end Dictionary

end MusicFiling
