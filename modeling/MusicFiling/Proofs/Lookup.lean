import Mathlib.Data.List.Nodup

/-!
# Looking up keys

What a list of keys and values has under a key once entries are dropped by their keys or values are
changed, and where the keys are distinct.
-/

namespace MusicFiling

section

variable {Key Value : Type} [BEq Key] [LawfulBEq Key]

theorem lookup_filter_key (keep : Key → Bool) (key : Key) (entries : List (Key × Value)) :
    (entries.filter fun e => keep e.1).lookup key =
      if keep key then entries.lookup key else none := by
  induction entries with
  | nil => simp
  | cons e rest ih =>
    obtain ⟨first, value⟩ := e
    by_cases same : key = first
    · subst same
      cases kept : keep key <;> simp [kept, ih]
    · have different : (key == first) = false := beq_eq_false_iff_ne.mpr same
      cases kept : keep first <;> simp [kept, ih, List.lookup_cons, different]

theorem lookup_map_value (change : Key → Value → Value) (key : Key) (entries : List (Key × Value)) :
    (entries.map fun e => (e.1, change e.1 e.2)).lookup key =
      (entries.lookup key).map (change key) := by
  induction entries with
  | nil => rfl
  | cons e rest ih =>
    obtain ⟨first, value⟩ := e
    by_cases same : key = first
    · subst same
      simp
    · have different : (key == first) = false := beq_eq_false_iff_ne.mpr same
      simp [ih, List.lookup_cons, different]

theorem lookup_of_mem {entries : List (Key × Value)} (distinct : (entries.map Prod.fst).Nodup)
    {key : Key} {value : Value} (member : (key, value) ∈ entries) :
    entries.lookup key = some value := by
  induction entries with
  | nil => cases member
  | cons e rest ih =>
    obtain ⟨absent, later⟩ := List.nodup_cons.mp distinct
    rcases List.mem_cons.mp member with rfl | inRest
    · simp
    · have different : (key == e.1) = false := by
        refine beq_eq_false_iff_ne.mpr ?_
        rintro rfl
        exact absent (List.mem_map.mpr ⟨_, inRest, rfl⟩)
      rw [List.lookup_cons, different]
      exact ih later inRest

end

end MusicFiling
