import MusicFiling.Proofs.Disk.Arrival

/-!
# Paths that lead through no file

A file can be delivered to a vacant path exactly if the disk can be asked about the path and no file
stands above it: then the folders that are missing can be made. As long as folders and files stay,
a path through a file stays one.
-/

namespace MusicFiling

private theorem Path.parent_upTo {p : Path} {n : Nat} (least : n + 1 ≤ p.parts.length) :
    (p.upTo (n + 1)).parent = p.upTo n := by
  simp only [Path.upTo, Path.parent, List.dropLast_eq_take, List.length_take, List.take_take]
  congr 2
  omega

private theorem Path.Usable.upTo {p : Path} (usable : p.Usable) (n : Nat) : (p.upTo n).Usable := by
  induction left : p.parts.length - n generalizing n with
  | zero =>
    have whole : p.upTo n = p := by
      simp [Path.upTo, List.take_of_length_le (Nat.sub_eq_zero_iff_le.mp left)]
    rwa [whole]
  | succ m ih =>
    have next := (ih (n + 1) (by omega)).parent
    rwa [Path.parent_upTo (by omega)] at next

namespace Disk

/-- A path that can be asked about and leads through no file. -/
structure Passable (d : Disk) (p : Path) : Prop where
  usable : p.Usable
  clear : ∀ q, q <+: d.nominal p → q ≠ d.nominal p → d.file? q = none

/-- Components that lead through no file lead to their place, or a folder on the way is missing. -/
theorem follow_of_clear {d : Disk} {place : Place} {cs : List Component}
    (direct : ∀ c ∈ cs, c.isParent = false) (names : ∀ c ∈ cs, Text.size c.text ≤ nameLimit)
    (clear : ∀ q, q <+: place ++ cs → q ≠ place ++ cs → d.file? q = none) :
    d.follow place cs = .ok (place ++ cs) ∨ d.follow place cs = .error .notFound := by
  induction cs generalizing place with
  | nil => simp [follow]
  | cons c rest ih =>
    obtain ⟨proper, others⟩ := List.forall_mem_cons.mp direct
    obtain ⟨short, names⟩ := List.forall_mem_cons.mp names
    have split : place ++ c :: rest = (place ++ [c]) ++ rest := by simp
    have later := @ih (place ++ [c]) others names (split ▸ clear)
    simp only [follow]
    rcases d.entry?_cases place with vacant | folder | ⟨content, file⟩
    · simp [vacant]
    · simpa [folder, proper, Nat.not_lt.mpr short] using later
    · have none := clear place (List.prefix_append place _) (by simp)
      simp [file?_eq_some_iff.mpr file] at none

private theorem Passable.reach {d : Disk} {p : Path} (passable : d.Passable p) (direct : p.Direct) :
    d.reach p = .ok (d.nominal p) ∨ d.reach p = .error .notFound := by
  obtain ⟨usable, clear⟩ := passable
  rw [nominal_direct d direct] at clear ⊢
  rw [reach_of_usable d usable]
  exact follow_of_clear direct usable.names clear

theorem nominal_eq_concat (d : Disk) {p : Path} (direct : p.Direct) {init : List Component}
    {c : Component} (split : p.parts = init ++ [c]) :
    d.nominal p = d.nominal p.parent ++ [c] := by
  have start : d.startOf p.parent = d.startOf p := rfl
  rw [nominal_direct d direct, nominal_direct d direct.parent, start]
  simp [Path.parent, split]

/-- A folder is made where nothing stands, and accepted where it stands. -/
theorem makeFolder_cases {d : Disk} {p : Path} {q : Place} (led : d.reach p = .ok q)
    (noFile : d.file? q = none) :
    (∃ d', d.makeFolder p = .ok d') ∨
      d.makeFolder p = .error .exists ∧ d.acceptFolder p .exists = .done d := by
  rcases d.entry?_cases q with vacant | folder | ⟨content, file⟩
  · exact .inl ⟨_, by simp only [makeFolder, led, vacant]; rfl⟩
  · have stands := isFolder_iff.mpr ⟨q, led, folder⟩
    exact .inr ⟨makeFolder_of_folder stands, acceptFolder_of_folder stands⟩
  · simp [file?_eq_some_iff.mpr file] at noFile

namespace WellFormed

variable {d : Disk} (tree : d.WellFormed) {p : Path} (direct : p.Direct)
include tree direct

private theorem makeFoldersUpTo_of_clear (usable : p.Usable)
    (clear : ∀ q, q <+: d.nominal p → d.file? q = none) {n : Nat} (least : n ≤ p.parts.length) :
    (d.makeFoldersUpTo p n).fault = none := by
  have shorter : ∀ k, (p.upTo k).Direct := fun k c member => direct c (List.mem_of_mem_take member)
  have here : ∀ k, d.file? (d.nominal (p.upTo k)) = none :=
    fun k => clear _ (isPrefix_nominal_upTo d direct k)
  induction n with
  | zero =>
    have led : d.reach (p.upTo 0) = .ok (d.nominal (p.upTo 0)) := by
      rw [reach_of_usable d (usable.upTo 0), nominal_direct d (shorter 0)]
      simp [Path.upTo, follow]
    rcases makeFolder_cases led (here 0) with ⟨d', made⟩ | ⟨stands, accepted⟩
    · simp [makeFoldersUpTo, made, Attempt.done]
    · simp [makeFoldersUpTo, stands, accepted, Attempt.done]
  | succ n ih =>
    have passable : d.Passable (p.upTo (n + 1)) :=
      ⟨usable.upTo (n + 1),
        fun q above _ => clear q (above.trans (isPrefix_nominal_upTo d direct (n + 1)))⟩
    rcases passable.reach (shorter (n + 1)) with led | missing
    · rcases makeFolder_cases led (here (n + 1)) with ⟨d', made⟩ | ⟨stands, accepted⟩
      · simp [makeFoldersUpTo, made, Attempt.done]
      · simp [makeFoldersUpTo, stands, accepted, Attempt.done]
    · -- The folders above are made first, and then the path leads to its place.
      have refused : d.makeFolder (p.upTo (n + 1)) = .error .notFound := by
        simp [makeFolder, missing]
      have made := ih (by omega)
      obtain ⟨grown, folder⟩ := makeFoldersUpTo_spec d p n
      simp only [makeFoldersUpTo, refused, Attempt.next, made]
      have stands := folder made
      generalize (d.makeFoldersUpTo p n).disk = d' at grown stands ⊢
      obtain ⟨q, led, above⟩ := isFolder_iff.mp stands
      obtain rfl := reach_eq_nominal led
      have led' := (grown.tree tree).reach_direct (shorter (n + 1)) (usable.upTo (n + 1))
        (by rwa [Path.parent_upTo least])
      have noFile : d'.file? (d'.nominal (p.upTo (n + 1))) = none := by
        rw [grown.file?_eq id, grown.nominal, here]
      rcases makeFolder_cases led' noFile with ⟨d'', made'⟩ | ⟨stands', accepted⟩
      · simp [made', Attempt.done]
      · simp [stands', accepted, Attempt.done]

/-- The folders above a path that leads through no file can be made, and then the path leads to its
    place. -/
theorem makeFolders_of_passable (passable : d.Passable p) (nonempty : p.parts ≠ []) :
    (d.makeFolders p.parent).fault = none ∧
      (d.makeFolders p.parent).disk.reach p = .ok (d.nominal p) := by
  have inside := isPrefix_nominal_parent d direct
  have apart : d.nominal p.parent ≠ d.nominal p := by
    obtain ⟨init, c, split⟩ := (List.eq_nil_or_concat' p.parts).resolve_left nonempty
    simp [nominal_eq_concat d direct split]
  have clear : ∀ q, q <+: d.nominal p.parent → d.file? q = none := by
    intro q above
    refine passable.clear q (above.trans inside) ?_
    rintro rfl
    exact apart (inside.eq_of_length_le above.length_le)
  have made := makeFoldersUpTo_of_clear tree direct.parent passable.usable.parent clear
    (Nat.le_refl _)
  refine ⟨made, ?_⟩
  have grown := makeFolders_grows d p.parent
  obtain ⟨q, led, folder⟩ := isFolder_iff.mp (makeFolders_isFolder made)
  obtain rfl := reach_eq_nominal led
  rw [← grown.nominal]
  exact (grown.tree tree).reach_direct direct passable.usable folder

/-- A path above which the folders could be made leads through no file. -/
theorem passable_of_makeFolders (usable : p.Usable) (nonempty : p.parts ≠ [])
    (made : (d.makeFolders p.parent).fault = none) : d.Passable p := by
  refine ⟨usable, ?_⟩
  intro q above proper
  have grown := makeFolders_grows d p.parent
  obtain ⟨place, led, folder⟩ := isFolder_iff.mp (makeFolders_isFolder made)
  obtain rfl := reach_eq_nominal led
  rw [grown.nominal] at folder
  obtain ⟨init, c, split⟩ := (List.eq_nil_or_concat' p.parts).resolve_left nonempty
  rw [nominal_eq_concat d direct split] at above proper
  have within := (List.prefix_concat_iff.mp above).resolve_left proper
  have stands : entry? (d.makeFolders p.parent).disk q = some .folder := by
    by_cases whole : d.nominal p.parent = q
    · rwa [← whole]
    · have tree' := grown.tree tree
      exact tree'.folder_of_prefix within whole (by simp [folder])
  rw [← grown.file?_eq id]
  exact file?_eq_none_of_folder stands

end WellFormed

end Disk

end MusicFiling
