import MusicFiling.Discovery
import MusicFiling.Proofs.Disk.Reach

/-!
# Walks

From the walk's recursion: which files it finds, that it finds each of them once, in which order,
and that the order in which the disk lists its entries does not matter.
-/

namespace MusicFiling

/-- One way down to a file comes before another. Where the two part, it ends in the common folder
    and the other goes on into a subfolder; or both do the same, and its name there is the smaller
    one. -/
def WayPrecedes (a b : List Component) : Prop :=
  ∃ common c cs c' cs', a = common ++ c :: cs ∧ b = common ++ c' :: cs' ∧ c ≠ c' ∧
    (cs = [] ∧ cs' ≠ [] ∨ (cs = [] ↔ cs' = []) ∧ Text.Precedes c.text c'.text)

namespace WayPrecedes

private theorem cons {a b : List Component} (c : Component) (before : WayPrecedes a b) :
    WayPrecedes (c :: a) (c :: b) := by
  obtain ⟨common, x, xs, y, ys, rfl, rfl, parting⟩ := before
  exact ⟨c :: common, x, xs, y, ys, rfl, rfl, parting⟩

private theorem of_lt {c c' : Component} {cs cs' : List Component}
    (lt : Text.Precedes c.text c'.text) (kind : cs = [] ↔ cs' = []) :
    WayPrecedes (c :: cs) (c' :: cs') := by
  refine ⟨[], c, cs, c', cs', rfl, rfl, ?_, .inr ⟨kind, lt⟩⟩
  rintro rfl
  exact Text.Precedes.irrefl _ lt

private theorem ne {a b : List Component} (before : WayPrecedes a b) : a ≠ b := by
  obtain ⟨common, c, cs, c', cs', rfl, rfl, different, -⟩ := before
  exact fun same => different (List.cons.inj (List.append_cancel_left same)).1

/-- Two ways part at one place only. -/
private theorem parting_unique {u v : List Component} {a b c d : Component}
    {as bs cs ds : List Component} (different : a ≠ b) (different' : c ≠ d)
    (left : u ++ a :: as = v ++ c :: cs) (right : u ++ b :: bs = v ++ d :: ds) :
    a = c ∧ as = cs ∧ b = d ∧ bs = ds := by
  induction u generalizing v with
  | nil =>
    cases v with
    | nil =>
      obtain ⟨rfl, rfl⟩ := List.cons.inj left
      obtain ⟨rfl, rfl⟩ := List.cons.inj right
      exact ⟨rfl, rfl, rfl, rfl⟩
    | cons x v =>
      exact absurd ((List.cons.inj left).1.trans (List.cons.inj right).1.symm) different
  | cons x u ih =>
    cases v with
    | nil => exact absurd ((List.cons.inj left).1.symm.trans (List.cons.inj right).1) different'
    | cons y v => exact ih (List.cons.inj left).2 (List.cons.inj right).2

theorem asymm {a b : List Component} (before : WayPrecedes a b) : ¬WayPrecedes b a := by
  rintro ⟨v, c, cs, c', cs', right, left, different', parting'⟩
  obtain ⟨u, b, bs, b', bs', left', right', different, parting⟩ := before
  obtain ⟨rfl, rfl, rfl, rfl⟩ := parting_unique different different'.symm (left'.symm.trans left)
    (right'.symm.trans right)
  rcases parting with ⟨file, folder⟩ | ⟨kind, lt⟩ <;>
    rcases parting' with ⟨file', folder'⟩ | ⟨kind', lt'⟩
  · exact folder file'
  · exact folder (kind'.mpr file)
  · exact folder' (kind.mpr file')
  · exact lt.asymm lt'

end WayPrecedes

namespace Disk

/-- The text under which a walk that starts at a folder opens the folder that some names lead to.
    Unlike the path of that folder it keeps the dot of the empty path. -/
def walkedText (folder : List Letter) : List Component → List Letter
  | [] => folder
  | c :: way => walkedText (joinName folder c.text) way

theorem size_joinName (folder name : List Letter) :
    Text.size folder + Text.size name ≤ Text.size (joinName folder name) := by
  unfold joinName
  split <;> simp only [Text.size_append, Text.size_cons] <;> omega

private theorem size_le_walkedText (folder : List Letter) (way : List Component) :
    Text.size folder ≤ Text.size (walkedText folder way) := by
  induction way generalizing folder with
  | nil => exact Nat.le_refl _
  | cons c way ih =>
    exact Nat.le_trans (Nat.le_of_add_right_le (size_joinName folder c.text)) (ih _)

/-- Where a folder is opened, so were the folders on the way to it. -/
theorem opens_of_walkedText {folder : List Letter} {way : List Component}
    (opened : opens (walkedText folder way) = true) : opens folder = true :=
  decide_eq_true (Nat.le_trans (size_le_walkedText folder way) (of_decide_eq_true opened))

/-- A walk opens a folder and takes its files by name. Then it goes on in the same way with each of
    the subfolders, by name. -/
theorem filesWalked_eq (d : Disk) (folder : List Letter) (place : Place) :
    d.filesWalked folder place =
      if opens folder then
        (d.namesIn (!·.isFolder) place).map ([·]) ++
          (d.namesIn Entry.isFolder place).flatMap fun c =>
            (d.filesWalked (joinName folder c.text) (place ++ [c])).map (c :: ·)
      else [] := by
  rw [filesWalked]
  conv_rhs => rw [← List.attach_map_subtype_val (d.namesIn Entry.isFolder place), List.flatMap_map]

/-- What holds of a folder once it holds of its subfolders holds of every folder. -/
theorem walk_induction (d : Disk) {motive : List Letter → Place → Prop}
    (step : ∀ folder place,
      (∀ c ∈ d.namesIn Entry.isFolder place, motive (joinName folder c.text) (place ++ [c])) →
        motive folder place)
    (folder : List Letter) (place : Place) : motive folder place := by
  induction size : (d.below place).length using Nat.strongRecOn generalizing folder place with
  | _ n ih =>
    refine step folder place fun c member => ?_
    exact ih _ (size ▸ length_below_lt member) (joinName folder c.text) (place ++ [c]) rfl

theorem namesIn_ordered (d : Disk) (kind : Entry → Bool) (place : Place) :
    (d.namesIn kind place).Pairwise fun c c' => ¬Text.Precedes c'.text c.text := by
  refine (List.pairwise_mergeSort ?_ ?_ _).imp of_decide_eq_true
  · intro a b c first second
    exact decide_eq_true
      (Text.not_precedes_trans (of_decide_eq_true first) (of_decide_eq_true second))
  · intro a b
    have total : ¬Text.Precedes b.text a.text ∨ ¬Text.Precedes a.text b.text :=
      or_iff_not_imp_left.mpr fun before => (not_not.mp before).asymm
    simpa using total

namespace WellFormed

variable {d : Disk} (tree : d.WellFormed)
include tree

theorem mem_below {place rest : Place} {entry : Entry} :
    (rest, entry) ∈ d.below place ↔ rest ≠ [] ∧ d.entry? (place ++ rest) = some entry := by
  simp only [below, List.mem_map, List.mem_filter, Bool.and_eq_true, List.isPrefixOf_iff_prefix,
    bne_iff_ne, Prod.mk.injEq]
  constructor
  · rintro ⟨⟨q, entry'⟩, ⟨member, ⟨rest', rfl⟩, proper⟩, cut, rfl⟩
    obtain ⟨-, present⟩ := tree.mem_entries_iff.mp member
    obtain rfl : rest' = rest := by simpa using cut
    exact ⟨by simpa using proper, present⟩
  · rintro ⟨proper, present⟩
    have member := tree.mem_entries_iff.mpr ⟨by simp [proper], present⟩
    exact ⟨_, ⟨member, List.prefix_append place rest, by simpa using proper⟩, by simp, rfl⟩

theorem nodup_below (place : Place) : ((d.below place).map Prod.fst).Nodup := by
  have keys : ((d.below place).map Prod.fst).map (place ++ ·) =
      (d.entries.filter fun e => place.isPrefixOf e.1 && e.1 != place).map Prod.fst := by
    simp only [below, List.map_map]
    refine List.map_congr_left ?_
    intro e member
    obtain ⟨inside, -⟩ := Bool.and_eq_true_iff.mp (List.mem_filter.mp member).2
    obtain ⟨rest, split⟩ := List.isPrefixOf_iff_prefix.mp inside
    simp [← split]
  refine List.Nodup.of_map (place ++ ·) ?_
  rw [keys]
  exact tree.distinct.sublist (List.filter_sublist.map Prod.fst)

private theorem mem_namesIn {kind : Entry → Bool} {place : Place} {c : Component} :
    c ∈ d.namesIn kind place ↔
      ∃ entry, d.entry? (place ++ [c]) = some entry ∧ kind entry = true := by
  simp only [namesIn, List.mem_mergeSort, List.mem_filterMap, soleName?_eq_some_iff,
    List.mem_filter, Prod.exists, tree.mem_below]
  constructor
  · rintro ⟨way, entry, ⟨⟨-, present⟩, right⟩, rfl⟩
    exact ⟨entry, present, right⟩
  · rintro ⟨entry, present, right⟩
    exact ⟨[c], entry, ⟨⟨by simp, present⟩, right⟩, rfl⟩

private theorem mem_fileNames {place : Place} {c : Component} :
    c ∈ d.namesIn (!·.isFolder) place ↔ d.file? (place ++ [c]) ≠ none := by
  rw [tree.mem_namesIn]
  constructor
  · rintro ⟨entry, present, kind⟩
    cases entry with
    | folder => cases kind
    | file content => simp [file?_eq_some_iff.mpr present]
  · intro stands
    obtain ⟨content, file⟩ := Option.ne_none_iff_exists'.mp stands
    exact ⟨.file content, file?_eq_some_iff.mp file, rfl⟩

private theorem mem_folderNames {place : Place} {c : Component} :
    c ∈ d.namesIn Entry.isFolder place ↔ d.entry? (place ++ [c]) = some .folder := by
  rw [tree.mem_namesIn]
  constructor
  · rintro ⟨entry, present, kind⟩
    cases entry with
    | folder => exact present
    | file content => cases kind
  · exact fun present => ⟨.folder, present, rfl⟩

private theorem nodup_namesIn (kind : Entry → Bool) (place : Place) :
    (d.namesIn kind place).Nodup := by
  have sole : ((d.below place).filter fun e => kind e.2).filterMap (fun e => soleName? e.1) =
      (((d.below place).filter fun e => kind e.2).map Prod.fst).filterMap soleName? := by
    rw [List.filterMap_map]
    rfl
  refine (List.mergeSort_perm _ _).nodup_iff.mpr (sole ▸ List.Nodup.filterMap ?_ ?_)
  · intro way way' c here here'
    rw [soleName?_eq_some_iff.mp here, soleName?_eq_some_iff.mp here']
  · exact (tree.nodup_below place).sublist (List.filter_sublist.map Prod.fst)

private theorem namesIn_sorted (kind : Entry → Bool) (place : Place) :
    (d.namesIn kind place).Pairwise fun c c' => Text.Precedes c.text c'.text := by
  refine ((d.namesIn_ordered kind place).and (tree.nodup_namesIn kind place)).imp ?_
  rintro c c' ⟨le, different⟩
  by_contra ge
  exact different (Component.text_injective (Text.Precedes.trichotomous ge le))

/-- A walk finds the files that stand below its folder in folders that it can open. -/
theorem mem_filesWalked {folder : List Letter} {place rest : Place} :
    rest ∈ d.filesWalked folder place ↔
      rest ≠ [] ∧ (∃ content, d.file? (place ++ rest) = some content) ∧
        opens (walkedText folder rest.dropLast) = true := by
  induction folder, place using d.walk_induction generalizing rest with
  | step folder place ih =>
    rw [filesWalked_eq]
    split_ifs with opened
    · rw [List.mem_append, List.mem_map, List.mem_flatMap]
      constructor
      · rintro (⟨c, member, rfl⟩ | ⟨c, member, inside⟩)
        · exact ⟨by simp, Option.ne_none_iff_exists'.mp (tree.mem_fileNames.mp member), opened⟩
        · obtain ⟨way, below, rfl⟩ := List.mem_map.mp inside
          obtain ⟨proper, file, opened'⟩ := (ih c member).mp below
          rw [List.append_assoc, List.singleton_append] at file
          exact ⟨by simp, file, by rwa [List.dropLast_cons_of_ne_nil proper]⟩
      · rintro ⟨proper, ⟨content, file⟩, opened'⟩
        obtain ⟨c, way, rfl⟩ := List.exists_cons_of_ne_nil proper
        by_cases last : way = []
        · subst last
          exact .inl ⟨c, tree.mem_fileNames.mpr (by simp [file]), rfl⟩
        · rw [List.dropLast_cons_of_ne_nil last] at opened'
          rw [List.append_cons] at file
          have present := present_of_file? (file ▸ Option.some_ne_none content)
          have member := tree.mem_folderNames.mpr (tree.folder_of_append last present)
          exact .inr ⟨c, member, List.mem_map_of_mem ((ih c member).mpr ⟨last, ⟨_, file⟩, opened'⟩)⟩
    · refine iff_of_false List.not_mem_nil ?_
      rintro ⟨-, -, opened'⟩
      exact opened (opens_of_walkedText opened')

/-- A walk finds the files of a folder by name, and then those of its subfolders. -/
theorem filesWalked_sorted (folder : List Letter) (place : Place) :
    (d.filesWalked folder place).Pairwise WayPrecedes := by
  induction folder, place using d.walk_induction with
  | step folder place ih =>
    have proper : ∀ {c way}, way ∈ d.filesWalked (joinName folder c.text) (place ++ [c]) →
        way ≠ [] := fun member => (tree.mem_filesWalked.mp member).1
    rw [filesWalked_eq]
    split_ifs with opened
    · refine List.pairwise_append.mpr ⟨?_, List.pairwise_flatMap.mpr ⟨?_, ?_⟩, ?_⟩
      · exact List.pairwise_map.mpr
          ((tree.namesIn_sorted _ place).imp fun lt => WayPrecedes.of_lt lt Iff.rfl)
      · -- Below one subfolder the order is that of the rest of the ways.
        exact fun c member => List.pairwise_map.mpr ((ih c member).imp (WayPrecedes.cons c))
      · -- Below two of them their names decide.
        refine (tree.namesIn_sorted _ place).imp fun {c c'} lt a member b member' => ?_
        obtain ⟨as, below, rfl⟩ := List.mem_map.mp member
        obtain ⟨bs, below', rfl⟩ := List.mem_map.mp member'
        exact .of_lt lt (iff_of_false (proper below) (proper below'))
      · intro a member b member'
        obtain ⟨c, file, rfl⟩ := List.mem_map.mp member
        obtain ⟨c', folder', inside⟩ := List.mem_flatMap.mp member'
        obtain ⟨bs, below, rfl⟩ := List.mem_map.mp inside
        refine ⟨[], c, [], c', bs, rfl, rfl, ?_, .inl ⟨rfl, proper below⟩⟩
        rintro rfl
        have vacant := file?_eq_none_of_folder (tree.mem_folderNames.mp folder')
        exact tree.mem_fileNames.mp file vacant
    · exact .nil

theorem nodup_filesWalked (folder : List Letter) (place : Place) :
    (d.filesWalked folder place).Nodup :=
  (tree.filesWalked_sorted folder place).imp WayPrecedes.ne

end WellFormed

end Disk

end MusicFiling
