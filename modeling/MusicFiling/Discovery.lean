import MusicFiling.Disk.Reach
import MusicFiling.Selection

/-!
# Discovery of music files

The files below a folder are found by a walk that does not depend on the order in which the disk
lists them: it takes the files of a folder by name, and then goes into its subfolders, by name as
well. A folder that it cannot open, because its path has become too long on the way down, is passed
over with all that stands in it. How deep a walk may go is not limited.
-/

namespace MusicFiling

namespace Disk

/-- The name in a folder that a way is, if it leads no further. -/
def soleName? : List Component → Option Component
  | [c] => some c
  | _ => none

/-- The names of the entries of one kind that stand in a folder, in order. -/
def namesIn (d : Disk) (kind : Entry → Bool) (place : Place) : List Component :=
  (((d.below place).filter fun e => kind e.2).filterMap fun e => soleName? e.1).mergeSort
    fun c c' => ¬Text.Precedes c'.text c.text

/-- The text of a folder's path with a name behind it. -/
def joinName (folder name : List Letter) : List Letter :=
  if folder.getLast? = some (.char '/') then folder ++ name else folder ++ .char '/' :: name

/-- Whether a folder can be opened under a text. -/
def opens (folder : List Letter) : Bool :=
  Text.size folder ≤ pathLimit

theorem soleName?_eq_some_iff {way : List Component} {c : Component} :
    soleName? way = some c ↔ way = [c] := by
  unfold soleName?
  split <;> simp_all

theorem exists_entry_of_mem_namesIn {d : Disk} {kind : Entry → Bool} {place : Place} {c : Component}
    (member : c ∈ d.namesIn kind place) : ∃ e ∈ d.entries, e.1 = place ++ [c] := by
  simp only [namesIn, below, List.mem_mergeSort, List.mem_filterMap, List.mem_filter,
    List.mem_map, Bool.and_eq_true] at member
  obtain ⟨_, ⟨⟨e, ⟨listed, inside, -⟩, rfl⟩, -⟩, sole⟩ := member
  have way : e.1.drop place.length = [c] := soleName?_eq_some_iff.mp sole
  obtain ⟨rest, split⟩ := List.isPrefixOf_iff_prefix.mp inside
  rw [← split, List.drop_left] at way
  exact ⟨e, listed, by rw [← split, way]⟩

theorem below_of_below_concat {place q : Place} {c : Component}
    (deeper : ((place ++ [c]).isPrefixOf q && q != place ++ [c]) = true) :
    (place.isPrefixOf q && q != place) = true := by
  simp only [Bool.and_eq_true, bne_iff_ne, List.isPrefixOf_iff_prefix] at deeper ⊢
  obtain ⟨⟨rest, rfl⟩, -⟩ := deeper
  exact ⟨⟨c :: rest, by simp⟩, by simp⟩

/-- Less stands below a subfolder than below its folder. -/
theorem length_below_lt {d : Disk} {kind : Entry → Bool} {place : Place} {c : Component}
    (member : c ∈ d.namesIn kind place) :
    (d.below (place ++ [c])).length < (d.below place).length := by
  have among : (d.entries.filter fun e => (place ++ [c]).isPrefixOf e.1 && e.1 != place ++ [c]) =
      (d.entries.filter fun e => place.isPrefixOf e.1 && e.1 != place).filter
        fun e => (place ++ [c]).isPrefixOf e.1 && e.1 != place ++ [c] := by
    rw [List.filter_filter]
    exact List.filter_congr fun e _ =>
      (Bool.and_eq_left_iff_imp.mpr fun deeper => below_of_below_concat deeper).symm
  obtain ⟨e, listed, here⟩ := exists_entry_of_mem_namesIn member
  simp only [below, List.length_map, among]
  exact List.length_filter_lt_length_iff_exists.mpr
    ⟨e, List.mem_filter.mpr ⟨listed, by simp [here]⟩, by simp [here]⟩

/-- The ways down to the files that a walk finds from a folder, which it opens under a text. -/
def filesWalked (d : Disk) (folder : List Letter) (place : Place) : List (List Component) :=
  if opens folder then
    (d.namesIn (!·.isFolder) place).map ([·]) ++
      (d.namesIn Entry.isFolder place).attach.flatMap fun c =>
        (d.filesWalked (joinName folder c.1.text) (place ++ [c.1])).map (c.1 :: ·)
  else []
termination_by (d.below place).length
decreasing_by exact length_below_lt c.2

/-- The files at or below a path, in order: the path itself if a file stands there. -/
def filesAt (d : Disk) (source : Path) : Except Fault (List Path) := do
  match ← d.at? source with
  | some (.file _) => .ok [source]
  | _ =>
    match d.reach source with
    | .error .nullByte => .error (.refused .nullByte source)
    | .error _ => .ok []
    | .ok place => .ok ((d.filesWalked source.text place).map source.descend)

end Disk

/-- The selected files at or below a path, in order. -/
def discover (d : Disk) (selection : Selection) (source : Path) : Except Fault (List Path) :=
  (·.filter selection.admits) <$> d.filesAt source

end MusicFiling
