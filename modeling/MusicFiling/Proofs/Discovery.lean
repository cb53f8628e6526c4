import MusicFiling.Proofs.Disk.Listing

/-!
# Discovery is complete and in order

Discovery finds every file at or below its source that passes the filters, as long as the walk can
open the file's folder, and finds it once. The files of a folder come before those of its
subfolders, and otherwise the smaller name comes first, in whatever order the disk lists its
entries.
-/

namespace MusicFiling

namespace Disk

section

variable {d d' : Disk} (perm : d'.entries.Perm d.entries)
include perm

private theorem Keyed.of_perm (keyed : d.Keyed) : d'.Keyed :=
  ⟨(perm.map Prod.fst).nodup_iff.mpr keyed.distinct,
    fun root => keyed.rootless ((perm.map Prod.fst).mem_iff.mp root)⟩

private theorem Keyed.entry?_of_perm (keyed : d.Keyed) : d'.entry? = d.entry? := by
  funext place
  by_cases root : place = []
  · rw [root, entry?_nil, entry?_nil]
  · refine Option.ext fun entry => ⟨fun present => ?_, fun present => ?_⟩
    · exact keyed.entry?_of_mem (perm.mem_iff.mp (WellFormed.mem_of_present root present))
    · exact (keyed.of_perm perm).entry?_of_mem
        (perm.mem_iff.mpr (WellFormed.mem_of_present root present))

private theorem namesIn_of_perm (kind : Entry → Bool) (place : Place) :
    d'.namesIn kind place = d.namesIn kind place := by
  have names : (d'.namesIn kind place).Perm (d.namesIn kind place) :=
    (List.mergeSort_perm _ _).trans
      (((((perm.filter _).map _).filter _).filterMap _).trans (List.mergeSort_perm _ _).symm)
  refine List.Perm.eq_of_pairwise ?_ (d'.namesIn_ordered kind place) (d.namesIn_ordered kind place)
    names
  intro c c' _ _ le ge
  exact Component.text_injective (Text.Precedes.trichotomous ge le)

private theorem filesWalked_of_perm (folder : List Letter) (place : Place) :
    d'.filesWalked folder place = d.filesWalked folder place := by
  induction folder, place using d.walk_induction with
  | step folder place ih =>
    rw [filesWalked_eq, filesWalked_eq, namesIn_of_perm perm, namesIn_of_perm perm]
    refine if_congr Iff.rfl (congrArg _ (List.flatMap_congr fun c member => ?_)) rfl
    rw [ih c member]

private theorem discover_of_perm (keyed : d.Keyed) (working : d'.workingFolder = d.workingFolder)
    (selection : Selection) (source : Path) :
    discover d' selection source = discover d selection source := by
  have same := keyed.entry?_of_perm perm
  have led := reach_congr working same source
  simp only [discover, filesAt, at?, led, same, filesWalked_of_perm perm]

end

end Disk

/-- The files that are selected, by the three filters. -/
theorem Selection.admits_iff {selection : Selection} {path : Path} :
    selection.admits path = true ↔ path.hasExtension selection.extensions = true ∧
      path.matchesAny selection.excluded = false ∧
        (selection.included = [] ∨ path.matchesAny selection.included = true) := by
  simp only [admits, Bool.and_eq_true, Bool.or_eq_true, Bool.not_eq_true', List.isEmpty_iff,
    and_assoc]

/-- One path comes before another. Where the two part, it names a file of the common folder and the
    other goes on into a subfolder; or both do the same, and its name there is the smaller one. -/
def Path.Precedes (p q : Path) : Prop :=
  p.anchor = q.anchor ∧ WayPrecedes p.parts q.parts

/-- Whether a file stands where some names lead from a path. -/
def Disk.FileBelow (d : Disk) (source : Path) (way : List Component) : Prop :=
  ∃ place content, d.reach source = .ok place ∧ d.file? (place ++ way) = some content

/-- The selected files at or below a source in folders of some kind: all of them and nothing else,
    each once, and in order. -/
structure Listing (d : Disk) (selection : Selection) (source : Path)
    (Opened : List Component → Prop) (files : List Path) : Prop where
  complete : ∀ path, path ∈ files ↔
    ∃ way, path = source.descend way ∧ d.FileBelow source way ∧ Opened way.dropLast ∧
      path.hasExtension selection.extensions = true ∧
      path.matchesAny selection.excluded = false ∧
      (selection.included = [] ∨ path.matchesAny selection.included = true)
  once : (files.map d.nominal).Nodup
  ordered : files.Pairwise Path.Precedes

private theorem Path.Precedes.asymm {p q : Path} (first : p.Precedes q) : ¬q.Precedes p :=
  fun second => first.2.asymm second.2

/-- There is only one listing. -/
theorem Listing.unique {d : Disk} {selection : Selection} {source : Path}
    {Opened : List Component → Prop} {files files' : List Path}
    (listing : Listing d selection source Opened files)
    (listing' : Listing d selection source Opened files') : files = files' := by
  refine List.Perm.eq_of_pairwise (fun p q _ _ first second => absurd second first.asymm)
    listing.ordered listing'.ordered ?_
  refine (List.perm_ext_iff_of_nodup (listing.once.of_map) (listing'.once.of_map)).mpr ?_
  exact fun path => (listing.complete path).trans (listing'.complete path).symm

private theorem Path.precedes_descend (source : Path) {a b : List Component}
    (before : WayPrecedes a b) : (source.descend a).Precedes (source.descend b) := by
  obtain ⟨common, c, cs, c', cs', rfl, rfl, parting⟩ := before
  refine ⟨rfl, source.parts ++ common, c, cs, c', cs', ?_, ?_, parting⟩
  · exact (List.append_assoc _ _ _).symm
  · exact (List.append_assoc _ _ _).symm

namespace Disk.WellFormed

variable {d : Disk} (tree : d.WellFormed) {selection : Selection} {source : Path}
  {files : List Path}
include tree

private theorem filesAt_ordered (found : d.filesAt source = .ok files) :
    files.Pairwise Path.Precedes := by
  rcases filesAt_cases found with ⟨_, -, rfl⟩ | ⟨place, -, ⟨-, rfl⟩ | ⟨-, rfl⟩⟩
  · exact List.Pairwise.nil
  · exact List.pairwise_singleton _ _
  · exact List.pairwise_map.mpr
      ((tree.filesWalked_sorted source.text place).imp source.precedes_descend)

private theorem listing_of_discover (found : discover d selection source = .ok files) :
    Listing d selection source
      (fun way => Text.size (walkedText source.text way) ≤ pathLimit) files := by
  obtain ⟨all, listed, rfl⟩ := discover_ok_iff.mp found
  refine ⟨fun path => ?_, ?_, ?_⟩
  · rw [tree.mem_discover found, Selection.admits_iff]
    constructor
    · rintro ⟨selected, place, way, led, named, stands, opened⟩
      obtain ⟨content, file⟩ := Option.ne_none_iff_exists'.mp stands
      exact ⟨way, named, ⟨place, content, led, file⟩, of_decide_eq_true opened, selected⟩
    · rintro ⟨way, named, ⟨place, content, led, file⟩, opened, selected⟩
      exact ⟨selected, place, way, led, named, by simp [file], decide_eq_true opened⟩
  · exact (tree.nodup_filesAt listed).sublist (List.filter_sublist.map _)
  · exact (tree.filesAt_ordered listed).filter _

end Disk.WellFormed

/-- Discovery stops at a source that cannot be asked about, and otherwise lists the selected files
    at or below it whose folders have texts of at most 4095 bytes. The order in which the disk
    lists its entries does not matter. -/
theorem discover_listing {d : Disk} (tree : d.WellFormed) (selection : Selection) (source : Path) :
    ((∃ files, discover d selection source = .ok files ∧
        Listing d selection source
          (fun way => Text.size (Disk.walkedText source.text way) ≤ Disk.pathLimit) files) ∨
      ∃ cause, d.reach source = .error cause ∧ (cause = .nullByte ∨ cause = .nameTooLong) ∧
        discover d selection source = .error (.refused cause source)) ∧
    ∀ d' : Disk, d'.entries.Perm d.entries → d'.workingFolder = d.workingFolder →
      discover d' selection source = discover d selection source := by
  refine ⟨?_, fun d' perm working => Disk.discover_of_perm perm tree.keyed working _ _⟩
  cases found : discover d selection source with
  | ok files => exact .inl ⟨files, rfl, tree.listing_of_discover found⟩
  | error fault =>
    obtain ⟨cause, stopped, kind, rfl⟩ :=
      Disk.filesAt_error_iff.mp (Disk.discover_error_iff.mp found)
    exact .inr ⟨cause, stopped, kind, rfl⟩

namespace Circles

/-- A folder. -/
def folder : Component := ⟨Text.letters "a", by decide⟩

/-- A folder in it. -/
def songs : Component := ⟨Text.letters "songs", by decide⟩

/-- A file. -/
def tune : Component := ⟨Text.letters "z.mp3", by decide⟩

/-- The way back. -/
def up : Component := ⟨Text.letters "..", by decide⟩

/-- Two files of one name, in the folder and in the folder below. -/
def disk : Disk where
  entries :=
    [([folder], .folder), ([folder, tune], .file []), ([folder, songs], .folder),
     ([folder, songs, tune], .file [])]
  workingFolder := []

/-- All files with the usual extensions. -/
def selection : Selection := ⟨defaultExtensions, [], []⟩

/-- The way into the folder, out of it and into it again, some times over. -/
def circles : Nat → List Component
  | 0 => [folder]
  | n + 1 => folder :: up :: circles n

/-- The folder under a path of 4091 bytes. -/
def source : Path := ⟨.relative, circles 818⟩

private theorem wellFormed : disk.WellFormed := by decide +kernel

private theorem circles_eq_cons (n : Nat) : ∃ rest, circles n = folder :: rest := by
  cases n <;> exact ⟨_, rfl⟩

private theorem text_circles (n : Nat) : Path.text ⟨.relative, circles (n + 1)⟩ =
    Text.letters "a/../" ++ Path.text ⟨.relative, circles n⟩ := by
  obtain ⟨rest, split⟩ := circles_eq_cons n
  have names : Text.letters "a/../" = folder.text ++ .char '/' :: (up.text ++ [.char '/']) := rfl
  simp [Path.text, circles, split, Anchor.text, List.intercalate_cons_cons, names]

private theorem size_circles (n : Nat) : Text.size
    (Path.text ⟨.relative, circles n⟩) = 5 * n + 1 := by
  induction n with
  | zero => rfl
  | succ n ih =>
    have round : Text.size (Text.letters "a/../") = 5 := by decide
    rw [text_circles, Text.size_append, ih, round]
    omega

private theorem hasNull_circles (n : Nat) : Path.hasNull ⟨.relative, circles n⟩ = false := by
  induction n with
  | zero => rfl
  | succ n ih =>
    have inside : folder.text.contains (.char '\x00') = false := rfl
    have back : up.text.contains (.char '\x00') = false := rfl
    rw [Path.hasNull, circles, List.any_cons, List.any_cons, inside, back]
    exact ih

private theorem follow_circles (n : Nat) : disk.follow [] (circles n) = .ok [folder] := by
  induction n with
  | zero => rfl
  | succ n ih =>
    have inside : disk.follow [] [folder] = .ok [folder] := rfl
    have outside : disk.follow [folder] [up] = .ok [] := rfl
    have round : disk.follow [] [folder, up] = .ok [] :=
      Disk.follow_append_ok.mpr ⟨_, inside, outside⟩
    exact Disk.follow_append_ok.mpr ⟨_, round, ih⟩

private theorem reach_source : disk.reach source = .ok [folder] := by
  refine Disk.reach_ok_iff.mpr ⟨hasNull_circles 818, ?_, follow_circles 818⟩
  rw [source, size_circles]
  decide

private theorem not_opens_songs : Disk.opens (Disk.joinName source.text songs.text) = false := by
  refine decide_eq_false fun short => ?_
  have long := Disk.size_joinName source.text songs.text
  have name : Text.size songs.text = 5 := by decide
  have limit : Disk.pathLimit = 4095 := rfl
  rw [source, size_circles] at long
  rw [source] at short
  omega

private theorem admits_tune (way : List Component) :
    selection.admits (source.descend (way ++ [tune])) = true := by
  have name : (source.descend (way ++ [tune])).name = tune.text := by
    simp [Path.name, Path.descend, ← List.append_assoc]
  have suffix : (source.descend (way ++ [tune])).suffix = ".mp3" := by
    rw [Path.suffix, Path.extension, name]
    decide +kernel
  rw [Selection.admits_iff, Path.hasExtension, suffix, name]
  exact ⟨by decide +kernel, rfl, .inl rfl⟩

/-- The walk takes the file of the folder and cannot open the folder below. -/
theorem filesWalked_source : disk.filesWalked source.text [folder] = [[tune]] := by
  have opened : Disk.opens source.text = true := Disk.opens_of_reach reach_source
  have files : disk.namesIn (!·.isFolder) [folder] = [tune] :=
    List.mergeSort_of_pairwise (by decide +kernel)
  have folders : disk.namesIn Entry.isFolder [folder] = [songs] :=
    List.mergeSort_of_pairwise (by decide +kernel)
  have below : disk.filesWalked (Disk.joinName source.text songs.text) [folder, songs] = [] := by
    rw [Disk.filesWalked_eq, if_neg (by simp [not_opens_songs])]
  rw [Disk.filesWalked_eq, if_pos opened, files, folders]
  simp [below]

private theorem discover_source :
    discover disk selection source = .ok [source.descend [tune]] := by
  have stands : disk.at? source = .ok (some .folder) := by
    rw [Disk.at?, reach_source]
    rfl
  refine Disk.discover_ok_iff.mpr ⟨[source.descend [tune]], ?_, ?_⟩
  · unfold Disk.filesAt
    rw [stands, reach_source]
    exact congrArg (fun ways => Except.ok (ways.map source.descend)) filesWalked_source
  · have admitted : selection.admits (source.descend [tune]) = true := admits_tune []
    simp [admitted]

end Circles

/-- A source that can be asked about is listed. -/
theorem discover_listing_circles :
    Circles.disk.WellFormed ∧
      ∃ files, discover Circles.disk Circles.selection Circles.source = .ok files ∧
        Listing Circles.disk Circles.selection Circles.source
          (fun way => Text.size (Disk.walkedText Circles.source.text way) ≤ Disk.pathLimit) files := by
  refine ⟨Circles.wellFormed,
    (discover_listing Circles.wellFormed Circles.selection Circles.source).1.resolve_right ?_⟩
  rintro ⟨cause, stopped, -⟩
  rw [Circles.reach_source] at stopped
  cases stopped

/-- A file is passed over where the text of its folder is too long. -/
theorem not_listing_circles :
    Circles.disk.WellFormed ∧
      Circles.disk.FileBelow Circles.source [Circles.songs, Circles.tune] ∧
      Circles.selection.admits (Circles.source.descend [Circles.songs, Circles.tune]) = true ∧
      discover Circles.disk Circles.selection Circles.source =
        .ok [Circles.source.descend [Circles.tune]] ∧
      ¬Listing Circles.disk Circles.selection Circles.source (fun _ => True)
        [Circles.source.descend [Circles.tune]] := by
  have stands : Circles.disk.FileBelow Circles.source [Circles.songs, Circles.tune] :=
    ⟨_, [], Circles.reach_source, by decide +kernel⟩
  have admitted := Circles.admits_tune [Circles.songs]
  refine ⟨Circles.wellFormed, stands, admitted, Circles.discover_source, fun listing => ?_⟩
  have member := (listing.complete _).mpr
    ⟨_, rfl, stands, trivial, Selection.admits_iff.mp admitted⟩
  have parts := congrArg Path.parts (List.mem_singleton.mp member)
  exact absurd (List.append_cancel_left parts) (by decide)

end MusicFiling
