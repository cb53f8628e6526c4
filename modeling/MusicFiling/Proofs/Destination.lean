import MusicFiling.Naming
import MusicFiling.Proofs.Path

/-!
# Destinations

A rendered text is accepted exactly if every piece between its slashes names a folder or file. The
destination then goes on from the target by these pieces and by nothing else, so that it lies below
the target and tells which text was rendered.
-/

namespace MusicFiling

namespace Path

/-- A path that starts where the target does and goes on from it by the given pieces. -/
structure Extends (target : Path) (pieces : List (List Char)) (path : Path) : Prop where
  anchor : path.anchor = target.anchor
  parts : path.parts.map Component.text =
    target.parts.map Component.text ++ pieces.map (·.map Letter.char)

/-- A path strictly above another one, as both are written. -/
def Above (target path : Path) : Prop :=
  path.anchor = target.anchor ∧ target.parts <+: path.parts ∧ target.parts ≠ path.parts

namespace Extends

variable {target path : Path} {pieces : List (List Char)} (extended : target.Extends pieces path)
include extended

theorem exists_descend :
    ∃ cs, path = target.descend cs ∧ cs.map Component.text = pieces.map (·.map Letter.char) := by
  obtain ⟨start, cs, split, same, rest⟩ := List.map_eq_append_iff.mp extended.parts
  have whole : start = target.parts :=
    List.map_injective_iff.mpr (fun _ _ => Component.text_injective) same
  refine ⟨cs, ?_, rest⟩
  rw [descend, ← extended.anchor, ← whole, ← split]

private theorem above (nonempty : pieces ≠ []) : target.Above path := by
  obtain ⟨cs, rfl, shown⟩ := extended.exists_descend
  refine ⟨rfl, List.prefix_append target.parts cs, fun same => nonempty ?_⟩
  rw [List.self_eq_append_right.mp same, List.map_nil] at shown
  exact List.map_eq_nil_iff.mp shown.symm

/-- A path tells by which pieces it goes on. -/
theorem pieces_eq {pieces' : List (List Char)} (extended' : target.Extends pieces' path) :
    pieces = pieces' :=
  List.map_injective_iff.mpr (List.map_injective_iff.mpr fun _ _ => Letter.char.inj)
    (List.append_cancel_left (extended.parts.symm.trans extended'.parts))

end Extends

end Path

/-- Pieces that name no folder or file: nothing, the folder itself and the folder above. -/
def nameless : List (List Char) :=
  [[], ['.'], ['.', '.']]

section

variable {relative : String}

private theorem mem_splitSlash_iff {part : String} :
    part ∈ splitSlash relative ↔ part.toList ∈ relative.toList.splitOn '/' := by
  rw [splitSlash_eq, List.mem_map]
  constructor
  · rintro ⟨piece, member, rfl⟩
    rwa [String.toList_ofList]
  · intro member
    exact ⟨part.toList, member, String.ofList_toList⟩

private theorem Component.text_ofString? {piece : List Char} (named : piece ∉ nameless)
    (noSlash : '/' ∉ piece) :
    (ofString? (String.ofList piece)).map Component.text = some (piece.map .char) := by
  have isName : piece.map Letter.char ≠ [] ∧ piece.map Letter.char ≠ [.char '.'] ∧
      .char '/' ∉ piece.map Letter.char := by
    refine ⟨fun same => named ?_, fun same => named ?_, by simpa using noSlash⟩
    · simp [List.map_eq_nil_iff.mp same, nameless]
    · obtain ⟨c, rfl, dot⟩ := List.map_eq_singleton_iff.mp same
      simp [Letter.char.inj dot, nameless]
  rw [ofString?, Text.letters, String.toList_ofList, ofLetters?, dif_pos isName, Option.map_some]

/-- The components of a text whose pieces are names are these pieces. -/
theorem text_components (named : ∀ piece ∈ relative.toList.splitOn '/', piece ∉ nameless) :
    ((splitSlash relative).filterMap Component.ofString?).map Component.text =
      (relative.toList.splitOn '/').map (·.map Letter.char) := by
  have kept : ∀ piece ∈ relative.toList.splitOn '/',
      ((Component.ofString? ∘ String.ofList) piece).map Component.text =
        some (piece.map Letter.char) :=
    fun piece member => Component.text_ofString? (named piece member)
      (slash_not_mem_of_mem_splitOn member)
  rw [splitSlash_eq, List.filterMap_map, List.map_filterMap, List.filterMap_congr kept,
    List.filterMap_eq_map']

private theorem head?_ne_slash (named : ∀ piece ∈ relative.toList.splitOn '/', piece ∉ nameless) :
    relative.toList.head? ≠ some '/' := by
  intro absolute
  obtain ⟨rest, split⟩ := List.head?_eq_some_iff.mp absolute
  refine named [] ?_ (by decide)
  rw [split, List.splitOn_cons_eq_if_modifyHead]
  simp

/-- A text of which every piece is a name is accepted, and the target goes on by these pieces. -/
theorem buildDestination_of_named (target : Path)
    (named : ∀ piece ∈ relative.toList.splitOn '/', piece ∉ nameless) :
    ∃ destination, buildDestination target relative = .ok destination ∧
      target.Extends (relative.toList.splitOn '/') destination := by
  have noPart : ∀ part : String, part.toList ∈ nameless → part ∉ splitSlash relative :=
    fun part bare member => named _ (mem_splitSlash_iff.mp member) bare
  have up : ".." ∉ splitSlash relative := noPart ".." (by decide)
  have empty : ¬ ("" ∈ splitSlash relative ∨ "." ∈ splitSlash relative) :=
    not_or.mpr ⟨noPart "" (by decide), noPart "." (by decide)⟩
  refine ⟨target.descend ((splitSlash relative).filterMap Component.ofString?), ?_, rfl, ?_⟩
  · simp only [buildDestination, head?_ne_slash named, up, empty, if_false]
  · rw [Path.descend, List.map_append, text_components named]

private theorem buildDestination_of_nameless (target : Path) {piece : List Char}
    (member : piece ∈ relative.toList.splitOn '/') (bare : piece ∈ nameless) :
    ∃ error, buildDestination target relative = .error error := by
  have refused : ".." ∈ splitSlash relative ∨ "" ∈ splitSlash relative ∨
      "." ∈ splitSlash relative := by
    simp only [mem_splitSlash_iff]
    simp only [nameless, List.mem_cons, List.not_mem_nil, or_false] at bare
    rcases bare with rfl | rfl | rfl
    · exact .inr (.inl member)
    · exact .inr (.inr member)
    · exact .inl member
  simp only [buildDestination]
  split_ifs with absolute up empty
  · exact ⟨_, rfl⟩
  · exact ⟨_, rfl⟩
  · exact ⟨_, rfl⟩
  · exact absurd refused (not_or.mpr ⟨up, empty⟩)

/-- What is accepted consists of names, and the target goes on by them. -/
theorem extends_of_buildDestination {target destination : Path}
    (built : buildDestination target relative = .ok destination) :
    (∀ piece ∈ relative.toList.splitOn '/', piece ∉ nameless) ∧
      target.Extends (relative.toList.splitOn '/') destination := by
  have named : ∀ piece ∈ relative.toList.splitOn '/', piece ∉ nameless := by
    intro piece member bare
    obtain ⟨error, refused⟩ := buildDestination_of_nameless target member bare
    rw [built] at refused
    cases refused
  obtain ⟨destination', built', extended⟩ := buildDestination_of_named target named
  obtain rfl := Except.ok.inj (built.symm.trans built')
  exact ⟨named, extended⟩

/-- A destination goes on from the target by proper names, at least one. -/
theorem buildDestination_ok {target destination : Path}
    (built : buildDestination target relative = .ok destination) :
    ∃ cs, destination = target.descend cs ∧ cs ≠ [] ∧ ∀ c ∈ cs, c.isParent = false := by
  obtain ⟨named, extended⟩ := extends_of_buildDestination built
  obtain ⟨cs, descended, pieces⟩ := extended.exists_descend
  refine ⟨cs, descended, ?_, fun c member => decide_eq_false fun up => ?_⟩
  · rintro rfl
    exact List.splitOn_ne_nil '/' _ (List.map_eq_nil_iff.mp pieces.symm)
  · have listed : c.text ∈ (relative.toList.splitOn '/').map (·.map Letter.char) :=
      pieces ▸ List.mem_map_of_mem member
    obtain ⟨piece, inside, shown⟩ := List.mem_map.mp listed
    have dots : piece = ['.', '.'] :=
      List.map_injective_iff.mpr (fun _ _ => Letter.char.inj) (shown.trans up)
    exact named piece inside (by rw [dots]; decide)

/-- A destination is text if the target is. -/
theorem isText_of_buildDestination {target destination : Path} (text : target.IsText)
    (built : buildDestination target relative = .ok destination) : destination.IsText := by
  intro c member
  have among : c.text ∈ destination.parts.map Component.text := List.mem_map_of_mem member
  rw [(extends_of_buildDestination built).2.parts] at among
  rcases List.mem_append.mp among with above | new
  · obtain ⟨c', inside, same⟩ := List.mem_map.mp above
    exact same ▸ text c' inside
  · obtain ⟨piece, -, same⟩ := List.mem_map.mp new
    intro l inside
    obtain ⟨c, -, rfl⟩ := List.mem_map.mp (same ▸ inside)
    rfl

end

/-- A text is refused exactly if one of the pieces between its slashes is empty, a single dot or two
    dots. An accepted text leads below the target, by its pieces and nothing else, and different
    texts lead to different destinations. -/
theorem buildDestination_exact (target : Path) :
    (∀ relative, (∃ error, buildDestination target relative = .error error) ↔
        ∃ piece ∈ relative.toList.splitOn '/', piece = [] ∨ piece = ['.'] ∨ piece = ['.', '.']) ∧
      (∀ relative destination, buildDestination target relative = .ok destination →
        target.Extends (relative.toList.splitOn '/') destination ∧ target.Above destination) ∧
      ∀ relative relative' destination, buildDestination target relative = .ok destination →
        buildDestination target relative' = .ok destination → relative = relative' := by
  have mem_nameless : ∀ piece : List Char,
      piece ∈ nameless ↔ piece = [] ∨ piece = ['.'] ∨ piece = ['.', '.'] := by
    simp [nameless]
  refine ⟨fun relative => ⟨?_, ?_⟩, fun relative destination built => ?_, ?_⟩
  · rintro ⟨error, refused⟩
    by_contra none
    obtain ⟨destination, built, -⟩ := buildDestination_of_named target fun piece member bare =>
      none ⟨piece, member, (mem_nameless piece).mp bare⟩
    rw [refused] at built
    cases built
  · rintro ⟨piece, member, bare⟩
    exact buildDestination_of_nameless target member ((mem_nameless piece).mpr bare)
  · have extended := (extends_of_buildDestination built).2
    exact ⟨extended, extended.above (List.splitOn_ne_nil '/' _)⟩
  · intro relative relative' destination built built'
    have pieces := (extends_of_buildDestination built).2.pieces_eq
      (extends_of_buildDestination built').2
    have whole := congrArg (List.intercalate ['/']) pieces
    rw [List.intercalate_splitOn, List.intercalate_splitOn] at whole
    exact String.toList_inj.mp whole

/-- A name may begin with dots or consist of three, and the target may lead up itself. -/
theorem buildDestination_dots :
    buildDestination (Path.ofString "//new/../lib") "Air/.../.a b" =
        .ok (Path.ofString "//new/../lib/Air/.../.a b") ∧
      (Path.ofString "//new/../lib").Extends ["Air".toList, "...".toList, ".a b".toList]
        (Path.ofString "//new/../lib/Air/.../.a b") ∧
      (Path.ofString "//new/../lib").Above (Path.ofString "//new/../lib/Air/.../.a b") ∧
      ∃ error, buildDestination (Path.ofString "//new/../lib") "Air/..//.a b" = .error error := by
  have built : buildDestination (Path.ofString "//new/../lib") "Air/.../.a b" =
      .ok (Path.ofString "//new/../lib/Air/.../.a b") := rfl
  obtain ⟨refused, accepted, -⟩ := buildDestination_exact (Path.ofString "//new/../lib")
  obtain ⟨extended, above⟩ := accepted _ _ built
  exact ⟨built, extended, above, (refused _).mpr (by decide)⟩

end MusicFiling
