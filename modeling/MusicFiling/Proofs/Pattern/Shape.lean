import MusicFiling.Proofs.Pattern.Rules

/-!
# The shape of a rendering

Which tags a file has decides how a pattern is read for it; what their values are does not. Values
and placeholders are filled in where the pieces say, and are never read as part of the pattern.
-/

namespace MusicFiling.Pattern

section
variable {first second : TagSource} (same : ∀ tag, (first tag).isSome = (second tag).isSome)
include same

private theorem missing_congr {tag : Tag} (missing : first tag = none) : second tag = none := by
  rw [← Option.isNone_iff_eq_none, ← Option.not_isSome, ← same tag, missing]
  rfl

theorem Move.congr {position : Nat} {mode next : Mode} {c : Char} {piece : Option Piece}
    (move : Move first position mode c piece next) : Move second position mode c piece next := by
  cases move with
  | literal ordinary => exact .literal ordinary
  | opening => exact .opening
  | letter ordinary => exact .letter ordinary
  | value spells present => exact .value spells (same _ ▸ present)
  | valueThenAddendum spells present => exact .valueThenAddendum spells (same _ ▸ present)
  | valueThenRest spells present goesOn => exact .valueThenRest spells (same _ ▸ present) goesOn
  | handOver spells missing => exact .handOver spells (missing_congr same missing)
  | missing spells missing => exact .missing spells (missing_congr same missing)
  | vanish spells missing => exact .vanish spells (missing_congr same missing)
  | skip other => exact .skip other
  | skipped => exact .skipped
  | addition other => exact .addition other
  | cutOff other marker => exact .cutOff other marker
  | added => exact .added

theorem Yields.congr {position : Nat} {mode last : Mode} {text : List Char} {pieces : List Piece}
    (yields : Yields first position mode text pieces last) :
    Yields second position mode text pieces last := by
  induction yields with
  | nil => exact .nil
  | cons move rest ih => exact .cons (move.congr same) ih

theorem Refused.congr {pattern : String} {error : PatternError}
    (refused : Refused first pattern error) : Refused second pattern error := by
  cases refused with
  | stopped stops =>
    obtain ⟨before, c, after, pieces, last, written, yields, stop⟩ := stops
    exact .stopped ⟨before, c, after, pieces, last, written, yields.congr same, stop⟩
  | unfinished yields open_ => exact .unfinished (yields.congr same) open_

end

/-- How a pattern is read alike for two files, each with a placeholder of its own. -/
inductive SameShape (first second : TagSource) (one other pattern : String) : Prop where
  /-- It is refused with the same error for both. -/
  | refused (error : PatternError)
    (refusedFirst : compilePattern first one pattern = .error error)
    (refusedSecond : compilePattern second other pattern = .error error)
  /-- It yields the same pieces for both, and each piece is one fragment of either rendering. A
      piece that is a character of the pattern is the same fragment for both. -/
  | rendered (pieces : List Piece) (fragments others : List String)
    (outlineFirst : Outline first pattern pieces) (outlineSecond : Outline second pattern pieces)
    (compiledFirst : compilePattern first one pattern = .ok fragments)
    (compiledSecond : compilePattern second other pattern = .ok others)
    (filledFirst : fragments = pieces.map (Piece.fragment first one))
    (filledSecond : others = pieces.map (Piece.fragment second other))
    (length : fragments.length = others.length)
    (verbatim : ∀ (index : Nat) (c : Char), pieces[index]?.bind Piece.char? = some c →
      fragments[index]? = some c.toString ∧ others[index]? = some c.toString)

private theorem getElem?_fragments (source : TagSource) (placeholder : String) {pieces : List Piece}
    {index : Nat} {c : Char} (verbatim : pieces[index]?.bind Piece.char? = some c) :
    (pieces.map (Piece.fragment source placeholder))[index]? = some c.toString := by
  obtain ⟨piece, stands, written⟩ := Option.bind_eq_some_iff.mp verbatim
  rw [List.getElem?_map, stands, Option.map_some]
  cases piece with
  | literal d | addendum d =>
    obtain rfl := Option.some.inj written
    rfl
  | value | placeholder => cases written

/-- For two files that have the same tags a pattern is refused with the same error or yields the
    same pieces; values and placeholders decide neither. -/
theorem compilePattern_shape {first second : TagSource}
    (same : ∀ tag, (first tag).isSome = (second tag).isSome) (pattern one other : String) :
    SameShape first second one other pattern := by
  rcases outline_or_refused first pattern with ⟨pieces, outline⟩ | ⟨error, refused⟩
  · have outlined : Outline second pattern pieces := Yields.congr same outline
    refine .rendered pieces _ _ outline outlined (compilePattern_of_outline one outline)
      (compilePattern_of_outline other outlined) rfl rfl (by simp) ?_
    intro index c verbatim
    exact ⟨getElem?_fragments first one verbatim, getElem?_fragments second other verbatim⟩
  · exact .refused error (compilePattern_of_refused one refused)
      (compilePattern_of_refused other (refused.congr same))

/-- A file that has nothing but the name of its album. -/
def albumNamed (name : String) : TagSource := fun tag => if tag = .album then some name else none

/-- A value that looks like the beginning of a token is read no differently than an empty one. -/
theorem compilePattern_shape_opener :
    (∀ tag, (albumNamed "\x7bdisc?" tag).isSome = (albumNamed "" tag).isSome) ∧
      SameShape (albumNamed "\x7bdisc?") (albumNamed "") "_" "-"
        "\x7btitle?album+!\x7d/\x7balbum+\x7b\x7d\x7btitle\x7d" ∧
      compilePattern (albumNamed "\x7bdisc?") "_"
        "\x7btitle?album+!\x7d/\x7balbum+\x7b\x7d\x7btitle\x7d" =
          .ok ["_disc_", "/", "_disc_", "\x7b", "_"] ∧
      compilePattern (albumNamed "") "-"
        "\x7btitle?album+!\x7d/\x7balbum+\x7b\x7d\x7btitle\x7d" =
          .ok ["", "/", "", "\x7b", "-"] := by
  have same : ∀ tag, (albumNamed "\x7bdisc?" tag).isSome = (albumNamed "" tag).isSome := by
    intro tag
    by_cases album : tag = .album <;> simp [albumNamed, album]
  exact ⟨same, compilePattern_shape same _ "_" "-", rfl, rfl⟩

end MusicFiling.Pattern
