import MusicFiling.Tag

/-!
# Tag dictionaries

The tag values of one file under their canonical names. Keys come in any spelling; where several
spell one tag, the last value stands, at the place of the first. An empty value counts as absent.
-/

namespace MusicFiling

/-- A key in upper case without its first underscore or space. -/
def normalizeKey (key : String) : String :=
  String.ofList ((Text.upper key).toList.eraseP fun c => c = '_' ∨ c = ' ')

/-- The canonical name of the tag that a key spells, or the normalized key. No key spells the
    extension, which is not read from a file's tags. -/
def canonicalKey (key : String) : String :=
  match Tag.ofWord? (normalizeKey key) with
  | some .extension => normalizeKey key
  | some tag => tag.canonicalName
  | none => normalizeKey key

/-- Sets the value of a key, at the key's place or at the end. -/
def assign (key value : String) : List (String × String) → List (String × String)
  | [] => [(key, value)]
  | (k, v) :: rest => if k = key then (k, value) :: rest else (k, v) :: assign key value rest

/-- The pairs under their renamed keys, each key at its first place with its last value. -/
def collect (rename : String → String) (pairs : List (String × String)) :
    List (String × String) :=
  pairs.foldl (fun entries pair => assign (rename pair.1) pair.2 entries) []

/-- What a pattern takes tag values from. -/
abbrev TagSource := Tag → Option String

/-- The tag values of one file and the extension of its name. -/
structure Dictionary where
  values : List (String × String)
  extension : Option String
  deriving DecidableEq, Repr

namespace Dictionary

/-- A dictionary without values. -/
def empty : Dictionary := ⟨[], none⟩

/-- The dictionary of entries with distinct keys. -/
def ofEntries (entries : List (String × String)) (extension : Option String) : Dictionary :=
  ⟨collect canonicalKey entries, extension⟩

/-- The dictionary of pairs of which later ones win. -/
def ofPairs (pairs : List (String × String)) (extension : Option String) : Dictionary :=
  ofEntries (collect canonicalKey pairs) extension

/-- A value unless it is empty. -/
def present (value : Option String) : Option String :=
  value.filter (· ≠ "")

/-- The value of a tag, if it has one that is not empty. -/
def lookup (d : Dictionary) : TagSource
  | .extension => present d.extension
  | tag => present (d.values.lookup tag.canonicalName)

end Dictionary

end MusicFiling
