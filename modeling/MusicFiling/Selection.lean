import MusicFiling.Path
import MusicFiling.Text.Case
import MusicFiling.Text.Glob

/-!
# Selection of files

A file is selected by its extension and by shell patterns, which are tried on its name and on its
whole path.
-/

namespace MusicFiling

/-- Extensions of the containers whose tags are read reliably. -/
def defaultExtensions : List String := ["flac", "ogg", "dsf", "mp3", "m4a"]

/-- An extension in lower case without leading dots. -/
def bareExtension (extension : String) : String :=
  String.ofList ((Text.lower extension).toList.dropWhile (· = '.'))

/-- Whether a path has one of the extensions, case and leading dots ignored. None of them holds
    stray bytes. -/
def Path.hasExtension (extensions : List String) (p : Path) : Bool :=
  (extensionOf p.name).all Letter.isChar &&
    extensions.any fun extension => bareExtension p.suffix = bareExtension extension

/-- Whether one of the shell patterns matches a path's name or the whole path. -/
def Path.matchesAny (patterns : List String) (p : Path) : Bool :=
  patterns.any fun pattern =>
    Text.globMatches pattern p.name || Text.globMatches pattern p.text

/-- The files to process: those with an extension of the list that match no excluded pattern and,
    where there are included patterns, one of them. -/
structure Selection where
  extensions : List String
  included : List String
  excluded : List String

/-- Whether a file is selected. -/
def Selection.admits (s : Selection) (p : Path) : Bool :=
  p.hasExtension s.extensions && !p.matchesAny s.excluded &&
    (s.included.isEmpty || p.matchesAny s.included)

end MusicFiling
