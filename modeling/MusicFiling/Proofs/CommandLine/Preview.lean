import MusicFiling.CommandLine.Patterns
import MusicFiling.Proofs.Organize.Turn
import MusicFiling.Proofs.Probe

/-!
# Previews

Rendering a pattern for tags that are given as assignments shows what organizing makes of a file
with these tags: the prober prints the same pairs on lines of their own, and the two ways of reading
them agree, whatever stands on the other lines.
-/

namespace MusicFiling

/-- Whether a line begins with the mark of the prober. -/
def isMarked (line : List Char) : Bool :=
  "TAG:".toList.isPrefixOf line

namespace Separable

variable {pair : String × String} (separable : Separable pair)
include separable

private theorem splitValue : CommandLine.splitValue (assignmentText pair) =
    (pair.1, some pair.2) := by
  simp only [CommandLine.splitValue, toList_assignmentText, takeWhile_key separable.noEquals,
    List.drop_left, String.ofList_toList]

private theorem assignment : CommandLine.assignment (assignmentText pair) = .ok pair := by
  simp only [CommandLine.assignment, separable.splitValue, separable.nonempty, if_false]

end Separable

section

variable {pairs : List (String × String)} (separable : ∀ pair ∈ pairs, Separable pair)
include separable

/-- Assignments are read as the pairs that they write. -/
theorem mapM_assignment : (pairs.map assignmentText).mapM CommandLine.assignment = .ok pairs := by
  induction pairs with
  | nil => rfl
  | cons pair rest ih =>
    obtain ⟨first, others⟩ := List.forall_mem_cons.mp separable
    simp only [List.map_cons, List.mapM_cons, first.assignment, ih others]
    rfl

end

/-- A line without the mark holds no pair. -/
theorem tagLine?_unmarked {line : List Char} (unmarked : isMarked line = false) :
    tagLine? line = none := by
  unfold tagLine?
  split
  case h_1 rest =>
    have marked : isMarked ('T' :: 'A' :: 'G' :: ':' :: rest) = true := by
      simp [isMarked]
    rw [marked] at unmarked
    cases unmarked
  case h_2 => rfl

/-- Only marked lines matter. -/
theorem tagPairs_eq_filter (text : List Char) :
    tagPairs text = ((Text.lines text).filter isMarked).filterMap tagLine? := by
  rw [tagPairs, List.filterMap_filter]
  congr 1
  funext line
  by_cases marked : isMarked line = true
  · rw [if_pos marked]
  · rw [if_neg marked]
    exact tagLine?_unmarked (by simpa using marked)

/-- What the prober prints is read as the pairs on its marked lines. -/
theorem tagPairs_probeText {bytes : List UInt8} {pairs : List (String × String)}
    (separable : ∀ pair ∈ pairs, Separable pair)
    (printed : (Text.lines (Text.Utf8.decodeLenient bytes)).filter isMarked =
      pairs.map tagLine) : tagPairs (probeText bytes) = pairs := by
  rw [tagPairs_eq_filter, probeText, Text.lines_unifyNewlines, printed]
  exact filterMap_tagLine? separable

/-- The suffix that goes with an extension; an empty one has none. -/
def suffixOf (extension : Option String) : String :=
  match Dictionary.present extension with
  | some extension => "." ++ extension
  | none => ""

/-- The suffix tells the extension, unless that is empty. -/
theorem present_eq_of_suffixOf {extension extension' : Option String}
    (same : suffixOf extension = suffixOf extension') :
    Dictionary.present extension = Dictionary.present extension' := by
  have dotted : ∀ text : String, "." ++ text ≠ "" := by
    intro text empty
    simp at empty
  unfold suffixOf at same
  cases first : Dictionary.present extension with
  | none =>
    cases second : Dictionary.present extension' with
    | none => rfl
    | some text => exact absurd (by simpa only [first, second] using same.symm) (dotted text)
  | some text =>
    cases second : Dictionary.present extension' with
    | none => exact absurd (by simpa only [first, second] using same) (dotted text)
    | some text' => simpa [first, second] using same

private theorem suffix_eq_suffixOf (path : Path) :
    path.suffix = suffixOf (some path.extension) := by
  unfold Path.suffix suffixOf Dictionary.present
  by_cases empty : path.extension = ""
  · simp [empty, Option.filter_some]
  · simp [empty, Option.filter_some]

private theorem Dictionary.lookup_congr (pairs : List (String × String))
    {extension extension' : Option String} (same : present extension = present extension') :
    (ofPairs pairs extension).lookup = (ofPairs pairs extension').lookup := by
  funext tag
  cases tag with
  | extension => exact same
  | _ => rfl

/-- What the preview of a pattern shows for assignments is what organizing renders for a file with
    the same tags and extension, and the file goes where the preview leads, or is refused as it
    is. -/
theorem preview_organize {options : Options} {prober : Prober} {d : Disk} {path : Path}
    {pairs : List (String × String)} (separable : ∀ pair ∈ pairs, Separable pair)
    {extension : Option String} (suffix : path.suffix = suffixOf extension)
    (installed : prober.installed = true) {stdout stderr : List UInt8}
    (probed : prober.run d path = .finished 0 stdout stderr)
    (printed : (Text.lines (Text.Utf8.decodeLenient stdout)).filter isMarked =
      pairs.map tagLine) :
    ∃ tags, readTags prober.installed (prober.run d path) path none = .ok tags ∧
      (pairs.map assignmentText).mapM CommandLine.assignment = .ok pairs ∧
      CommandLine.previewPattern options.pattern pairs extension options.placeholder =
        renderPattern tags.lookup options.placeholder options.pattern ∧
      planDestination options prober d path =
        match CommandLine.previewPattern options.pattern pairs extension options.placeholder with
        | .error error => .error (.pattern error)
        | .ok text => (buildDestination options.target text).mapError .destination := by
  have tags : readTags prober.installed (prober.run d path) path none =
      .ok (Dictionary.ofPairs pairs (some path.extension)) := by
    simp [readTags, installed, probed, tagPairs_probeText separable printed]
  have same : (Dictionary.ofPairs pairs (some path.extension)).lookup =
      (Dictionary.ofPairs pairs extension).lookup :=
    Dictionary.lookup_congr pairs
      (present_eq_of_suffixOf ((suffix_eq_suffixOf path).symm.trans suffix))
  refine ⟨_, tags, mapM_assignment separable, ?_, ?_⟩
  · rw [CommandLine.previewPattern, same]
  · rw [planDestination, tags, CommandLine.previewPattern, ← same]
    simp only
    cases renderPattern (Dictionary.ofPairs pairs (some path.extension)).lookup options.placeholder
      options.pattern with
    | error error => rfl
    | ok text =>
      cases built : buildDestination options.target text with
      | error error => simp only [built, Except.mapError]
      | ok destination => simp only [built, Except.mapError]

namespace Retitled

/-- The tags of a song whose container has another title than its stream. -/
def pairs : List (String × String) :=
  [("TITLE", "So = What"), ("title", "Blue "), ("track", "1")]

/-- A song of which the prober prints these tags. -/
def disk : Disk where
  entries :=
    [((Path.ofString "music").parts, .folder),
     ((Path.ofString "music/a.mp3").parts, .file (Text.Utf8.ofString
        "[STREAM]\nTAG:TITLE=So = What\r\nindex=0\nTAG:title=Blue \nTAG:track=1\n[/STREAM]"))]
  workingFolder := []

def path : Path :=
  Path.ofString "music/a.mp3"

def options : Options where
  source := Path.ofString "music"
  target := Path.ofString "lib"
  pattern := "\x7btitle\x7d/\x7btrack\x7d.\x7bextension\x7d"
  placeholder := "_"
  action := .copy
  dryRun := true
  selection := ⟨["mp3"], [], []⟩
  journal := Path.ofString "log.csv"
  report := none
  verbosity := .normal

end Retitled

theorem preview_retitled :
    CommandLine.previewPattern Retitled.options.pattern Retitled.pairs (some "mp3")
        Retitled.options.placeholder = .ok "Blue /1.mp3" ∧
      (planDestination Retitled.options Prober.echo Retitled.disk Retitled.path).toOption =
        some (Path.ofString "lib/Blue /1.mp3") := by
  have separable : ∀ pair ∈ Retitled.pairs, Separable pair := by
    have keys : ∀ pair ∈ Retitled.pairs, pair.1 ≠ "" ∧ '=' ∉ pair.1.toList := by decide
    exact fun pair member => ⟨(keys pair member).1, (keys pair member).2⟩
  obtain ⟨tags, -, -, -, planned⟩ := @preview_organize Retitled.options Prober.echo Retitled.disk
    Retitled.path Retitled.pairs separable (some "mp3") (by decide +kernel) rfl _ _ rfl
    (by decide +kernel)
  have shown : CommandLine.previewPattern Retitled.options.pattern Retitled.pairs (some "mp3")
      Retitled.options.placeholder = .ok "Blue /1.mp3" := by
    decide +kernel
  refine ⟨shown, ?_⟩
  rw [planned, shown]
  decide +kernel

end MusicFiling
