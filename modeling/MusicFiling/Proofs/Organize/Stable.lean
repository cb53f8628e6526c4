import MusicFiling.Proofs.Organize.DryRun
import MusicFiling.Proofs.Path.Suffix
import MusicFiling.Proofs.Pattern.Grammar
import MusicFiling.Proofs.Pattern.UpFrontCheck

/-!
# Files in their place

A pattern that ends in the extension gives a file a name from which the same extension is read
back. So the tags and the extension that led to a destination lead from there to it again, and a
file that was organized is found in its place whenever it is handled again.
-/

namespace MusicFiling

open Disk

private theorem sanitize_of_allowed (placeholder : String) {value : String}
    (allowed : ∀ c ∈ value.toList, c ∉ forbiddenChars) : sanitize placeholder value = value := by
  have same : (value.toList.flatMap fun c =>
      if c ∈ forbiddenChars then placeholder.toList else [c]) = value.toList := by
    rw [List.flatMap_congr fun c member => if_neg (allowed c member)]
    exact List.flatMap_singleton' _
  rw [sanitize, same, String.ofList_toList]

namespace Pattern

private theorem ordinary_extension : ∀ c ∈ "extension".toList, Ordinary c := by
  have plain : "extension".toList.all (fun c => c ≠ opener ∧ c ∉ markers) = true := by
    decide +kernel
  unfold Ordinary
  simpa only [List.all_eq_true, decide_eq_true_eq] using plain

/-- A dot and the extension. -/
def extensionSegments : List Segment :=
  [.literal '.' ⟨by decide, by decide⟩,
    .token ⟨⟨"extension".toList, .extension, ordinary_extension, by decide +kernel⟩, [], none⟩]

private theorem spelling_extensionSegments :
    spelling extensionSegments = ".\x7bextension\x7d" := rfl

/-- A pattern that passes the check and goes on with the extension gives a name that ends so. -/
theorem renderPattern_extension {source : TagSource} (placeholder : String) {stem : String}
    {extension : String} (accepted : checkPattern stem = .ok ())
    (present : source .extension = some extension)
    (allowed : ∀ c ∈ extension.toList, c ∉ forbiddenChars) :
    ∃ rendered, renderPattern source placeholder (stem ++ ".\x7bextension\x7d") =
      .ok (rendered ++ ("." ++ extension)) := by
  obtain ⟨fragments, compiled⟩ := compilePattern_ok_of_checkPattern_ok source placeholder accepted
  have ends : extensionSegments.flatMap (Segment.meaning source placeholder) = [".", extension] := by
    simp [extensionSegments, Segment.meaning, Token.meaning, firstPresent, present,
      sanitize_of_allowed placeholder allowed]
  refine ⟨String.join fragments, ?_⟩
  rw [← spelling_extensionSegments, renderPattern, compilePattern_append compiled, ends]
  simp [String.join_append]

end Pattern

/-- Which tags a prober prints of a file depends on the file's content and extension alone. -/
def Prober.Tagwise (prober : Prober) : Prop :=
  ∀ (d d' : Disk) (path path' : Path) (place place' : Place) (content stdout stderr : List UInt8),
    d.openForReading path = .ok (place, content) →
    d'.openForReading path' = .ok (place', content) → path'.extension = path.extension →
    prober.run d path = .finished 0 stdout stderr →
      ∃ stdout' stderr', prober.run d' path' = .finished 0 stdout' stderr' ∧
        tagPairs (probeText stdout') = tagPairs (probeText stdout)

private theorem Prober.echo_tagwise : Prober.echo.Tagwise := by
  intro d d' path path' place place' content stdout stderr opened opened' _ printed
  have reads : ∀ {d : Disk} {path : Path} {place : Place},
      d.openForReading path = .ok (place, content) → echo.run d path = .finished 0 content [] := by
    intro d path place opened
    obtain ⟨led, present⟩ := openForReading_ok.mp opened
    rw [reach_eq_nominal led] at present
    simp [echo, file?_eq_some_iff.mpr present]
  obtain ⟨-, rfl, -⟩ := ProbeRun.finished.inj ((reads opened).symm.trans printed)
  exact ⟨content, [], reads opened', rfl⟩

private theorem readTags_ok {installed : Bool} {run : ProbeRun} {path : Path} {tags : Dictionary}
    (read : readTags installed run path none = .ok tags) :
    installed = true ∧ ∃ stdout stderr, run = .finished 0 stdout stderr ∧
      tags = Dictionary.ofPairs (tagPairs (probeText stdout)) (some path.extension) := by
  unfold readTags at read
  split at read
  case isFalse => cases read
  case isTrue present =>
    refine ⟨present, ?_⟩
    split at read
    · cases read
    · cases read
    · split at read
      case isTrue success =>
        subst success
        exact ⟨_, _, rfl, (Except.ok.inj read).symm⟩
      case isFalse => cases read

/-- The tags of a file are read again from a file of the same content and extension. -/
theorem readTags_again {prober : Prober} (tagwise : prober.Tagwise) {d d' : Disk}
    {path path' : Path} {place place' : Place} {content : List UInt8}
    (opened : d.openForReading path = .ok (place, content))
    (opened' : d'.openForReading path' = .ok (place', content))
    (same : path'.extension = path.extension) {tags : Dictionary}
    (read : readTags prober.installed (prober.run d path) path none = .ok tags) :
    readTags prober.installed (prober.run d' path') path' none = .ok tags := by
  obtain ⟨present, stdout, stderr, printed, rfl⟩ := readTags_ok read
  obtain ⟨stdout', stderr', printed', pairs⟩ :=
    tagwise d d' path path' place place' content stdout stderr opened opened' same printed
  simp [readTags, present, printed', pairs, same]

private theorem lookup_extension_of_readTags {installed : Bool} {run : ProbeRun} {path : Path}
    {tags : Dictionary} (read : readTags installed run path none = .ok tags)
    (named : path.extension ≠ "") : tags.lookup .extension = some path.extension := by
  obtain ⟨-, stdout, stderr, -, rfl⟩ := readTags_ok read
  simp [Dictionary.lookup, Dictionary.ofPairs, Dictionary.ofEntries, Dictionary.present, named]

/-- How a destination comes about: from the tags, through the rendered pattern. -/
theorem planDestination_stages {options : Options} {prober : Prober} {d : Disk}
    {path destination : Path} (planned : planDestination options prober d path = .ok destination) :
    ∃ tags relative,
      readTags prober.installed (prober.run d path) path none = .ok tags ∧
      renderPattern tags.lookup options.placeholder options.pattern = .ok relative ∧
      buildDestination options.target relative = .ok destination := by
  unfold planDestination at planned
  split at planned
  · cases planned
  case h_2 tags read =>
    split at planned
    · cases planned
    case h_2 relative rendered =>
      split at planned
      · cases planned
      case h_2 destination' built =>
        obtain rfl := Except.ok.inj planned
        exact ⟨tags, relative, read, rendered, built⟩

private theorem planDestination_of_stages {options : Options} {prober : Prober} {d : Disk}
    {path destination : Path} {tags : Dictionary} {relative : String}
    (read : readTags prober.installed (prober.run d path) path none = .ok tags)
    (rendered : renderPattern tags.lookup options.placeholder options.pattern = .ok relative)
    (built : buildDestination options.target relative = .ok destination) :
    planDestination options prober d path = .ok destination := by
  simp only [planDestination, read, rendered, built]

private theorem planned_of_operation? {options : Options} {prober : Prober} {run : Run}
    {path destination : Path} {action : Action}
    (carried : run.operation? options prober path = some ⟨action, path, destination⟩) :
    planDestination options prober run.disk path = .ok destination := by
  have inspected := Run.inspect_inspected options prober run path
  unfold Run.operation? at carried
  generalize run.inspect options prober path = s at carried inspected
  cases inspected with
  | @vacant console destination' before told =>
    simp only at carried
    split_ifs at carried
    obtain ⟨-, rfl⟩ : options.action = action ∧ destination' = destination := by simpa using carried
    exact (prospect_eq_vacant told).1
  | settled => cases carried
  | broken => cases carried
  | hindered => cases carried

section Suffixed

variable {options : Options} {prober : Prober} {d : Disk} {path destination : Path}
  (planned : planDestination options prober d path = .ok destination) {stem : String}
  (accepted : checkPattern stem = .ok ())
  (suffixed : options.pattern = stem ++ ".\x7bextension\x7d") (named : path.extension ≠ "")
  (allowed : ∀ c ∈ path.extension.toList, c ∉ forbiddenChars)
include planned accepted suffixed named allowed

/-- The name of a destination ends in the file's own suffix. -/
theorem name_of_planDestination :
    ∃ before, destination.name = Text.letters (before ++ ("." ++ path.extension)) := by
  obtain ⟨tags, relative, read, rendered, built⟩ := planDestination_stages planned
  obtain ⟨text, rendered'⟩ := Pattern.renderPattern_extension options.placeholder accepted
    (lookup_extension_of_readTags read named) allowed
  rw [← suffixed, rendered] at rendered'
  obtain rfl := Except.ok.inj rendered'
  refine name_of_buildDestination ?_ built
  rw [String.toList_append, List.mem_append, not_or]
  exact ⟨by decide, fun slash => allowed _ slash (by decide)⟩

/-- With something before it, the suffix is the suffix of the destination. -/
theorem extension_of_planDestination (stemmed : destination.name ≠ Text.letters path.suffix) :
    destination.extension = path.extension := by
  obtain ⟨before, name⟩ :=
    name_of_planDestination planned accepted suffixed named allowed
  refine Path.extension_of_name ?_ name
  rintro rfl
  rw [String.empty_append, ← Path.suffix_of_extension named] at name
  exact stemmed name

end Suffixed

namespace Run

/-- A file is in its place for some options: its destination is its own path, so that no operation
    is carried out on it and only a row of the report may be written. It is skipped, unless telling
    of it is hindered. -/
structure InPlace (time : String) (options : Options) (prober : Prober) (run : Run)
    (path : Path) : Prop where
  planned : planDestination options prober run.disk path = .ok path
  still : run.operation? options prober path = none
  skipped : (run.handle time options prober path).run.console.Heard →
    run.Legible options prober path → run.status time options prober path = .skipped
  steady : Steady (fun _ => False) run (run.handle time options prober path).run
  unchanged : run.report = none → (run.handle time options prober path).run.disk = run.disk

/-- Inspecting a file that is settled finds that out, unless it is hindered. -/
theorem settled_of_prospect {options : Options} {prober : Prober} {run : Run} {path : Path}
    {status : Status} (told : run.disk.prospect options prober path = .ok (.settled status)) :
    (∃ run', run.inspect options prober path = ⟨run', .ok (.settled status)⟩ ∧
      Steady (fun _ => False) run run') ∨
    ∃ run' mishap, run.inspect options prober path = ⟨run', .error mishap⟩ ∧
      Steady (fun _ => False) run run' ∧
      (run.Legible options prober path → ¬run'.console.Heard) := by
  have inspected := inspect_inspected options prober run path
  generalize run.inspect options prober path = s at inspected
  cases inspected with
  | vacant before told' => simp [told] at told'
  | @settled run' status' steady told' =>
    obtain rfl : status = status' := by simpa [told] using told'
    exact .inl ⟨run', rfl, steady⟩
  | broken steady told' => simp [told] at told'
  | hindered steady refused => exact .inr ⟨_, _, rfl, steady, refused⟩

/-- A file whose destination is its own path is in its place. -/
theorem inPlace_of_planned (time : String) {options : Options} {prober : Prober} {run : Run}
    {path : Path} (planned : planDestination options prober run.disk path = .ok path)
    (clean : path.hasNull = false) : run.InPlace time options prober path := by
  have told : run.disk.prospect options prober path = .ok (.settled .skipped) := by
    simp [Disk.prospect, planned, Disk.weigh, clean]
  have kept : run.report = none → (run.inspect options prober path).run.disk = run.disk := by
    intro unreported
    have idle : run.Idle run.disk := ⟨rfl, unreported⟩
    exact (Stepped.ends_iff.mp (idle.inspect options prober path)).disk
  rcases settled_of_prospect told with ⟨run', ended, steady⟩ | ⟨run', mishap, ended, steady, refused⟩
  · have handled : run.handle time options prober path = ⟨run', .ok .skipped⟩ := by
      rw [handle, ended]
      rfl
    rw [ended] at kept
    refine ⟨planned, by rw [operation?, ended], fun _ _ => by rw [status, handled]; rfl, ?_, ?_⟩
    · rwa [handled]
    · rwa [handled]
  · have handled : run.handle time options prober path = ⟨run', .error mishap⟩ := by
      rw [handle, ended]
      rfl
    rw [ended] at kept
    refine ⟨planned, by rw [operation?, ended], fun heard legible => ?_, ?_, ?_⟩
    · rw [handled] at heard
      exact absurd heard (refused legible)
    · rwa [handled]
    · rwa [handled]

end Run

/-- A file that was copied or moved by a pattern that ends in the extension keeps its suffix, if its
    new name has something before it, and is in its place whenever it is handled again with its
    content, for the same pattern, placeholder and target. -/
theorem organized_inPlace {options : Options} {prober : Prober} {run : Run}
    {path destination : Path} {place : Place} {content : List UInt8} {stem : String}
    (tagwise : prober.Tagwise) (accepted : checkPattern stem = .ok ())
    (suffixed : options.pattern = stem ++ ".\x7bextension\x7d") (named : path.extension ≠ "")
    (allowed : ∀ c ∈ path.extension.toList, c ∉ forbiddenChars)
    (opened : run.disk.openForReading path = .ok (place, content))
    (carried : run.operation? options prober path =
      some ⟨options.action, path, destination⟩)
    (stemmed : destination.name ≠ Text.letters path.suffix) :
    destination.suffix = path.suffix ∧
      ∀ (time' : String) (options' : Options) (run' : Run) (place' : Place),
        options'.pattern = options.pattern → options'.placeholder = options.placeholder →
        options'.target = options.target →
        run'.disk.openForReading destination = .ok (place', content) →
          run'.InPlace time' options' prober destination := by
  have planned := planned_of_operation? carried
  have same := extension_of_planDestination planned accepted suffixed named allowed stemmed
  refine ⟨by simp only [Path.suffix, same], ?_⟩
  intro time' options' run' place' pattern placeholder target opened'
  obtain ⟨tags, relative, read, rendered, built⟩ := planDestination_stages planned
  rw [← placeholder, ← pattern] at rendered
  rw [← target] at built
  have again := readTags_again tagwise opened opened' same read
  have clean := (usable_of_reach (openForReading_ok.mp opened').1).clean
  exact Run.inPlace_of_planned time' (planDestination_of_stages again rendered built) clean

namespace Twins

/-- The collection before its first song is moved. -/
def unfiled : Run := ⟨disk, none, none, ⟨.patient, []⟩, Counters.zero⟩

/-- The collection once its first song was moved. -/
def filed : Run :=
  (unfiled.handle "" options Prober.echo (Path.ofString "music/a.mp3")).run

end Twins

theorem inPlace_twins :
    Prober.echo.Tagwise ∧ checkPattern "\x7btitle\x7d" = .ok () ∧
      Twins.options.pattern = "\x7btitle\x7d" ++ ".\x7bextension\x7d" ∧
      Twins.unfiled.disk.openForReading (Path.ofString "music/a.mp3") =
        .ok ((Path.ofString "music/a.mp3").parts, Text.Utf8.ofString "TAG:title=song\n") ∧
      Twins.unfiled.operation? Twins.options Prober.echo (Path.ofString "music/a.mp3") =
        some ⟨.move, Path.ofString "music/a.mp3", Path.ofString "lib/song.mp3"⟩ ∧
      Twins.filed.disk.openForReading (Path.ofString "lib/song.mp3") =
        .ok ((Path.ofString "lib/song.mp3").parts, Text.Utf8.ofString "TAG:title=song\n") ∧
      Twins.filed.InPlace "" Twins.options Prober.echo (Path.ofString "lib/song.mp3") ∧
      Twins.filed.status "" Twins.options Prober.echo (Path.ofString "lib/song.mp3") =
        .skipped := by
  have accepted : checkPattern "\x7btitle\x7d" = .ok () := rfl
  have opened : Twins.unfiled.disk.openForReading (Path.ofString "music/a.mp3") =
      .ok ((Path.ofString "music/a.mp3").parts, Text.Utf8.ofString "TAG:title=song\n") := by
    decide +kernel
  have carried : Twins.unfiled.operation? Twins.options Prober.echo
      (Path.ofString "music/a.mp3") =
        some ⟨.move, Path.ofString "music/a.mp3", Path.ofString "lib/song.mp3"⟩ := by
    decide +kernel
  have again : Twins.filed.disk.openForReading (Path.ofString "lib/song.mp3") =
      .ok ((Path.ofString "lib/song.mp3").parts, Text.Utf8.ofString "TAG:title=song\n") := by
    decide +kernel
  have heard : (Twins.filed.handle "" Twins.options Prober.echo
      (Path.ofString "lib/song.mp3")).run.console.Heard := by decide +kernel
  have allowed : ∀ c ∈ (Path.ofString "music/a.mp3").extension.toList, c ∉ forbiddenChars := by
    have all : (Path.ofString "music/a.mp3").extension.toList.all (· ∉ forbiddenChars) = true := by
      decide +kernel
    simpa only [List.all_eq_true, decide_eq_true_eq] using all
  obtain ⟨-, stable⟩ := organized_inPlace Prober.echo_tagwise accepted rfl
    (by decide +kernel) allowed opened carried (by decide +kernel)
  have placed : Twins.filed.InPlace "" Twins.options Prober.echo (Path.ofString "lib/song.mp3") :=
    stable "" Twins.options Twins.filed _ rfl rfl rfl again
  exact ⟨Prober.echo_tagwise, accepted, rfl, opened, carried, again, placed,
    placed.skipped heard (.inl (by decide +kernel))⟩

end MusicFiling
