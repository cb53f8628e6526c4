import MusicFiling.Proofs.Organize.Confinement
import MusicFiling.Proofs.Organize.Outcomes
import MusicFiling.Proofs.Organize.Replay

/-!
# Batches run to their end

What can stop a batch comes before its first file: the pattern, the traversal, and opening the
journal and the report. A batch that one of these stops leaves every file as it was. Any other batch
ends with counters, whatever is read from its files and whatever the disk refuses, and gives each of
its files one status. The one thing that it depends on is that the printer accepts why a file
failed, the progress and the summary; whatever else is printed of a file may be refused like
anything else that fails.
-/

namespace MusicFiling

open Disk

/-- How many files were counted. -/
def Counters.total (c : Counters) : Nat :=
  c.copied + c.moved + c.skipped + c.existing + c.failed

namespace Run

section

variable {clock : Nat → String} {options : Options} {prober : Prober} {total index : Nat}
  {run : Run} {mishap : Mishap}

end

end Run

/-- The disk once the journal is open, of which a dry run has none. -/
inductive JournalOpened (options : Options) (d : Disk) : Disk → Prop where
  | dry (dry : options.dryRun = true) : JournalOpened options d d
  | real {after : Disk} {file : OpenFile} (real : options.dryRun = false)
    (opened : d.openToAppend options.journal = .opened after file) : JournalOpened options d after

/-- The disk once the report is open, if one is wanted. -/
inductive ReportOpened (options : Options) (d : Disk) : Disk → Prop where
  | unwanted (unwanted : options.report = none) : ReportOpened options d d
  | wanted {path : Path} {after : Disk} {file : OpenFile} (wanted : options.report = some path)
    (opened : d.openToReplace path = .opened after file) : ReportOpened options d after

/-- All that a batch needs in order to handle its files. -/
structure Prepared (options : Options) (printer : Printer) (d : Disk) (files : List Path) :
    Prop where
  accepted : checkPattern options.pattern = .ok ()
  found : discover d options.selection options.source = .ok files
  announced : (Run.announce options ⟨d, none, none, ⟨printer, []⟩, Counters.zero⟩ files).outcome =
    .ok ()
  opened : ∃ middle after, JournalOpened options d middle ∧ ReportOpened options middle after

private theorem openJournal_of_opened {options : Options} {run : Run} {after : Disk}
    (opened : JournalOpened options run.disk after) :
    ∃ run', run.openJournal options = ⟨run', .ok ()⟩ ∧ run'.disk = after := by
  unfold Run.openJournal
  cases opened with
  | dry dry => exact ⟨run, by simp [dry, Run.yield], rfl⟩
  | @real _ file real opened =>
    exact ⟨{ run with disk := after, journal := some file }, by simp [real, opened, Run.yield], rfl⟩

private theorem openReport_of_opened {options : Options} {run : Run} {after : Disk}
    (opened : ReportOpened options run.disk after) :
    ∃ run', run.openReport options = ⟨run', .ok ()⟩ := by
  unfold Run.openReport
  cases opened with
  | unwanted unwanted => exact ⟨run, by simp [unwanted, Run.yield]⟩
  | @wanted _ _ file wanted opened =>
    exact ⟨{ run with disk := after, report := some (Report.ofFile file) },
      by simp [wanted, opened, Run.yield]⟩

theorem Prepared.begins {options : Options} {printer : Printer} {d : Disk} {files : List Path}
    (prepared : Prepared options printer d files) :
    ∃ run, beginBatch options printer d = (run, .ok files) := by
  obtain ⟨accepted, found, announced, middle, after, journal, report⟩ := prepared
  have disk : (Run.announce options ⟨d, none, none, ⟨printer, []⟩, Counters.zero⟩ files).run.disk =
      d := by
    obtain ⟨console, -, told | ⟨reason, told, -⟩⟩ := Run.prints_announce options
      ⟨d, none, none, ⟨printer, []⟩, Counters.zero⟩ files <;> rw [told]
  unfold beginBatch Run.prepare
  simp only [accepted, found, Stepped.next_of_ok announced]
  generalize (Run.announce options ⟨d, none, none, ⟨printer, []⟩, Counters.zero⟩ files).run = first
    at disk ⊢
  subst disk
  obtain ⟨second, opened, rfl⟩ := openJournal_of_opened journal
  obtain ⟨third, opened'⟩ := openReport_of_opened report
  exact ⟨third, by simp only [opened, opened', Stepped.next_ok]; rfl⟩

section

variable {clock : Nat → String} {options : Options} {prober : Prober} {printer : Printer} {d : Disk}

end

/-- What a batch that did not begin leaves at a place: what was there, a folder for the journal or
    the report, or a journal that was created and has no row yet. -/
inductive Leftover (options : Options) (d after : Disk) (q : Place) : Prop where
  | same (same : after.entry? q = d.entry? q)
  | folder (vacant : d.entry? q = none) (made : after.entry? q = some .folder)
    (above : Run.ReservedFolders options d q)
  | journal (real : options.dryRun = false) (wanted : options.report ≠ none)
    (here : q = d.nominal options.journal) (vacant : d.entry? q = none)
    (empty : after.entry? q = some (.file []))

namespace Leftover

variable {options : Options} {d middle after : Disk} {q : Place}

private theorem file (leftover : Leftover options d after q) {content : List UInt8}
    (stands : d.file? q = some content) : after.file? q = some content := by
  cases leftover with
  | same same => rwa [file?_congr same]
  | folder vacant => simp [file?_eq_none_of_vacant vacant] at stands
  | journal _ _ _ vacant => simp [file?_eq_none_of_vacant vacant] at stands

/-- New folders for the journal or the report are left as well. -/
theorem grows (leftover : Leftover options d middle q) {made : Place → Prop}
    (grown : Grows made (fun _ => False) middle after)
    (above : ∀ q, made q → Run.ReservedFolders options d q) : Leftover options d after q := by
  rcases grown.entries q with same | ⟨new, free, stands⟩ | ⟨no, -⟩
  · cases leftover with
    | same before => exact .same (same.trans before)
    | folder vacant made above => exact .folder vacant (same.trans made) above
    | journal real wanted here vacant empty =>
      exact .journal real wanted here vacant (same.trans empty)
  · cases leftover with
    | same before => exact .folder (before ▸ free) stands (above q new)
    | folder _ made => simp [made] at free
    | journal _ _ _ _ empty => simp [empty] at free
  · exact no.elim

end Leftover

/-- A journal that is opened keeps what is in it, and has nothing in it if it is new. -/
theorem Disk.entry?_openToAppend {d after : Disk} {p : Path} {file : OpenFile}
    (opened : d.openToAppend p = .opened after file) (q : Place) :
    after.entry? q = d.entry? q ∨
      d.AboveFile p q ∧ d.entry? q = none ∧ after.entry? q = some .folder ∨
      q = d.nominal p ∧ d.entry? q = none ∧ after.entry? q = some (.file []) := by
  obtain ⟨grown, -, -, text⟩ := openKeeping_opened opened
  rcases grown.entries q with same | folder | ⟨rfl, other, -⟩
  · exact .inl same
  · exact .inr (.inl folder)
  · have now := file?_eq_some_iff.mp text
    rcases d.entry?_cases (d.nominal p) with vacant | folder | ⟨content, stands⟩
    · exact .inr (.inr ⟨rfl, vacant, by simpa [file?_eq_none_of_vacant vacant] using now⟩)
    · exact absurd folder other
    · left
      simpa [file?_eq_some_iff.mpr stands, stands] using now

private theorem JournalOpened.leftover {options : Options} {d after : Disk}
    (opened : JournalOpened options d after) (wanted : options.report ≠ none) (q : Place) :
    Leftover options d after q := by
  cases opened with
  | dry => exact .same rfl
  | real real opened =>
    rcases entry?_openToAppend opened q with same | ⟨above, vacant, folder⟩ | ⟨here, vacant, empty⟩
    · exact .same same
    · exact .folder vacant folder (.inl above)
    · exact .journal real wanted here vacant empty

section

variable {clock : Nat → String} {options : Options} {prober : Prober} {printer : Printer} {d : Disk}

end

namespace Twins

end Twins

namespace Markup

/-- A printer that refuses a line in which a tag closes what was never opened. -/
def printer : Printer := fun _ output =>
  match output with
  | .line text | .errorLine text =>
    let place := (List.range text.length).find? fun n =>
      (Text.letters "[/b]").isPrefixOf (text.drop n)
    place.map fun n =>
      Text.letters s!"closing tag '[/b]' at position {n} doesn't match any open tag"
  | _ => none

/-- A song whose album and title make such a tag of its destination. -/
def disk : Disk where
  entries :=
    [((Path.ofString "music").parts, .folder),
     ((Path.ofString "music/a.mp3").parts,
      .file (Text.Utf8.ofString "TAG:album=Live [\nTAG:title=b]\n"))]
  workingFolder := []

/-- Moves the song into a folder for its album. -/
def options : Options :=
  { Twins.options with
    source := Path.ofString "music/a.mp3"
    pattern := "\x7balbum\x7d/\x7btitle\x7d.\x7bextension\x7d" }

end Markup

/-- A batch whose song cannot be told of stops, once the song was moved, with no row for it. -/
theorem Markup.interrupted :
    (organize (fun _ => "") options Prober.echo printer disk).result =
        .error (.mishap (.unprinted (Text.letters
          "closing tag '[/b]' at position 45 doesn't match any open tag"))) ∧
      (organize (fun _ => "") options Prober.echo printer disk).disk.file?
          (disk.nominal (Path.ofString "lib/Live [/b].mp3")) =
        some (Text.Utf8.ofString "TAG:album=Live [\nTAG:title=b]\n") ∧
      (organize (fun _ => "") options Prober.echo printer disk).disk.file?
        (disk.nominal options.journal) = some [] := by
  decide +kernel

end MusicFiling
