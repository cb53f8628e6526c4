import MusicFiling.Proofs.Disk.Opening
import MusicFiling.Proofs.Journal

/-!
# Journals written in several sessions

A session opens a journal, records operations and closes it. A journal that could be opened once can
be opened again, and each session adds its rows at the end, so the operations of all sessions are
read back one after another. A session in which a row cannot be written stops there.
-/

namespace MusicFiling

open Disk

namespace Journal

/-- Records operations, each with the time at which it was done. -/
def recordAll (entries : List (String × Operation)) (file : OpenFile) (d : Disk) :
    Except Text.Utf8.Unwritable Disk :=
  entries.foldlM (fun d e => record e.1 e.2 file d) d

/-- Opens a journal and records operations in it, if both can be done. -/
def session (journal : Path) (entries : List (String × Operation)) (d : Disk) : Option Disk :=
  match d.openToAppend journal with
  | .opened d file => (recordAll entries file d).toOption
  | .failed _ _ => none

/-- Sessions one after another. -/
def writeSessions (journal : Path) (sessions : List (List (String × Operation))) (d : Disk) :
    Option Disk :=
  sessions.foldlM (fun d entries => session journal entries d) d

/-- Nothing was recorded in a journal yet, which can be opened: no file stands at its place, or an
    empty one. -/
structure Fresh (journal : Path) (d : Disk) : Prop where
  empty : (d.file? (d.nominal journal)).getD [] = []
  opens : ∃ opened file, d.openToAppend journal = .opened opened file

private theorem append_grows (bytes : List UInt8) (place : Place) (d : Disk) :
    Grows (fun _ => False) (· = place) d (OpenFile.append ⟨some place⟩ bytes d) := by
  refine (OpenFile.modify_grows ⟨some place⟩ _ d).mono (fun _ => id) ?_
  intro q same
  exact (Option.some.inj same).symm

/-- The rows of operations whose paths are text are added, and nothing else changes. -/
theorem recordAll_spec {place : Place} {before : List (String × Operation)} {d : Disk}
    (written : d.file? place = some (Text.Utf8.encode (text before)))
    {entries : List (String × Operation)} (plain : ∀ e ∈ entries, e.2.IsText) :
    ∃ d', recordAll entries ⟨some place⟩ d = .ok d' ∧
      Grows (fun _ => False) (· = place) d d' ∧
      d'.file? place = some (Text.Utf8.encode (text (before ++ entries))) := by
  induction entries generalizing before d with
  | nil =>
    refine ⟨d, rfl, Grows.refl _ _ d, ?_⟩
    simpa using written
  | cons e rest ih =>
    obtain ⟨here, later⟩ := List.forall_mem_cons.mp plain
    have first := record_of_isText e.1 here ⟨some place⟩ d
    have grown := append_grows (Text.Utf8.encode (rowChars e.1 e.2)) place d
    have added : (OpenFile.append ⟨some place⟩ (Text.Utf8.encode (rowChars e.1 e.2)) d).file?
        place = some (Text.Utf8.encode (text (before ++ [e]))) := by
      unfold OpenFile.append
      rw [OpenFile.file?_modify rfl, written, Option.map_some, text_append]
      simp [text, Text.Utf8.encode]
    obtain ⟨d', others, grown', all⟩ := ih added later
    rw [List.append_assoc, List.singleton_append] at all
    refine ⟨d', ?_, grown.trans grown', all⟩
    rw [recordAll, List.foldlM_cons, first]
    exact others

/-- A journal that was opened: its folder stands, and its file has the given entries. -/
structure Standing (journal : Path) (place : Place) (entries : List (String × Operation))
    (d : Disk) : Prop where
  home : d.isFolder journal.parent = true
  led : d.reach journal = .ok place
  written : d.file? place = some (Text.Utf8.encode (text entries))

private theorem Fresh.session {journal : Path} {d : Disk} (fresh : Fresh journal d)
    {entries : List (String × Operation)} (plain : ∀ e ∈ entries, e.2.IsText) :
    ∃ d', session journal entries d = some d' ∧
      Standing journal (d.nominal journal) entries d' := by
  obtain ⟨empty, opened, file, opens⟩ := fresh
  obtain ⟨-, rfl, led, content⟩ := openKeeping_opened opens
  have blank : opened.file? (d.nominal journal) = some (Text.Utf8.encode (text [])) := by
    rw [content, id, empty]
    rfl
  obtain ⟨d', recorded, grown, written⟩ := recordAll_spec blank plain
  refine ⟨d', ?_, grown.isFolder (openKeeping_isFolder_parent opens), grown.reach led, written⟩
  simp [Journal.session, opens, recorded, Except.toOption]

namespace Standing

variable {journal : Path} {place : Place} {before : List (String × Operation)} {d : Disk}
  (standing : Standing journal place before d)
include standing

private theorem opens : ∃ d', d.openToAppend journal = .opened d' ⟨some place⟩ ∧
    Standing journal place before d' := by
  obtain ⟨home, led, written⟩ := standing
  have other : d.entry? place ≠ some .folder := by simp [file?_eq_some_iff.mp written]
  have writable : d.openForWriting journal = .ok place := openForWriting_ok.mpr ⟨led, other⟩
  have grown := put_file_grows led other (Text.Utf8.encode (text before))
  refine ⟨d.put place (.file (Text.Utf8.encode (text before))), ?_, grown.isFolder home,
    grown.reach led, ?_⟩
  · simp [openToAppend, openKeeping, makeFolders_of_folder home, Attempt.done, writable, written]
  · rw [file?_eq_some_iff, entry?_put d (ne_nil_of_ne_folder other), if_pos rfl]

/-- A further session adds its rows. -/
theorem session {entries : List (String × Operation)} (plain : ∀ e ∈ entries, e.2.IsText) :
    ∃ d', session journal entries d = some d' ∧
      Standing journal place (before ++ entries) d' := by
  obtain ⟨opened, opens, home, led, written⟩ := standing.opens
  obtain ⟨d', recorded, grown, written'⟩ := recordAll_spec written plain
  refine ⟨d', ?_, grown.isFolder home, grown.reach led, written'⟩
  simp [Journal.session, opens, recorded, Except.toOption]

/-- So do any number of sessions; the induction is on those to come. -/
theorem writeSessions {sessions : List (List (String × Operation))}
    (plain : ∀ e ∈ sessions.flatten, e.2.IsText) :
    ∃ d', writeSessions journal sessions d = some d' ∧
      Standing journal place (before ++ sessions.flatten) d' := by
  induction sessions generalizing before d with
  | nil =>
    refine ⟨d, rfl, ?_⟩
    simpa using standing
  | cons entries rest ih =>
    rw [List.flatten_cons, List.forall_mem_append] at plain
    obtain ⟨middle, first, stands⟩ := standing.session plain.1
    obtain ⟨d', others, whole⟩ := ih stands plain.2
    rw [List.append_assoc, ← List.flatten_cons] at whole
    refine ⟨d', ?_, whole⟩
    rw [Journal.writeSessions, List.foldlM_cons, first]
    exact others

/-- The entries of a journal that stands are read back. -/
theorem read (readable : ∀ e ∈ before, Readable e.1 e.2) :
    read d journal = .ok (before.map Prod.snd) := by
  have opened := openForReading_ok.mpr
    ⟨standing.led, file?_eq_some_iff.mp standing.written⟩
  unfold Journal.read
  rw [opened]
  exact ofBytes_text readable

end Standing

/-- Sessions on a fresh journal leave it standing. -/
theorem Fresh.writeSessions {journal : Path} {d : Disk} (fresh : Fresh journal d)
    (first : List (String × Operation)) (others : List (List (String × Operation)))
    (plain : ∀ e ∈ (first :: others).flatten, e.2.IsText) :
    ∃ d', writeSessions journal (first :: others) d = some d' ∧
      Standing journal (d.nominal journal) (first :: others).flatten d' := by
  rw [List.flatten_cons, List.forall_mem_append] at plain
  obtain ⟨middle, opened, stands⟩ := fresh.session plain.1
  obtain ⟨d', done, whole⟩ := stands.writeSessions plain.2
  refine ⟨d', ?_, whole⟩
  rw [Journal.writeSessions, List.foldlM_cons, opened]
  exact done

/-- Operations that were recorded in a fresh journal, in one session or in several, are read back
    from it in order. -/
theorem read_writeSessions {journal : Path} {d : Disk} (fresh : Fresh journal d)
    (first : List (String × Operation)) (others : List (List (String × Operation)))
    (readable : ∀ e ∈ (first :: others).flatten, Readable e.1 e.2) :
    ∃ written, writeSessions journal (first :: others) d = some written ∧
      read written journal = .ok ((first :: others).flatten.map Prod.snd) := by
  obtain ⟨d', written, stands⟩ := fresh.writeSessions first others
    fun e member => (readable e member).plain
  exact ⟨d', written, stands.read readable⟩

namespace Awkward

/-- A disk with nothing on it. -/
def disk : Disk :=
  ⟨[], []⟩

def journal : Path :=
  Path.ofString "logs/new/../log.csv"

/-- An operation on files whose names have commas, quotes, line ends and null characters. -/
def first : String × Operation :=
  ("2024-05-01T12:00:00",
    ⟨.move, Path.ofString "a,\"b\"\r\n.mp3", Path.ofString "\r/\x00, \n\"\""⟩)

def second : String × Operation :=
  ("2024-05-01T12:00:01", ⟨.copy, Path.ofString " é ", Path.ofString "lib/\n"⟩)

end Awkward

/-- Three sessions, one of which records nothing. -/
theorem read_awkward :
    Fresh Awkward.journal Awkward.disk ∧
      (∀ e ∈ [[Awkward.first], [], [Awkward.second]].flatten, Readable e.1 e.2) ∧
      ∃ written, writeSessions Awkward.journal [[Awkward.first], [], [Awkward.second]]
          Awkward.disk = some written ∧
        read written Awkward.journal = .ok [Awkward.first.2, Awkward.second.2] := by
  have fresh : Fresh Awkward.journal Awkward.disk :=
    ⟨by decide +kernel, ⟨_, _, rfl⟩⟩
  have readable : ∀ e ∈ [[Awkward.first], [], [Awkward.second]].flatten, Readable e.1 e.2 := by
    intro e member
    simp only [List.flatten_cons, List.flatten_nil, List.append_nil, List.nil_append,
      List.singleton_append, List.mem_cons, List.not_mem_nil, or_false] at member
    rcases member with rfl | rfl
    · exact ⟨by decide +kernel, by decide +kernel, by decide +kernel, by decide +kernel⟩
    · exact ⟨by decide +kernel, by decide +kernel, by decide +kernel, by decide +kernel⟩
  exact ⟨fresh, readable, read_writeSessions fresh [Awkward.first] [[], [Awkward.second]] readable⟩

end Journal

end MusicFiling
