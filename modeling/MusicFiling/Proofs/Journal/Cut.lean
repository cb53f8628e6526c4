import MusicFiling.Proofs.Csv.Cut
import MusicFiling.Proofs.Journal.Sessions

/-!
# Journals that break off

A journal whose text breaks off, as it does when the disk is full, still has the rows before the
break. The row in which it breaks off has too few fields to count, unless it breaks off within the
destination: then the operation is read with what is left of its destination, which is another path
unless nothing that matters to the path is lost.
-/

namespace MusicFiling

open Disk

namespace Journal

/-- The journal's text without all but its first `n` characters. -/
def cutShort (journal : Path) (n : Nat) (d : Disk) : Disk :=
  match d.openForReading journal with
  | .ok (place, bytes) =>
    d.put place (.file (Text.Utf8.encode ((Text.Utf8.decodeStrict bytes).text.take n)))
  | .error _ => d

section

variable (time : String) (op : Operation)

/-- How many characters of an operation's row come before its destination. -/
def leadWidth : Nat :=
  (Csv.fieldChars time.toList).length + 1 + ((Csv.fieldChars op.action.text.toList).length + 1) +
    ((Csv.fieldChars op.source.toString.toList).length + 1)

/-- How many characters a destination takes in its row. -/
def destinationWidth : Nat :=
  (Csv.fieldChars op.destination.toString.toList).length

/-- The path that is read where the first `m` characters of a destination are left. -/
def cutDestination (m : Nat) : Path :=
  Path.ofString (String.ofList (Csv.legible op.destination.toString.toList m))

/-- What is read of an operation of whose row the first `n` characters are left. -/
def cutOperation? (n : Nat) : Option Operation :=
  if n < leadWidth time op then none
  else some { op with destination := cutDestination op (n - leadWidth time op) }

end

/-- What is read of a journal of which the first `n` characters are left. -/
def remnant : List (String × Operation) → Nat → List Operation
  | [], _ => []
  | e :: rest, n =>
    let width := (rowChars e.1 e.2).length
    if n < width then (cutOperation? e.1 e.2 n).toList else e.2 :: remnant rest (n - width)

/-- A journal breaks off within a destination, and what is left of it is another path. -/
def Garbled (entries : List (String × Operation)) (n : Nat) : Prop :=
  ∃ before e after m, entries = before ++ e :: after ∧
    n = (text before).length + (leadWidth e.1 e.2 + m) ∧ m < destinationWidth e.2 ∧
    cutDestination e.2 m ≠ e.2.destination

/-- No field of which something is left is too large to be read. -/
def Limited (entries : List (String × Operation)) (n : Nat) : Prop :=
  ∀ row ∈ Csv.cutRows (entries.map fun e => fields e.1 e.2) n, ∀ field ∈ row,
    field.length ≤ Csv.fieldLimit

instance (entries : List (String × Operation)) (n : Nat) : Decidable (Limited entries n) :=
  inferInstanceAs (Decidable (∀ row ∈ _, ∀ field ∈ row, _))

private theorem length_row (time : String) (op : Operation) :
    (rowChars time op).length = leadWidth time op + destinationWidth op + 2 := by
  simp only [rowChars, fields, Csv.rowChars_cons, Csv.rowChars_single, leadWidth,
    destinationWidth, List.length_append, List.length_cons, List.length_nil]
  omega

/-- A destination that is left as a whole is read as it was. -/
theorem cutDestination_whole {op : Operation} (plain : op.IsText) {m : Nat}
    (whole : destinationWidth op ≤ m) : cutDestination op m = op.destination := by
  rw [cutDestination, Csv.legible_whole whole, String.ofList_toList,
    Path.ofString_toString plain.2]

/-- A row with fewer than four fields is none of an operation, and one with four has lost at most a
    part of the destination. -/
theorem operation?_cutRow (time : String) {op : Operation} (plain : op.IsText) (n : Nat) :
    operation? (Csv.cutRow (fields time op) n) = cutOperation? time op n := by
  unfold cutOperation? leadWidth
  simp only [fields, Csv.cutRow]
  generalize (Csv.fieldChars time.toList).length = t
  generalize (Csv.fieldChars op.action.text.toList).length = a
  generalize (Csv.fieldChars op.source.toString.toList).length = s
  by_cases inTime : n ≤ t
  · rw [if_pos inTime, if_pos (by omega)]
    rfl
  · rw [if_neg inTime]
    by_cases inAction : n - (t + 1) ≤ a
    · rw [if_pos inAction, if_pos (by omega)]
      rfl
    · rw [if_neg inAction]
      by_cases inSource : n - (t + 1) - (a + 1) ≤ s
      · rw [if_pos inSource, if_pos (by omega)]
        rfl
      · have start : n - (t + 1) - (a + 1) - (s + 1) = n - (t + 1 + (a + 1) + (s + 1)) := by omega
        rw [if_neg inSource, if_neg (by omega), start]
        simp [operation?, Action.ofText?_text, Path.ofString_toString plain.1, cutDestination]

/-- What is left of the rows of a journal gives what is left of its operations. -/
theorem filterMap_cutRows {entries : List (String × Operation)} (plain : ∀ e ∈ entries, e.2.IsText)
    (n : Nat) :
    (Csv.cutRows (entries.map fun e => fields e.1 e.2) n).filterMap operation? =
      remnant entries n := by
  induction entries generalizing n with
  | nil => rfl
  | cons e rest ih =>
    obtain ⟨here, later⟩ := List.forall_mem_cons.mp plain
    have row_eq : Csv.rowChars (fields e.1 e.2) = rowChars e.1 e.2 := rfl
    simp only [List.map_cons, Csv.cutRows, remnant, row_eq]
    by_cases nothing : n = 0
    · have positive : 0 < leadWidth e.1 e.2 := by unfold leadWidth; omega
      have short : n < (rowChars e.1 e.2).length := by rw [length_row]; omega
      rw [if_pos nothing, if_pos short, cutOperation?, if_pos (by omega)]
      rfl
    · rw [if_neg nothing]
      by_cases short : n < (rowChars e.1 e.2).length
      · rw [if_pos short, if_pos short, ← operation?_cutRow e.1 here]
        cases read : operation? (Csv.cutRow (fields e.1 e.2) n) with
        | none => rw [List.filterMap_cons_none read, List.filterMap_nil, Option.toList_none]
        | some op => rw [List.filterMap_cons_some read, List.filterMap_nil, Option.toList_some]
      · rw [if_neg short, if_neg short, List.filterMap_cons_some (operation?_fields e.1 here),
          ih later]

/-- A journal that breaks off is read as what is left of it. -/
theorem ofBytes_take {entries : List (String × Operation)} (plain : ∀ e ∈ entries, e.2.IsText)
    (n : Nat) :
    ofBytes (Text.Utf8.encode ((text entries).take n)) =
      if Limited entries n then .ok (remnant entries n) else .error (.notRows .fieldTooLarge) := by
  have wide : ∀ row ∈ entries.map fun e => fields e.1 e.2, 1 < row.length := by
    intro row member
    obtain ⟨e, -, rfl⟩ := List.mem_map.mp member
    simp [fields]
  have rows : Csv.readRows ((text entries).take n) =
      if Limited entries n then .ok (Csv.cutRows (entries.map fun e => fields e.1 e.2) n)
      else .error .fieldTooLarge := by
    rw [text_eq]
    exact Csv.readRows_take _ wide n
  unfold ofBytes
  simp only [Text.Utf8.decodeStrict_encode, rows]
  by_cases limited : Limited entries n
  · rw [if_pos limited, if_pos limited]
    simp only [filterMap_cutRows plain]
  · rw [if_neg limited, if_neg limited]

/-- A journal that could be read as a whole can be read when it has broken off. -/
theorem limited_of_readable {entries : List (String × Operation)}
    (readable : ∀ e ∈ entries, Readable e.1 e.2) (n : Nat) : Limited entries n := by
  refine Csv.length_le_of_mem_cutRows ?_
  intro row member
  obtain ⟨e, inside, rfl⟩ := List.mem_map.mp member
  exact (readable e inside).fields

private theorem garbled_cons {e : String × Operation} (plain : e.2.IsText)
    {rest : List (String × Operation)} {n : Nat} :
    Garbled (e :: rest) n ↔
      if n < (rowChars e.1 e.2).length then
        leadWidth e.1 e.2 ≤ n ∧ cutDestination e.2 (n - leadWidth e.1 e.2) ≠ e.2.destination
      else Garbled rest (n - (rowChars e.1 e.2).length) := by
  have width := length_row e.1 e.2
  have within : ∀ m, cutDestination e.2 m ≠ e.2.destination → m < destinationWidth e.2 :=
    fun m other => Nat.not_le.mp fun whole => other (cutDestination_whole plain whole)
  have head : ∀ before : List (String × Operation),
      (text (e :: before)).length = (rowChars e.1 e.2).length + (text before).length := by
    intro before
    simp [text]
  split_ifs with short
  · constructor
    · rintro ⟨before, e', after, m, split, place, part, other⟩
      cases before with
      | nil =>
        obtain ⟨rfl, rfl⟩ := List.cons.inj split
        have start : n - leadWidth e.1 e.2 = m := by simp [text] at place; omega
        rw [start]
        exact ⟨by simp [text] at place; omega, other⟩
      | cons first before =>
        obtain ⟨rfl, -⟩ := List.cons.inj split
        rw [head] at place
        omega
    · rintro ⟨reached, other⟩
      exact ⟨[], e, rest, n - leadWidth e.1 e.2, rfl, by simp [text]; omega, within _ other, other⟩
  · constructor
    · rintro ⟨before, e', after, m, split, place, part, other⟩
      cases before with
      | nil =>
        obtain ⟨rfl, rfl⟩ := List.cons.inj split
        simp only [text, List.flatMap_nil, List.length_nil] at place
        omega
      | cons first before =>
        obtain ⟨rfl, others⟩ := List.cons.inj split
        rw [head] at place
        exact ⟨before, e', after, m, others, by omega, part, other⟩
    · rintro ⟨before, e', after, m, rfl, place, part, other⟩
      refine ⟨e :: before, e', after, m, rfl, ?_, part, other⟩
      rw [head]
      omega

/-- What is left of a journal is what comes first in it, unless a destination is garbled. -/
theorem remnant_prefix_iff {entries : List (String × Operation)}
    (plain : ∀ e ∈ entries, e.2.IsText) (n : Nat) :
    remnant entries n <+: entries.map Prod.snd ↔ ¬Garbled entries n := by
  induction entries generalizing n with
  | nil =>
    have sound : ¬Garbled [] n := by
      rintro ⟨before, e, after, m, split, -⟩
      simp at split
    simp [remnant, sound]
  | cons e rest ih =>
    obtain ⟨here, later⟩ := List.forall_mem_cons.mp plain
    rw [garbled_cons here, remnant]
    by_cases short : n < (rowChars e.1 e.2).length
    · simp only [short, if_true, List.map_cons, cutOperation?]
      by_cases early : n < leadWidth e.1 e.2
      · simp [early, Nat.not_le.mpr early]
      · simp only [early, if_false, Option.toList_some, Nat.not_lt.mp early, true_and, not_not]
        obtain ⟨time, action, source, destination⟩ := e
        simp
    · simp only [short, if_false, List.map_cons, List.prefix_cons_inj]
      exact ih later _

/-- What is read of a standing journal once it has broken off. -/
theorem Standing.read_broken {journal : Path} {place : Place}
    {entries : List (String × Operation)} {d : Disk} (standing : Standing journal place entries d)
    (plain : ∀ e ∈ entries, e.2.IsText) (n : Nat) :
    Journal.read (cutShort journal n d) journal =
      if Limited entries n then .ok (remnant entries n) else .error (.notRows .fieldTooLarge) := by
  obtain ⟨-, led, written⟩ := standing
  have stands := file?_eq_some_iff.mp written
  have opened : d.openForReading journal = .ok (place, Text.Utf8.encode (text entries)) :=
    openForReading_ok.mpr ⟨led, stands⟩
  have other : d.entry? place ≠ some .folder := by simp [stands]
  have left : cutShort journal n d =
      d.put place (.file (Text.Utf8.encode ((text entries).take n))) := by
    rw [cutShort, opened]
    simp only [Text.Utf8.decodeStrict_encode]
  have reopened : (cutShort journal n d).openForReading journal =
      .ok (place, Text.Utf8.encode ((text entries).take n)) := by
    rw [left]
    refine openForReading_ok.mpr ⟨(put_file_grows led other _).reach led, ?_⟩
    rw [entry?_put d (ne_nil_of_ne_folder other), if_pos rfl]
  rw [Journal.read, reopened]
  exact ofBytes_take plain n

/-- A journal that breaks off anywhere is read as what is left of it, and gives the first of its
    operations and no other unless it breaks off within a destination so that another path is
    left. -/
theorem read_cutShort {journal : Path} {d : Disk} (fresh : Fresh journal d)
    (first : List (String × Operation)) (others : List (List (String × Operation)))
    (plain : ∀ e ∈ (first :: others).flatten, e.2.IsText) (n : Nat) :
    let entries := (first :: others).flatten
    ∃ written, writeSessions journal (first :: others) d = some written ∧
      let left := read (cutShort journal n written) journal
      (left = if Limited entries n then .ok (remnant entries n)
        else .error (.notRows .fieldTooLarge)) ∧
      ((∃ ops, left = .ok ops ∧ ops <+: entries.map Prod.snd) ↔
        Limited entries n ∧ ¬Garbled entries n) := by
  obtain ⟨d', written, stands⟩ := fresh.writeSessions first others plain
  have left := stands.read_broken plain n
  refine ⟨d', written, left, ?_⟩
  rw [left, ← remnant_prefix_iff plain]
  constructor
  · rintro ⟨ops, same, comesFirst⟩
    split_ifs at same with limited
    obtain rfl := Except.ok.inj same
    exact ⟨limited, comesFirst⟩
  · rintro ⟨limited, comesFirst⟩
    exact ⟨_, if_pos limited, comesFirst⟩

namespace Torn

/-- A disk with nothing on it. -/
def disk : Disk :=
  ⟨[], []⟩

def journal : Path :=
  Path.ofString "log.csv"

def move : String × Operation :=
  ("2001-02-03T04:05:06",
    ⟨.move, Path.ofString "music/b, c.mp3", Path.ofString "lib/tune.mp3"⟩)

def copy : String × Operation :=
  ("2001-02-03T04:05:06", ⟨.copy, Path.ofString "music/a.mp3", Path.ofString "lib/song.mp3"⟩)

private theorem fresh : Fresh journal disk :=
  ⟨by decide +kernel, ⟨_, _, rfl⟩⟩

end Torn

/-- A journal that breaks off within the source of its second row has the first one left. -/
theorem read_cutShort_source :
    Fresh Torn.journal Torn.disk ∧ (∀ e ∈ [[Torn.move], [Torn.copy]].flatten, e.2.IsText) ∧
      ∃ written, writeSessions Torn.journal [[Torn.move], [Torn.copy]] Torn.disk = some written ∧
        ∃ ops, read (cutShort Torn.journal 85 written) Torn.journal = .ok ops ∧
          ops <+: [Torn.move.2, Torn.copy.2] := by
  have readable : ∀ e ∈ [Torn.move, Torn.copy], Readable e.1 e.2 := by
    intro e member
    simp only [List.mem_cons, List.not_mem_nil, or_false] at member
    rcases member with rfl | rfl
    · exact ⟨by decide +kernel, by decide +kernel, by decide +kernel, by decide +kernel⟩
    · exact ⟨by decide +kernel, by decide +kernel, by decide +kernel, by decide +kernel⟩
  have plain : ∀ e ∈ [Torn.move, Torn.copy], e.2.IsText := fun e member => (readable e member).plain
  have sound : ¬Garbled [Torn.move, Torn.copy] 85 := by
    rw [← remnant_prefix_iff plain]
    decide +kernel
  obtain ⟨d, written, -, whole⟩ := read_cutShort Torn.fresh [Torn.move] [[Torn.copy]] plain 85
  exact ⟨Torn.fresh, plain, d, written, whole.mpr ⟨limited_of_readable readable 85, sound⟩⟩

/-- A journal that breaks off within a destination names a path that no operation named. -/
theorem not_prefix_of_torn :
    Fresh Torn.journal Torn.disk ∧ Torn.copy.2.IsText ∧
      ∃ written, writeSessions Torn.journal [[Torn.copy]] Torn.disk = some written ∧
        ¬∃ ops, read (cutShort Torn.journal 43 written) Torn.journal = .ok ops ∧
          ops <+: [Torn.copy.2] := by
  have left : (writeSessions Torn.journal [[Torn.copy]] Torn.disk).map
      (fun written => read (cutShort Torn.journal 43 written) Torn.journal) =
        some (.ok [⟨.copy, Path.ofString "music/a.mp3", Path.ofString "lib/so"⟩]) := by
    decide +kernel
  obtain ⟨written, writes, left⟩ := Option.map_eq_some_iff.mp left
  refine ⟨Torn.fresh, by decide +kernel, written, writes, ?_⟩
  rintro ⟨ops, same, comesFirst⟩
  obtain rfl := Except.ok.inj (left.symm.trans same)
  revert comesFirst
  decide +kernel

end Journal

end MusicFiling
