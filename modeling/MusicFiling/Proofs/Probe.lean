import MusicFiling.Probe
import MusicFiling.Proofs.Text.Lines
import MusicFiling.Proofs.Text.Utf8.Lenient
import Mathlib.Data.List.TakeWhile
import Mathlib.Tactic.SplitIfs

/-!
# Tag lines

A tag line shows a key and a value. Of a text that is put together from lines, whatever ends them,
exactly the pairs on its tag lines are read, in order, and every value to the end of its line. Bytes
that are no text change nothing beyond the line in which they stand.
-/

namespace MusicFiling

/-- A tag and its value as an assignment. -/
def assignmentText (pair : String × String) : String :=
  pair.1 ++ "=" ++ pair.2

/-- The line that the prober prints for a tag. -/
def tagLine (pair : String × String) : List Char :=
  "TAG:".toList ++ (assignmentText pair).toList

/-- A key that can be told from its value. -/
structure Separable (pair : String × String) : Prop where
  nonempty : pair.1 ≠ ""
  noEquals : '=' ∉ pair.1.toList

theorem toList_assignmentText (pair : String × String) :
    (assignmentText pair).toList = pair.1.toList ++ '=' :: pair.2.toList := by
  simp [assignmentText]

theorem takeWhile_key {key : List Char} (noEquals : '=' ∉ key) (value : List Char) :
    (key ++ '=' :: value).takeWhile (· ≠ '=') = key := by
  rw [List.takeWhile_append_of_pos]
  · simp
  · intro c member
    have other : c ≠ '=' := by
      rintro rfl
      exact noEquals member
    simpa using other

private theorem Separable.tagLine? {pair : String × String} (separable : Separable pair) :
    tagLine? (tagLine pair) = some pair := by
  have key : pair.1.toList.isEmpty = false := by
    simpa using separable.nonempty
  have marked : tagLine pair =
      'T' :: 'A' :: 'G' :: ':' :: (pair.1.toList ++ '=' :: pair.2.toList) := by
    rw [tagLine, toList_assignmentText]
    rfl
  simp only [marked, MusicFiling.tagLine?, takeWhile_key separable.noEquals, List.drop_left, key,
    String.ofList_toList, Bool.false_eq_true, if_false]

theorem filterMap_tagLine? {pairs : List (String × String)}
    (separable : ∀ pair ∈ pairs, Separable pair) :
    (pairs.map tagLine).filterMap tagLine? = pairs := by
  induction pairs with
  | nil => rfl
  | cons pair rest ih =>
    obtain ⟨first, others⟩ := List.forall_mem_cons.mp separable
    rw [List.map_cons, List.filterMap_cons_some first.tagLine?, ih others]

/-- A pair is read of the tag lines, and of no other line. -/
theorem tagLine?_eq_some_iff {line : List Char} {pair : String × String} :
    tagLine? line = some pair ↔ line = tagLine pair ∧ Separable pair := by
  constructor
  · intro told
    unfold tagLine? at told
    split at told
    case h_1 rest =>
      by_cases equals : '=' ∈ rest
      · obtain ⟨key, value, rfl, noEquals⟩ := List.eq_append_cons_of_mem equals
        simp only [takeWhile_key noEquals, List.drop_left] at told
        split_ifs at told with empty
        obtain rfl := Option.some.inj told
        refine ⟨by simp [tagLine, assignmentText], ⟨?_, by simpa using noEquals⟩⟩
        simpa using empty
      · have whole : rest.takeWhile (· ≠ '=') = rest := by
          refine List.takeWhile_eq_self_iff.mpr fun c member => decide_eq_true ?_
          rintro rfl
          exact equals member
        simp only [whole, List.drop_length] at told
        cases told
    case h_2 => cases told
  · rintro ⟨rfl, separable⟩
    exact separable.tagLine?

/-- The pairs that are read are those of the tag lines, in order: lines of the mark, a key that is
    not empty and has no equals sign, an equals sign, and the value. -/
theorem tagPairs_lines (ended : List Text.EndedLine) {last : List Char}
    (unbroken : Text.Unbroken last) :
    tagPairs (ended.flatMap Text.EndedLine.chars ++ last) =
        (ended.map Text.EndedLine.text ++ [last]).filterMap tagLine? ∧
      ∀ line key value, tagLine? line = some (key, value) ↔
        line = "TAG:".toList ++ (key ++ "=" ++ value).toList ∧ key ≠ "" ∧ '=' ∉ key.toList := by
  refine ⟨Text.filterMap_lines_chars rfl ended unbroken, fun line key value => ?_⟩
  rw [tagLine?_eq_some_iff]
  exact ⟨fun ⟨shown, nonempty, noEquals⟩ => ⟨shown, nonempty, noEquals⟩,
    fun ⟨shown, nonempty, noEquals⟩ => ⟨shown, nonempty, noEquals⟩⟩

/-- Lines with different ends, of which the first two are read as one. -/
def mixedLines : List Text.EndedLine :=
  [⟨"TAG:a=b=c ".toList, ['\r'], by decide, by decide⟩, ⟨[], ['\n'], by decide, by decide⟩,
   ⟨"TAG:=x".toList, ['\u2028'], by decide, by decide⟩,
   ⟨"TAG:index".toList, ['\r', '\n'], by decide, by decide⟩]

theorem tagPairs_mixed :
    Text.Unbroken "TAG:title= y".toList ∧
      tagPairs "TAG:a=b=c \r\nTAG:=x\u2028TAG:index\r\nTAG:title= y".toList =
        [("a", "b=c "), ("title", " y")] := by
  have unbroken : Text.Unbroken "TAG:title= y".toList := by decide
  have spelled : "TAG:a=b=c \r\nTAG:=x\u2028TAG:index\r\nTAG:title= y".toList =
      mixedLines.flatMap Text.EndedLine.chars ++ "TAG:title= y".toList := by decide +kernel
  rw [spelled, (tagPairs_lines mixedLines unbroken).1]
  exact ⟨unbroken, by decide +kernel⟩

private theorem tagPairs_probeText_eq (bytes : List UInt8) :
    tagPairs (probeText bytes) =
      (Text.lines (Text.Utf8.decodeLenient bytes)).filterMap tagLine? := by
  rw [tagPairs, probeText, Text.lines_unifyNewlines]

/-- Of output that is text the pairs of this text are read. -/
theorem tagPairs_probeText_encode (text : List Char) :
    tagPairs (probeText (Text.Utf8.encode text)) = tagPairs text := by
  rw [tagPairs_probeText_eq, Text.Utf8.decodeLenient_encode, tagPairs]

/-- A line feed cuts the output in two of which the pairs are read each by itself. -/
theorem tagPairs_probeText_lineFeed (a b : List UInt8) :
    tagPairs (probeText (a ++ 0x0A :: b)) = tagPairs (probeText a) ++ tagPairs (probeText b) := by
  simp only [tagPairs_probeText_eq]
  rw [Text.Utf8.decodeLenient_lineFeed]
  exact Text.filterMap_linesFrom_append rfl [] _ _

/-- Whatever bytes the lines of the output are, the pairs are those of each line by itself. -/
theorem tagPairs_probeText_intercalate (pieces : List (List UInt8)) :
    tagPairs (probeText (List.intercalate [0x0A] pieces)) =
      pieces.flatMap fun piece => tagPairs (probeText piece) := by
  induction pieces with
  | nil => rfl
  | cons first rest ih =>
    cases rest with
    | nil => simp
    | cons second rest =>
      rw [List.intercalate_cons_cons, List.append_assoc, List.singleton_append,
        tagPairs_probeText_lineFeed, ih]
      rfl

/-- A run of the prober that ends well always gives tags. They are those of the output before a line
    feed and of the output after it, each read by itself whatever its bytes are, and what is text is
    read as it stands. -/
theorem readTags_lineFeed (path : Path) (extension : Option String) (stderr : List UInt8) :
    (∀ stdout, ∃ tags, readTags true (.finished 0 stdout stderr) path extension = .ok tags) ∧
      (∀ a b, readTags true (.finished 0 (a ++ 0x0A :: b) stderr) path extension =
        .ok (Dictionary.ofPairs (tagPairs (probeText a) ++ tagPairs (probeText b))
          (extension.getD path.extension))) ∧
      ∀ text, tagPairs (probeText (Text.Utf8.encode text)) = tagPairs text := by
  have read : ∀ stdout, readTags true (.finished 0 stdout stderr) path extension =
      .ok (Dictionary.ofPairs (tagPairs (probeText stdout)) (extension.getD path.extension)) :=
    fun _ => rfl
  refine ⟨fun stdout => ⟨_, read stdout⟩, fun a b => ?_, tagPairs_probeText_encode⟩
  rw [read, tagPairs_probeText_lineFeed]

/-- A character that a line feed cuts short is replaced, and the next line is read. -/
example : tagPairs (probeText
      (Text.Utf8.ofString "TAG:a=b" ++ [0xE2, 0x82, 0x0A] ++ Text.Utf8.ofString "TAG:c=d")) =
    [("a", "b\uFFFD"), ("c", "d")] := by
  rfl

end MusicFiling
