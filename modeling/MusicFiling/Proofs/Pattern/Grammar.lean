import MusicFiling.Proofs.Pattern.Rules

/-!
# The grammar of patterns

A pattern is a sequence of segments: ordinary characters, and tokens made of names and an optional
tail. Every segment has a meaning of its own, and reading the text that spells segments yields their
meanings one after another (`compilePattern_spelling`).
-/

namespace MusicFiling.Pattern

/-- A name as a token writes it, with the tag that it stands for. -/
structure TagName where
  text : List Char
  tag : Tag
  ordinary : ∀ c ∈ text, Ordinary c
  named : Tag.ofName? (String.ofList text) = some tag

/-- What a token may write after the addendum marker. -/
structure Tail where
  text : List Char
  unclosed : closer ∉ text

/-- A token: names, of which later ones stand in for earlier ones, and perhaps a tail. -/
structure Token where
  first : TagName
  others : List TagName
  tail : Option Tail

/-- A piece of a pattern that is read by itself. -/
inductive Segment where
  | literal (c : Char) (ordinary : Ordinary c)
  | token (t : Token)

/-- The text of a tail with its marker, if there is one. -/
def tailSpelling : Option Tail → List Char
  | none => []
  | some tail => addendumMarker :: tail.text

/-- The text of the names after the first one and of the tail. -/
def spellingAfterName (others : List TagName) (tail : Option Tail) : List Char :=
  others.flatMap (fun name => fallbackMarker :: name.text) ++ tailSpelling tail

/-- The text of a token. -/
def Token.spelling (t : Token) : List Char :=
  opener :: (t.first.text ++ (spellingAfterName t.others t.tail ++ [closer]))

/-- The text of a segment. -/
def Segment.spelling : Segment → List Char
  | .literal c _ => [c]
  | .token t => t.spelling

/-- The pattern that spells segments. -/
def spelling (segments : List Segment) : String :=
  String.ofList (segments.flatMap Segment.spelling)

/-- The part of a tail that may follow a value: everything before a further marker. -/
def Tail.addendum (tail : Tail) : List Char :=
  tail.text.takeWhile fun c => c ≠ fallbackMarker ∧ c ≠ addendumMarker

section
variable (source : TagSource) (placeholder : String)

/-- The value of the first name whose tag is present. -/
def firstPresent (names : List TagName) : Option String :=
  names.findSome? fun name => source name.tag

/-- The fragments of a token. The value of the first present tag stands for it, and the addendum
    follows the value of a token with a single name. Where no tag is present a token with a tail
    vanishes and any other leaves the placeholder. -/
def Token.meaning (t : Token) : List String :=
  match firstPresent source (t.first :: t.others), t.tail with
  | some value, some tail =>
    sanitize placeholder value :: if t.others = [] then tail.addendum.map Char.toString else []
  | some value, none => [sanitize placeholder value]
  | none, some _ => []
  | none, none => [placeholder]

/-- The fragments of a segment. -/
def Segment.meaning : Segment → List String
  | .literal c _ => [c.toString]
  | .token t => t.meaning source placeholder

private theorem named_reverse (name : TagName) :
    Tag.ofName? (String.ofList name.text.reverse.reverse) = some name.tag := by
  rw [List.reverse_reverse, name.named]

private theorem closer_not_mem_text (name : TagName) : closer ∉ name.text :=
  fun member => (name.ordinary closer member).ne_closer rfl

private theorem closer_not_mem_tailSpelling (tail : Option Tail) : closer ∉ tailSpelling tail := by
  cases tail with
  | none => exact List.not_mem_nil
  | some tail =>
    simp only [tailSpelling, List.mem_cons, not_or]
    exact ⟨by decide, tail.unclosed⟩

private theorem closer_not_mem_spellingAfterName (others : List TagName) (tail : Option Tail) :
    closer ∉ spellingAfterName others tail := by
  simp only [spellingAfterName, List.mem_append, List.mem_flatMap, List.mem_cons, not_or]
  refine ⟨?_, closer_not_mem_tailSpelling tail⟩
  rintro ⟨name, -, marker | member⟩
  · revert marker
    decide
  · exact closer_not_mem_text name member

/-- A marker after a name settles the name. -/
private theorem read_name_marker (openedAt position : Nat) (fallback : Bool)
    (fragments : List String) (name : TagName) {c : Char} (marker : c ∈ markers)
    (rest : List Char) :
    Scan.read source placeholder ⟨position, .naming openedAt [] fallback, fragments⟩
        (name.text ++ c :: rest) =
      (Scan.settle source placeholder
        ⟨position + name.text.length, .naming openedAt name.text.reverse fallback, fragments⟩
        openedAt name.text.reverse fallback c >>= fun next =>
          next.read source placeholder rest) := by
  rw [Scan.read_append_of_read source placeholder _
    (Scan.read_naming_ordinary source placeholder openedAt fallback fragments name.ordinary position
      []),
    Scan.read_cons, List.append_nil, Scan.step_naming_marker marker]

/-- The fragments of the rest of a token from one of its names on; `fallback` tells whether names
    stand before it. -/
private def meaningFrom (fallback : Bool) (name : TagName) (others : List TagName)
    (tail : Option Tail) : List String :=
  match firstPresent source (name :: others), tail with
  | some value, some tail =>
    sanitize placeholder value ::
      if others = [] ∧ !fallback then tail.addendum.map Char.toString else []
  | some value, none => [sanitize placeholder value]
  | none, some _ => []
  | none, none => [placeholder]

private theorem read_from_present (openedAt position : Nat) (fallback : Bool)
    (fragments : List String) (name : TagName) (others : List TagName) (tail : Option Tail)
    {value : String} (present : source name.tag = some value) :
    Scan.read source placeholder ⟨position, .naming openedAt [] fallback, fragments⟩
        (name.text ++ (spellingAfterName others tail ++ [closer])) =
      .ok ⟨position + (name.text ++ (spellingAfterName others tail ++ [closer])).length, .plain,
        (meaningFrom source placeholder fallback name others tail).reverse ++ fragments⟩ := by
  have found : firstPresent source (name :: others) = some value := by
    simp [firstPresent, present]
  cases others with
  | cons next more =>
    have unclosed := closer_not_mem_spellingAfterName (next :: more) tail
    simp only [spellingAfterName, List.flatMap_cons, List.cons_append, List.mem_cons, not_or]
      at unclosed ⊢
    rw [read_name_marker source placeholder _ _ _ _ _ fallbackMarker_mem_markers,
      Scan.settle_present (named_reverse name) present]
    simp only [bind, Except.bind, Scan.emit, show fallbackMarker ≠ closer by decide,
      show fallbackMarker ≠ addendumMarker by decide, false_and, if_false]
    rw [Scan.read_skipping_closed source placeholder _ _ unclosed.2]
    cases tail <;> simp [meaningFrom, found, Nat.add_assoc, Nat.add_comm 1]
  | nil =>
    cases tail with
    | none =>
      simp only [spellingAfterName, List.flatMap_nil, tailSpelling, List.nil_append]
      rw [read_name_marker source placeholder _ _ _ _ _ closer_mem_markers,
        Scan.settle_present (named_reverse name) present]
      simp [bind, Except.bind, Scan.emit, meaningFrom, found, Nat.add_assoc]
    | some tail =>
      simp only [spellingAfterName, List.flatMap_nil, tailSpelling, List.nil_append,
        List.cons_append]
      rw [read_name_marker source placeholder _ _ _ _ _ addendumMarker_mem_markers,
        Scan.settle_present (named_reverse name) present]
      simp only [bind, Except.bind, Scan.emit, show addendumMarker ≠ closer by decide, if_false,
        true_and]
      cases fallback with
      | true =>
        simp only [Bool.not_true, Bool.false_eq_true, if_false]
        rw [Scan.read_skipping_closed source placeholder _ _ tail.unclosed]
        simp [meaningFrom, found, Nat.add_assoc, Nat.add_comm 1]
      | false =>
        simp only [Bool.not_false, if_true]
        rw [Scan.read_addendum_closed source placeholder _ tail.unclosed]
        simp [meaningFrom, found, Tail.addendum, Nat.add_assoc, Nat.add_comm 1]

/-- The induction is on the names to come: a missing tag hands over to the next one. -/
private theorem read_from_name (openedAt : Nat) (others : List TagName) (tail : Option Tail)
    (position : Nat) (fallback : Bool) (fragments : List String) (name : TagName) :
    Scan.read source placeholder ⟨position, .naming openedAt [] fallback, fragments⟩
        (name.text ++ (spellingAfterName others tail ++ [closer])) =
      .ok ⟨position + (name.text ++ (spellingAfterName others tail ++ [closer])).length, .plain,
        (meaningFrom source placeholder fallback name others tail).reverse ++ fragments⟩ := by
  induction others generalizing position fallback name with
  | nil =>
    cases tag : source name.tag with
    | some value =>
      exact read_from_present source placeholder openedAt position fallback fragments name [] tail
        tag
    | none =>
      have found : firstPresent source [name] = none := by simp [firstPresent, tag]
      cases tail with
      | none =>
        simp only [spellingAfterName, List.flatMap_nil, tailSpelling, List.nil_append]
        rw [read_name_marker source placeholder _ _ _ _ _ closer_mem_markers,
          Scan.settle_missing (named_reverse name) tag]
        simp [bind, Except.bind, Scan.emit, meaningFrom, found, Nat.add_assoc,
          show closer ≠ fallbackMarker by decide]
      | some tail =>
        simp only [spellingAfterName, List.flatMap_nil, tailSpelling, List.nil_append,
          List.cons_append]
        rw [read_name_marker source placeholder _ _ _ _ _ addendumMarker_mem_markers,
          Scan.settle_missing (named_reverse name) tag]
        simp only [bind, Except.bind, Scan.enter, show addendumMarker ≠ fallbackMarker by decide,
          show addendumMarker ≠ closer by decide, if_false]
        rw [Scan.read_skipping_closed source placeholder _ _ tail.unclosed]
        simp [meaningFrom, found, Nat.add_assoc, Nat.add_comm 1]
  | cons next more ih =>
    cases tag : source name.tag with
    | some value =>
      exact read_from_present source placeholder openedAt position fallback fragments name
        (next :: more) tail tag
    | none =>
      have handed : meaningFrom source placeholder fallback name (next :: more) tail =
          meaningFrom source placeholder true next more tail := by
        simp [meaningFrom, firstPresent, tag]
      have spelled : spellingAfterName (next :: more) tail ++ [closer] =
          fallbackMarker :: (next.text ++ (spellingAfterName more tail ++ [closer])) := by
        simp [spellingAfterName]
      rw [spelled, read_name_marker source placeholder _ _ _ _ _ fallbackMarker_mem_markers,
        Scan.settle_missing (named_reverse name) tag, if_pos rfl]
      simp only [bind, Except.bind, Scan.enter]
      rw [ih, handed]
      simp [Nat.add_assoc, Nat.add_comm 1]

private theorem read_segment (segment : Segment) (position : Nat) (fragments : List String) :
    Scan.read source placeholder ⟨position, .plain, fragments⟩ segment.spelling =
      .ok ⟨position + segment.spelling.length, .plain,
        (segment.meaning source placeholder).reverse ++ fragments⟩ := by
  cases segment with
  | literal c ordinary =>
    exact Scan.read_cons_of_step source placeholder []
      (Scan.step_plain_ordinary ordinary)
  | token t =>
    have meant : meaningFrom source placeholder false t.first t.others t.tail =
        t.meaning source placeholder := by
      simp [meaningFrom, Token.meaning]
    simp only [Segment.spelling, Token.spelling, Segment.meaning]
    rw [Scan.read_cons_of_step source placeholder _
      Scan.step_plain_opener, read_from_name, meant]
    simp [Nat.add_assoc, Nat.add_comm 1]

theorem read_segments (segments : List Segment) (position : Nat) (fragments : List String) :
    Scan.read source placeholder ⟨position, .plain, fragments⟩
        (segments.flatMap Segment.spelling) =
      .ok ⟨position + (segments.flatMap Segment.spelling).length, .plain,
        (segments.flatMap (Segment.meaning source placeholder)).reverse ++ fragments⟩ := by
  induction segments generalizing position fragments with
  | nil => rfl
  | cons segment rest ih =>
    rw [List.flatMap_cons, Scan.read_append_of_read source placeholder _
      (read_segment source placeholder segment position fragments), ih]
    simp [Nat.add_assoc]

/-- The text that spells segments is read as their meanings in order, whatever tags are present. -/
theorem compilePattern_spelling (segments : List Segment) :
    compilePattern source placeholder (spelling segments) =
      .ok (segments.flatMap (Segment.meaning source placeholder)) := by
  rw [Scan.compilePattern_eq_read, spelling, String.toList_ofList, Scan.start,
    read_segments source placeholder segments 0 []]
  simp [bind, Except.bind, Scan.finish]

variable {source placeholder} in
/-- A pattern that can be read may go on with segments. -/
theorem compilePattern_append {pattern : String} {fragments : List String}
    (readable : compilePattern source placeholder pattern = .ok fragments)
    (segments : List Segment) :
    compilePattern source placeholder (pattern ++ spelling segments) =
      .ok (fragments ++ segments.flatMap (Segment.meaning source placeholder)) := by
  obtain ⟨pieces, outline, rfl⟩ := compilePattern_eq_ok_iff.mp readable
  rw [Scan.compilePattern_eq_read, spelling, String.toList_append, String.toList_ofList, Scan.start,
    Scan.read_append_of_read source placeholder _ (read_of_yields placeholder outline []),
    read_segments]
  simp [bind, Except.bind, Scan.finish]

end

end MusicFiling.Pattern
