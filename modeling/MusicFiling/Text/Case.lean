import MusicFiling.Text.Case.Table

/-!
# Upper and lower case

Full case conversion: a character may become several, and a capital sigma at the end of a word
takes its final form. Tag names are compared in upper case, file extensions in lower case.
-/

namespace MusicFiling.Text

/-- What a case table makes of a character: its single image, its expansion, or the character. -/
def caseImage (runs : List CaseRun) (expansions : List (Nat × List Nat)) (c : Char) : List Char :=
  match runs.findSome? (·.image? c.toNat) with
  | some code => [Char.ofNat code]
  | none =>
    match expansions.lookup c.toNat with
    | some codes => codes.map Char.ofNat
    | none => [c]

/-- The upper-case form of one character. -/
def upperChar (c : Char) : List Char :=
  caseImage upperRuns upperExpansions c

/-- The lower-case form of one character outside any context. -/
def lowerChar (c : Char) : List Char :=
  caseImage lowerRuns lowerExpansions c

/-- Characters over which the context of a sigma is read. -/
def isCaseIgnorable (c : Char) : Bool :=
  caseIgnorableRanges.any (·.contains c)

/-- Characters that make a sigma beside them part of a word. -/
def isCased (c : Char) : Bool :=
  casedRanges.any (·.contains c)

/-- The upper-case form of a text. -/
def upperChars (cs : List Char) : List Char :=
  cs.flatMap upperChar

/-- Whether the first character that is not case-ignorable is cased. -/
def startsCased (cs : List Char) : Bool :=
  match cs.find? (fun c => !isCaseIgnorable c) with
  | some c => isCased c
  | none => false

/-- The lower-case form of a text, given whether a cased character stands right before it,
    case-ignorable ones left out. -/
def lowerCharsAfter (cased : Bool) : List Char → List Char
  | [] => []
  | c :: rest =>
    let image := if c = 'Σ' ∧ cased ∧ !startsCased rest then ['ς'] else lowerChar c
    image ++ lowerCharsAfter (if isCaseIgnorable c then cased else isCased c) rest

/-- The upper-case form of a string. -/
def upper (s : String) : String :=
  String.ofList (upperChars s.toList)

/-- The lower-case form of a string. -/
def lower (s : String) : String :=
  String.ofList (lowerCharsAfter false s.toList)

end MusicFiling.Text
