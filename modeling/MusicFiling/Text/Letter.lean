/-!
# Letters

Names of files are bytes. Bytes that spell a character are read as that character; a byte that
belongs to none stands for itself, and a text may hold both. A stray byte is numbered among the
surrogates, which no character is. Classes of characters are given as ranges of code points.
-/

namespace MusicFiling

/-- A character, or a byte that belongs to none. -/
inductive Letter where
  | char (c : Char)
  | stray (byte : UInt8) (high : 0x80 ≤ byte)
  deriving DecidableEq, Repr

namespace Letter

/-- The number by which letters are ordered. -/
def code : Letter → Nat
  | .char c => c.toNat
  | .stray byte _ => 0xDC00 + byte.toNat

/-- The bytes that a letter takes in a name. -/
def size : Letter → Nat
  | .char c => c.utf8Size
  | .stray _ _ => 1

/-- Whether a letter is a character. -/
def isChar : Letter → Bool
  | .char _ => true
  | .stray _ _ => false

/-- The character that shows a letter. -/
def shown : Letter → Char
  | .char c => c
  | .stray _ _ => '\uFFFD'

end Letter

namespace Text

/-- The letters of a string. -/
def letters (s : String) : List Letter := s.toList.map .char

/-- A text as a string, in which the replacement character stands for stray bytes. -/
def shown (text : List Letter) : String := String.ofList (text.map Letter.shown)

/-- The bytes that a text takes in a name. -/
def size : List Letter → Nat
  | [] => 0
  | l :: text => l.size + size text

/-- The numbers by which a text is ordered among others. -/
def codes (text : List Letter) : List Nat := text.map Letter.code

/-- Whether a text comes before another, by the numbers of their letters. -/
def Precedes (a b : List Letter) : Prop := List.Lex (· < ·) (codes a) (codes b)

instance : DecidableRel Precedes :=
  fun a b => inferInstanceAs (Decidable (List.Lex (· < ·) (codes a) (codes b)))

/-- All code points from `first` to `last`, both included. -/
structure CodeRange where
  first : Nat
  last : Nat

/-- Membership of a character in a range. -/
def CodeRange.contains (range : CodeRange) (c : Char) : Bool :=
  range.first ≤ c.toNat && c.toNat ≤ range.last

/-- Code points of white space, the separators of information included. -/
def blankRanges : List CodeRange :=
  [⟨0x09, 0x0D⟩, ⟨0x1C, 0x20⟩, ⟨0x85, 0x85⟩, ⟨0xA0, 0xA0⟩, ⟨0x1680, 0x1680⟩, ⟨0x2000, 0x200A⟩,
   ⟨0x2028, 0x2029⟩, ⟨0x202F, 0x202F⟩, ⟨0x205F, 0x205F⟩, ⟨0x3000, 0x3000⟩]

/-- White space. -/
def isBlank (c : Char) : Bool :=
  blankRanges.any (·.contains c)

/-- A string without the blanks at its two ends. -/
def strip (s : String) : String :=
  String.ofList ((s.toList.dropWhile isBlank).reverse.dropWhile isBlank).reverse

/-- The lowest `width` hexadecimal digits of a number. -/
def hexDigits (width n : Nat) : List Char :=
  (List.range width).reverse.map fun place => Nat.digitChar (n / Nat.pow 16 place % 16)

end Text

end MusicFiling
