import MusicFiling.Text.Letter

/-!
# UTF-8

Files and probe output are bytes. Text is written as UTF-8, unless it holds stray bytes; it is read
either leniently, with one replacement character for each longest ill-formed piece, or strictly in
blocks, where the first ill-formed piece is reported with its place.
-/

namespace MusicFiling.Text.Utf8

/-- The bytes of a text. -/
def encode (cs : List Char) : List UInt8 :=
  cs.flatMap String.utf8EncodeChar

/-- The bytes of a string. -/
def ofString (s : String) : List UInt8 :=
  encode s.toList

/-- Stray bytes in a text that was to be written, and how many letters stand before them. -/
structure Unwritable where
  position : Nat
  bytes : List UInt8
  deriving DecidableEq, Repr

/-- The stray bytes at the start of a text. -/
def strayBytes : List Letter → List UInt8
  | .stray byte _ :: rest => byte :: strayBytes rest
  | _ => []

/-- The bytes of a text, or the first stray bytes in it, which cannot be written. -/
def encodeText (text : List Letter) : Except Unwritable (List UInt8) :=
  match text.dropWhile Letter.isChar with
  | [] => .ok (encode (text.map Letter.shown))
  | rest => .error ⟨text.length - rest.length, strayBytes rest⟩

/-- An unfinished character: the next byte must lie between `low` and `high`, `after` more bytes
    follow it, and `code` is what the bytes so far contribute. -/
structure Owed where
  low : UInt8
  high : UInt8
  after : Nat
  code : Nat
  deriving DecidableEq, Repr

/-- What one byte does: it completes a character, leaves one unfinished, or is ill-formed. -/
inductive Effect where
  | char (c : Char)
  | owed (o : Owed)
  | illFormed
  deriving DecidableEq, Repr

/-- The effect of a byte at the start of a character. -/
def leading (b : UInt8) : Effect :=
  if b < 0x80 then .char (Char.ofNat b.toNat)
  else if b < 0xC2 then .illFormed
  else if b < 0xE0 then .owed ⟨0x80, 0xBF, 0, b.toNat - 0xC0⟩
  else if b < 0xF0 then
    .owed ⟨if b = 0xE0 then 0xA0 else 0x80, if b = 0xED then 0x9F else 0xBF, 1, b.toNat - 0xE0⟩
  else if b < 0xF5 then
    .owed ⟨if b = 0xF0 then 0x90 else 0x80, if b = 0xF4 then 0x8F else 0xBF, 2, b.toNat - 0xF0⟩
  else .illFormed

/-- The effect of a byte inside a character. -/
def Owed.next (o : Owed) (b : UInt8) : Effect :=
  if o.low ≤ b ∧ b ≤ o.high then
    let code := o.code * 64 + (b.toNat - 0x80)
    match o.after with
    | 0 => .char (Char.ofNat code)
    | after + 1 => .owed ⟨0x80, 0xBF, after, code⟩
  else .illFormed

/-- Stands for an ill-formed piece. -/
def replacement : Char := '\uFFFD'

/-- The characters read so far, last first, and the character that is unfinished. -/
structure Lenient where
  done : List Char
  owed : Option Owed

/-- Reads a byte at the start of a character. -/
def Lenient.lead (done : List Char) (b : UInt8) : Lenient :=
  match leading b with
  | .char c => ⟨c :: done, none⟩
  | .owed o => ⟨done, some o⟩
  | .illFormed => ⟨replacement :: done, none⟩

/-- Reads a byte; one that cannot continue the unfinished character replaces it and starts anew. -/
def Lenient.step (s : Lenient) (b : UInt8) : Lenient :=
  match s.owed with
  | none => Lenient.lead s.done b
  | some o =>
    match o.next b with
    | .char c => ⟨c :: s.done, none⟩
    | .owed o' => ⟨s.done, some o'⟩
    | .illFormed => Lenient.lead (replacement :: s.done) b

/-- The text read, where an unfinished character at the end is replaced. -/
def Lenient.text (s : Lenient) : List Char :=
  (if s.owed.isSome then replacement :: s.done else s.done).reverse

/-- Reads bytes as text, with one replacement character for each longest ill-formed piece. -/
def decodeLenient (bytes : List UInt8) : List Char :=
  (bytes.foldl Lenient.step ⟨[], none⟩).text

/-- Why bytes are not text. -/
inductive Flaw where
  | startByte
  | continuationByte
  | endOfData
  deriving DecidableEq, Repr

/-- An ill-formed piece: its first bytes, its place in the block that was read, and its flaw. -/
structure IllFormed where
  bytes : List UInt8
  position : Nat
  flaw : Flaw
  deriving DecidableEq, Repr

/-- Where strict reading stands: between characters, inside one, or behind the first two bytes of a
    surrogate, which no byte can complete. -/
inductive Stage where
  | between
  | inside (o : Owed)
  | surrogate
  deriving DecidableEq, Repr

/-- The characters read so far and the bytes of the unfinished one, both last first; `position`
    counts the bytes read. -/
structure Strict where
  done : List Char
  pending : List UInt8
  stage : Stage
  position : Nat

/-- Whether two bytes are the first two of a surrogate. -/
def opensSurrogate (b b' : UInt8) : Bool :=
  b = 0xED && 0xA0 ≤ b' && b' ≤ 0xBF

/-- The unfinished character as an ill-formed piece, once it cannot be completed. Of a surrogate the
    second byte already cannot continue the first. -/
def Strict.broken (s : Strict) : IllFormed :=
  let bytes := match s.stage with
    | .surrogate => s.pending.reverse.take 1
    | _ => s.pending.reverse
  ⟨bytes, s.position - s.pending.length, .continuationByte⟩

/-- Reads a byte, or reports the ill-formed piece that it reveals. A surrogate is reported only at
    its third byte, so that its first two may end a block. -/
def Strict.step (s : Strict) (b : UInt8) : Except IllFormed Strict :=
  match s.stage with
  | .between =>
    match leading b with
    | .char c => .ok ⟨c :: s.done, [], .between, s.position + 1⟩
    | .owed o => .ok ⟨s.done, [b], .inside o, s.position + 1⟩
    | .illFormed => .error ⟨[b], s.position, .startByte⟩
  | .inside o =>
    match o.next b with
    | .char c => .ok ⟨c :: s.done, [], .between, s.position + 1⟩
    | .owed o' => .ok ⟨s.done, b :: s.pending, .inside o', s.position + 1⟩
    | .illFormed =>
      match s.pending with
      | [lead] =>
        if opensSurrogate lead b then .ok ⟨s.done, [b, lead], .surrogate, s.position + 1⟩
        else .error s.broken
      | _ => .error s.broken
  | .surrogate => .error s.broken

/-- The unfinished character at the end of the data, which alone is read again. -/
def Strict.unfinished? (s : Strict) : Option IllFormed :=
  match s.stage with
  | .between => none
  | .inside _ => some ⟨s.pending.reverse, 0, .endOfData⟩
  | .surrogate => some { s.broken with position := 0 }

/-- What strict reading found: the text before the block with the first flaw, and that flaw. -/
structure Reading where
  text : List Char
  flaw : Option IllFormed

/-- Reads blocks one after another; the bytes of a character that a block leaves unfinished are
    read again with the next block, and positions count from the first of them. -/
def decodeBlocks (s : Strict) : List (List UInt8) → Reading
  | [] => ⟨s.done.reverse, s.unfinished?⟩
  | block :: rest =>
    match block.foldlM Strict.step { s with position := s.pending.length } with
    | .error flaw => ⟨s.done.reverse, some flaw⟩
    | .ok s' => decodeBlocks s' rest

/-- The blocks of a byte sequence, each but the last of the given size. -/
def blocks (size : Nat) (bytes : List UInt8) : List (List UInt8) :=
  go (bytes.length / size + 1) [] bytes
where
  go : Nat → List (List UInt8) → List UInt8 → List (List UInt8)
    | 0, done, _ => done.reverse
    | _, done, [] => done.reverse
    | n + 1, done, bytes => go n (bytes.take size :: done) (bytes.drop size)

/-- Bytes that are read at a time. -/
def blockSize : Nat := 8192

/-- Reads bytes as text, up to the block with the first ill-formed piece. -/
def decodeStrict (bytes : List UInt8) : Reading :=
  decodeBlocks ⟨[], [], .between, 0⟩ (blocks blockSize bytes)

/-- The text of bytes that are UTF-8 throughout. -/
def decode? (bytes : List UInt8) : Option String :=
  match decodeStrict bytes with
  | ⟨text, none⟩ => some (String.ofList text)
  | ⟨_, some _⟩ => none

/-- The wording of stray bytes: the one, or the places of several. -/
def Unwritable.message (e : Unwritable) : String :=
  let what := match e.bytes with
    | [b] =>
      let digits := String.ofList (hexDigits 4 (0xDC00 + b.toNat))
      s!"character '\\u{digits}' in position {e.position}"
    | bytes => s!"characters in position {e.position}-{e.position + bytes.length - 1}"
  s!"'utf-8' codec can't encode {what}: surrogates not allowed"

/-- The wording of a flaw. -/
def Flaw.message : Flaw → String
  | .startByte => "invalid start byte"
  | .continuationByte => "invalid continuation byte"
  | .endOfData => "unexpected end of data"

/-- The wording of an ill-formed piece: its byte, or the places of its bytes, and the flaw. -/
def IllFormed.message (piece : IllFormed) : String :=
  let what := match piece.bytes with
    | [b] => s!"byte 0x{String.ofList (hexDigits 2 b.toNat)} in position {piece.position}"
    | bytes => s!"bytes in position {piece.position}-{piece.position + bytes.length - 1}"
  s!"'utf-8' codec can't decode {what}: {piece.flaw.message}"

end MusicFiling.Text.Utf8
