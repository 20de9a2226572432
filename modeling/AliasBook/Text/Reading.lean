import AliasBook.Text.Lines

/-! The lines of a file. Its bytes are read piece by piece, and the lines that end in one piece are there before
    the next one is read. So of a file that is no UTF-8 the lines are there that end in the pieces in front of
    the flaw. -/

namespace AliasBook.Text

/-- What comes of reading a file: lines, and whether they are all of its lines or those in front of a flaw. -/
structure Reading where
  lines : List String
  isWhole : Bool
deriving DecidableEq

/-- How many bytes are read at once. -/
def pieceSize : Nat := 8192

/-- The bytes in pieces. -/
def pieces (bytes : ByteArray) : List ByteArray :=
  (List.range (bytes.size / pieceSize + 1)).map fun i => bytes.extract (i * pieceSize) ((i + 1) * pieceSize)

/-- Bytes one of which makes a character of any bytes that begin one. -/
def endings : List (List UInt8) :=
  [[0x80], [0xa0], [0x80, 0x80], [0xa0, 0x80], [0x80, 0x80, 0x80], [0xa0, 0x80, 0x80]]

/-- The bytes are the first two of a surrogate, which is no character but found out by its third byte only. -/
def isHalfSurrogate (bytes : ByteArray) : Bool :=
  match bytes.toList with
  | [first, second] => first == 0xed && 0xa0 ≤ second && second ≤ 0xbf
  | _ => false

/-- The bytes are none, or may be the beginning of a character. -/
def isUnfinished (bytes : ByteArray) : Bool :=
  bytes.isEmpty || isHalfSurrogate bytes ||
    endings.any fun ending => (String.fromUTF8? (bytes ++ ending.toByteArray)).isSome

/-- The text that the bytes are, and the bytes behind it of a character that is not finished. -/
def decodeFront? (bytes : ByteArray) : Option (String × ByteArray) :=
  (List.range 4).findSome? fun n => do
    let count := bytes.size - n
    let text ← String.fromUTF8? (bytes.extract 0 count)
    let held := bytes.extract count bytes.size
    if isUnfinished held then some (text, held) else none

/-- The text of the pieces in front of the first one with a flaw; `held` are bytes of a character that is not
    finished. -/
def textInFront (held : ByteArray) : List ByteArray → String
  | [] => ""
  | piece :: rest =>
    match decodeFront? (held ++ piece) with
    | some (text, held) => text ++ textInFront held rest
    | none => ""

/-- The lines of the characters that are known to have ended. A carriage return behind them may yet turn out
    to be half of an end. -/
def endedLines (cs : List Char) : List (List Char) :=
  let cs := if cs.getLast? = some '\r' then cs.dropLast else cs
  if cs.getLast? = some '\n' ∨ cs.getLast? = some '\r' then splitLines cs else (splitLines cs).dropLast

/-- Reads a file with the given bytes. -/
def read (bytes : ByteArray) : Reading :=
  match String.fromUTF8? bytes with
  | some text => { lines := lines text, isWhole := true }
  | none =>
    { lines := (endedLines (textInFront .empty (pieces bytes)).toList).map String.ofList, isWhole := false }

/-- A text is read as a whole. -/
theorem read_toUTF8 (text : String) : read text.toUTF8 = { lines := lines text, isWhole := true } := by
  have hwhole : String.fromUTF8? text.toUTF8 = some text := by
    rw [String.fromUTF8?, String.toUTF8_eq_toByteArray, dif_pos text.isValidUTF8]
    rfl
  rw [read, hwhole]

end AliasBook.Text
