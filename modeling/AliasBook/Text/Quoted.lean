import AliasBook.Text.Printable

/-! Quoted texts, as messages show the values they complain about: between quotes, on one line, with every
    character that cannot be shown written as an escape. -/

namespace AliasBook.Text

/-- The last `width` hexadecimal digits of `n`, in lower case. -/
def hexDigits : Nat → Nat → List Char
  | 0, _ => []
  | width + 1, n => hexDigits width (n / 16) ++ [Nat.digitChar (n % 16)]

namespace Quoted

/-- The number of a character behind a backslash, in the shortest of the three widths. -/
def numbered (c : Char) : List Char :=
  if c.toNat < 0x100 then '\\' :: 'x' :: hexDigits 2 c.toNat
  else if c.toNat < 0x10000 then '\\' :: 'u' :: hexDigits 4 c.toNat
  else '\\' :: 'U' :: hexDigits 8 c.toNat

/-- A character as it is written between two quotes `q`; `shown` tells the ones that need no number. -/
def encodeChar (shown : Char → Bool) (q c : Char) : List Char :=
  if c = q ∨ c = '\\' then ['\\', c]
  else if c = '\n' then ['\\', 'n']
  else if c = '\r' then ['\\', 'r']
  else if c = '\t' then ['\\', 't']
  else if shown c then [c]
  else numbered c

/-- The quote that a text is put between: the single one, unless the text holds single quotes and no
    double one. -/
def quoteFor (cs : List Char) : Char :=
  if '\'' ∈ cs ∧ '"' ∉ cs then '"' else '\''

/-- The text between quotes. -/
def encode (shown : Char → Bool) (cs : List Char) : List Char :=
  quoteFor cs :: cs.flatMap (encodeChar shown (quoteFor cs)) ++ [quoteFor cs]

end Quoted

/-- The text between quotes, with every printable character as it is. -/
def quoted (s : String) : String :=
  String.ofList (Quoted.encode isPrintable s.toList)

/-- The characters of a text with a number for each one outside ASCII. -/
def asciiOnly (s : String) : String :=
  String.ofList (s.toList.flatMap fun c => if c.toNat < 0x80 then [c] else Quoted.numbered c)

end AliasBook.Text
