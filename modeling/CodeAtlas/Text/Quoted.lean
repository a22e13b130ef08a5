import CodeAtlas.Text.Printable

/-! Quoted text for messages: single quotes unless the text holds one and no
double quote, with escapes for whatever is not printable. -/

namespace CodeAtlas.Text

/-- A number in lower-case hexadecimal, padded with zeros to a width. -/
def hex (width n : Nat) : List Char :=
  let digits := Nat.toDigits 16 n
  List.replicate (width - digits.length) '0' ++ digits

/-- One character between the given quotes. -/
def quoteChar (quote c : Char) : List Char :=
  if c == quote || c == '\\' then ['\\', c]
  else if c == '\n' then ['\\', 'n']
  else if c == '\r' then ['\\', 'r']
  else if c == '\t' then ['\\', 't']
  else if isPrintable c then [c]
  else if c.toNat < 0x100 then '\\' :: 'x' :: hex 2 c.toNat
  else if c.toNat < 0x10000 then '\\' :: 'u' :: hex 4 c.toNat
  else '\\' :: 'U' :: hex 8 c.toNat

def quoteOf (s : List Char) : Char :=
  if s.contains '\x27' && !s.contains '"' then '"' else '\x27'

/-- Code points made a text; half of a surrogate pair becomes a replacement character. -/
def ofPoints (points : List Nat) : List Char :=
  points.map fun n => if n.isValidChar then Char.ofNat n else '\uFFFD'

/-- A text between quotes, as messages show it. -/
def quoted (s : String) : String :=
  let q := quoteOf s.toList
  String.ofList (q :: s.toList.flatMap (quoteChar q) ++ [q])

/-- Code points between quotes; half of a surrogate pair is escaped. -/
def quotedPoints (points : List Nat) : String :=
  let q := quoteOf (ofPoints points)
  let shown := points.flatMap fun n =>
    if n.isValidChar then quoteChar q (Char.ofNat n) else '\\' :: 'u' :: hex 4 n
  String.ofList (q :: shown ++ [q])

/-- Bytes between quotes, after the letter that marks them; all beyond ASCII are escaped. -/
def quotedBytes (octets : List Nat) : String :=
  let q := quoteOf (octets.map Char.ofNat)
  let shown := octets.flatMap fun n =>
    if n < 0x7f then quoteChar q (Char.ofNat n) else '\\' :: 'x' :: hex 2 n
  String.ofList ('b' :: q :: shown ++ [q])

end CodeAtlas.Text
