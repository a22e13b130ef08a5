import CodeAtlas.Decimal.Shortest
import CodeAtlas.Json.Basic
import CodeAtlas.Text.Quoted

/-! JSON text: a blank after every comma and colon, and everything outside
printable ASCII escaped, so that a written value never holds a line break. -/

namespace CodeAtlas.Json

/-- A UTF-16 unit as an escape. -/
def escapeUnit (n : Nat) : List Char :=
  '\\' :: 'u' :: Text.hex 4 n

def escapeChar (c : Char) : List Char :=
  if c = '"' then ['\\', '"']
  else if c = '\\' then ['\\', '\\']
  else if c = '\n' then ['\\', 'n']
  else if c = '\r' then ['\\', 'r']
  else if c = '\t' then ['\\', 't']
  else if c = '\x0c' then ['\\', 'f']
  else if c = '\x08' then ['\\', 'b']
  else if 0x20 ≤ c.toNat ∧ c.toNat ≤ 0x7e then [c]
  else if c.toNat < 0x10000 then escapeUnit c.toNat
  else
    let v := c.toNat - 0x10000
    escapeUnit (0xd800 + v / 0x400) ++ escapeUnit (0xdc00 + v % 0x400)

def writeString (s : String) : List Char :=
  '"' :: s.toList.flatMap escapeChar ++ ['"']

def writeFloat (x : Float) : List Char :=
  match Decimal.Binary.ofFloat x with
  | .nan => "NaN".toList
  | .infinite negative => (if negative then "-Infinity" else "Infinity").toList
  | b => b.text.toList

mutual

def writeChars : Json → List Char
  | .null => "null".toList
  | .bool b => (if b then "true" else "false").toList
  | .int n => (toString n).toList
  | .float x => writeFloat x
  | .string s => writeString s
  | .array items => '[' :: writeItems items ++ [']']
  | .object fields => '\x7b' :: writeFields fields ++ ['\x7d']

def writeItems : List Json → List Char
  | [] => []
  | [x] => writeChars x
  | x :: y :: rest => writeChars x ++ ',' :: ' ' :: writeItems (y :: rest)

def writeFields : Fields → List Char
  | [] => []
  | [(k, x)] => writeString k ++ ':' :: ' ' :: writeChars x
  | (k, x) :: f :: rest =>
    writeString k ++ ':' :: ' ' :: writeChars x ++ ',' :: ' ' :: writeFields (f :: rest)

end

/-- The value as JSON text. -/
def write (j : Json) : String :=
  String.ofList j.writeChars

end CodeAtlas.Json
