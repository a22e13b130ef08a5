import CodeAtlas.Text.Blank
import CodeAtlas.Text.Quoted

/-! Whole numbers as people write them: decimal digits of any script, single
underscores between digits, one sign, and blanks around. -/

namespace CodeAtlas.Text

/-- The zeros of the decimal digit rows above ASCII (Unicode 14). -/
def zeros : List Nat := [
   0x660, 0x6f0, 0x7c0, 0x966, 0x9e6, 0xa66, 0xae6, 0xb66, 0xbe6, 0xc66, 0xce6, 0xd66, 0xde6,
   0xe50, 0xed0, 0xf20, 0x1040, 0x1090, 0x17e0, 0x1810, 0x1946, 0x19d0, 0x1a80, 0x1a90, 0x1b50,
   0x1bb0, 0x1c40, 0x1c50, 0xa620, 0xa8d0, 0xa900, 0xa9d0, 0xa9f0, 0xaa50, 0xabf0, 0xff10,
   0x104a0, 0x10d30, 0x11066, 0x110f0, 0x11136, 0x111d0, 0x112f0, 0x11450, 0x114d0, 0x11650,
   0x116c0, 0x11730, 0x118e0, 0x11950, 0x11c50, 0x11d50, 0x11da0, 0x16a60, 0x16ac0, 0x16b50,
   0x1d7ce, 0x1d7d8, 0x1d7e2, 0x1d7ec, 0x1d7f6, 0x1e140, 0x1e2f0, 0x1e950, 0x1fbf0]

/-- The value of a decimal digit of any script. -/
def digit? (c : Char) : Option Nat :=
  if c.isDigit then some (c.toNat - 0x30)
  else (zeros.find? fun z => z ≤ c.toNat && c.toNat ≤ z + 9).map (c.toNat - ·)

/-- The most digits that a written number may have. -/
def maxDigits : Nat := 4300

/-- Why a text is not read as a number. -/
inductive NumeralError where
  | malformed (text : String)
  | tooLong (digits : Nat)
  deriving Repr, DecidableEq

def NumeralError.message : NumeralError → String
  | .malformed text =>
    "invalid literal for int() with base 10: " ++ String.ofList ((quoted text).toList.take 200)
  | .tooLong n =>
    "Exceeds the limit (4300 digits) for integer string conversion: value has " ++ toString n ++
      " digits; use sys.set_int_max_str_digits() to increase the limit"

/-- The digits at the start of a text, most significant first, with what follows them; single
underscores may stand between digits. A text that starts otherwise, or with an underscore out
of place, has none. -/
def digitsOf? : List Char → Option (List Nat × List Char)
  | [] => none
  | [c] => (digit? c).map fun v => ([v], [])
  | c :: d :: cs =>
    match digit? c with
    | none => none
    | some v =>
      if d == '_' then (digitsOf? cs).map fun (ds, after) => (v :: ds, after)
      else if (digit? d).isSome then (digitsOf? (d :: cs)).map fun (ds, after) => (v :: ds, after)
      else some ([v], d :: cs)

def ofDigits (ds : List Nat) : Nat :=
  ds.foldl (fun n d => 10 * n + d) 0

/-- A blank that may stand around a number; the ASCII separators may not. -/
def isNumeralBlank (c : Char) : Bool :=
  isBlank c && !(0x1c ≤ c.toNat && c.toNat ≤ 0x1f)

/-- Read a whole number. -/
def readInt (text : String) : Except NumeralError Int :=
  let body := text.toList.dropWhile isNumeralBlank
  let (negative, body) :=
    match body with
    | '-' :: rest => (true, rest)
    | '+' :: rest => (false, rest)
    | _ => (false, body)
  match digitsOf? body with
  | none => .error (.malformed text)
  | some (ds, after) =>
    if ds.length > maxDigits then .error (.tooLong ds.length)
    else if after.all isNumeralBlank then
      .ok (if negative then -(ofDigits ds : Int) else ofDigits ds)
    else .error (.malformed text)

end CodeAtlas.Text
