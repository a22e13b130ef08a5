import CodeAtlas.Decimal.Nearest
import CodeAtlas.Json.Basic
import CodeAtlas.Text.Numeral

/-! Reading JSON text. Besides the standard's numbers `NaN`, `Infinity` and
`-Infinity` are read; raw control characters inside a text are refused; of
fields with one name the last value counts, at the place of the first. A whole
number with too many digits is a fault of its own. -/

namespace CodeAtlas.Json

inductive ReadError where
  | malformed
  /-- Lists and objects stand in one another too deeply. -/
  | tooDeep
  | tooManyDigits (count : Nat)
  deriving Repr, DecidableEq

def isSpace (c : Char) : Bool :=
  c == ' ' || c == '\t' || c == '\n' || c == '\r'

def skipSpace (cs : List Char) : List Char :=
  cs.dropWhile isSpace

def hexDigit? (c : Char) : Option Nat :=
  if '0' ≤ c ∧ c ≤ '9' then some (c.toNat - 0x30)
  else if 'a' ≤ c ∧ c ≤ 'f' then some (c.toNat - 0x61 + 10)
  else if 'A' ≤ c ∧ c ≤ 'F' then some (c.toNat - 0x41 + 10)
  else none

def hexUnit? (a b c d : Char) : Option Nat := do
  let a ← hexDigit? a
  let b ← hexDigit? b
  let c ← hexDigit? c
  let d ← hexDigit? d
  pure (((a * 16 + b) * 16 + c) * 16 + d)

/-- The character of a one-letter escape. -/
def escaped? : Char → Option Char
  | '"' => some '"'
  | '\\' => some '\\'
  | '/' => some '/'
  | 'b' => some '\x08'
  | 'f' => some '\x0c'
  | 'n' => some '\n'
  | 'r' => some '\r'
  | 't' => some '\t'
  | _ => none

/-- The code points of a text up to its closing quote, and what follows it. -/
def readUnits : List Char → Except ReadError (List Nat × List Char)
  | [] => .error .malformed
  | '"' :: rest => .ok ([], rest)
  | '\\' :: 'u' :: a :: b :: c :: d :: rest =>
    match hexUnit? a b c d with
    | none => .error .malformed
    | some n => (readUnits rest).map fun r => (n :: r.1, r.2)
  | '\\' :: e :: rest =>
    match escaped? e with
    | none => .error .malformed
    | some c => (readUnits rest).map fun r => (c.toNat :: r.1, r.2)
  | c :: rest =>
    if c = '\\' ∨ c.toNat < 0x20 then .error .malformed
    else (readUnits rest).map fun r => (c.toNat :: r.1, r.2)

/-- A code point, or the replacement character for half of a surrogate pair. -/
def charOfUnit (n : Nat) : Char :=
  if 0xd800 ≤ n ∧ n < 0xe000 then '�' else Char.ofNat n

/-- Join surrogate pairs. -/
def joinUnits : List Nat → List Char
  | [] => []
  | [n] => [charOfUnit n]
  | a :: b :: rest =>
    if 0xd800 ≤ a ∧ a < 0xdc00 ∧ 0xdc00 ≤ b ∧ b < 0xe000 then
      Char.ofNat (0x10000 + (a - 0xd800) * 0x400 + (b - 0xdc00)) :: joinUnits rest
    else charOfUnit a :: joinUnits (b :: rest)

/-- A text after its opening quote. -/
def readText (cs : List Char) : Except ReadError (String × List Char) :=
  (readUnits cs).map fun r => (String.ofList (joinUnits r.1), r.2)

def isDigit (c : Char) : Bool := '0' ≤ c && c ≤ '9'

/-- Whole part: a lone zero, or digits that do not begin with one. -/
def readWhole : List Char → Option (List Char × List Char)
  | '0' :: rest => some (['0'], rest)
  | c :: rest =>
    if isDigit c then some ((c :: rest).takeWhile isDigit, (c :: rest).dropWhile isDigit) else none
  | [] => none

/-- Fraction: a point counts only with a digit after it. -/
def readFraction : List Char → Option (List Char) × List Char
  | '.' :: c :: rest =>
    if isDigit c then (some ((c :: rest).takeWhile isDigit), (c :: rest).dropWhile isDigit)
    else (none, '.' :: c :: rest)
  | cs => (none, cs)

/-- Power of ten: the mark counts only with a digit after it and its sign. -/
def readPower : List Char → Option (Bool × List Char) × List Char
  | e :: rest =>
    if e = 'e' ∨ e = 'E' then
      let (negative, digits) :=
        match rest with
        | '-' :: more => (true, more)
        | '+' :: more => (false, more)
        | more => (false, more)
      if (digits.head?.map isDigit).getD false then
        (some (negative, digits.takeWhile isDigit), digits.dropWhile isDigit)
      else (none, e :: rest)
    else (none, e :: rest)
  | [] => (none, [])

/-- The double with these digits. -/
def double (negative : Bool) (whole fraction : List Char) (power : Option (Bool × List Char)) :
    Float :=
  let digits := Text.ofDigits ((whole ++ fraction).map fun c => c.toNat - 0x30)
  let exponent : Int :=
    match power with
    | none => 0
    | some (down, ds) =>
      let n : Int := Text.ofDigits (ds.map fun c => c.toNat - 0x30)
      if down then -n else n
  let x := Decimal.ofScientific digits (exponent - fraction.length)
  if negative then -x else x

/-- A number whose sign has been read. -/
def readNumber (negative : Bool) (cs : List Char) : Except ReadError (Json × List Char) :=
  match readWhole cs with
  | none => .error .malformed
  | some (whole, rest) =>
    let (fraction, rest) := readFraction rest
    let (power, rest) := readPower rest
    match fraction, power with
    | none, none =>
      if whole.length > Text.maxDigits then .error (.tooManyDigits whole.length)
      else
        let n : Int := Text.ofDigits (whole.map fun c => c.toNat - 0x30)
        .ok (.int (if negative then -n else n), rest)
    | _, _ => .ok (.float (double negative whole (fraction.getD []) power), rest)

/-- What follows a fixed word. -/
def afterWord? : List Char → List Char → Option (List Char)
  | [], cs => some cs
  | w :: ws, c :: cs => if w = c then afterWord? ws cs else none
  | _ :: _, [] => none

/-- The fixed words that stand for a value. -/
def words : List (String × Json) :=
  [("null", .null), ("true", .bool true), ("false", .bool false), ("NaN", .float (0.0 / 0.0)),
    ("Infinity", .float (1.0 / 0.0)), ("-Infinity", .float (-1.0 / 0.0))]

def readWord? (cs : List Char) : Option (Json × List Char) :=
  words.findSome? fun w => (afterWord? w.1.toList cs).map fun rest => (w.2, rest)

mutual

/-- One value; `fuel` bounds the number of nested steps, and `room` the lists and objects that
may stand in one another. -/
def readValue : Nat → Nat → List Char → Except ReadError (Json × List Char)
  | 0, _, _ => .error .malformed
  | fuel + 1, room, cs =>
    match cs, room with
    | '"' :: rest, _ => (readText rest).map fun r => (.string r.1, r.2)
    | '[' :: _, 0 | '\x7b' :: _, 0 => .error .tooDeep
    | '[' :: rest, room + 1 =>
      match skipSpace rest with
      | ']' :: rest => .ok (.array [], rest)
      | rest => (readItems fuel room rest).map fun r => (.array r.1, r.2)
    | '\x7b' :: rest, room + 1 =>
      match skipSpace rest with
      | '\x7d' :: rest => .ok (.object [], rest)
      | rest => (readFields fuel room rest).map fun r => (.object (Fields.merge [] r.1), r.2)
    | cs, _ =>
      match readWord? cs with
      | some r => .ok r
      | none =>
        match cs with
        | '-' :: rest => readNumber true rest
        | cs => readNumber false cs

/-- The items of a list up to its closing bracket. -/
def readItems : Nat → Nat → List Char → Except ReadError (List Json × List Char)
  | 0, _, _ => .error .malformed
  | fuel + 1, room, cs =>
    match readValue fuel room cs with
    | .error e => .error e
    | .ok (x, rest) =>
      match skipSpace rest with
      | ',' :: rest => (readItems fuel room (skipSpace rest)).map fun r => (x :: r.1, r.2)
      | ']' :: rest => .ok ([x], rest)
      | _ => .error .malformed

/-- The fields of an object up to its closing brace. -/
def readFields : Nat → Nat → List Char → Except ReadError (Fields × List Char)
  | 0, _, _ => .error .malformed
  | fuel + 1, room, cs =>
    match cs with
    | '"' :: rest =>
      match readText rest with
      | .error e => .error e
      | .ok (key, rest) =>
        match skipSpace rest with
        | ':' :: rest =>
          match readValue fuel room (skipSpace rest) with
          | .error e => .error e
          | .ok (x, rest) =>
            match skipSpace rest with
            | ',' :: rest =>
              (readFields fuel room (skipSpace rest)).map fun r => ((key, x) :: r.1, r.2)
            | '\x7d' :: rest => .ok ([(key, x)], rest)
            | _ => .error .malformed
        | _ => .error .malformed
    | _ => .error .malformed

end

/-- The value of a whole text, blanks around it apart, with room for `room` lists and objects
in one another. -/
def readWithin (room : Nat) (cs : List Char) : Except ReadError Json :=
  match readValue (2 * cs.length + 2) room (skipSpace cs) with
  | .error e => .error e
  | .ok (x, rest) => if (skipSpace rest).isEmpty then .ok x else .error .malformed

/-- So many lists and objects may stand in one another in a text from outside. -/
def maxNesting : Nat := 985

/-- The value of a text from outside. -/
def readChars (cs : List Char) : Except ReadError Json :=
  readWithin maxNesting cs

/-- The value of a text, however deep it is. -/
def read (s : String) : Except ReadError Json :=
  readWithin s.length s.toList

end CodeAtlas.Json
