import CodeAtlas.Decimal.Nearest
import CodeAtlas.Text.Numeral

/-! Numbers with a fraction as people write them: digits with or without a point, a power of
ten, or the words for infinity and for no number; digits are of any script, single underscores
may stand between them, and blanks around. -/

namespace CodeAtlas.Text

/-- Digits of every script in their ASCII form; blanks as spaces. -/
def plainDigit (c : Char) : Char :=
  match digit? c with
  | some v => Char.ofNat (0x30 + v)
  | none => if isNumeralBlank c then ' ' else c

/-- A text without its underscores, if they stand between digits only; the first argument is
the character before. -/
def dropUnderscores? (before : Char) : List Char → Option (List Char)
  | [] => if before == '_' then none else some []
  | c :: cs =>
    if c == '_' then (if before.isDigit then dropUnderscores? c cs else none)
    else if before == '_' && !c.isDigit then none
    else (dropUnderscores? c cs).map (c :: ·)

/-- The words that stand for a number. -/
def numberWord? (word : String) : Option Float :=
  match word with
  | "inf" | "infinity" => some (1.0 / 0.0)
  | "nan" => some (0.0 / 0.0)
  | _ => none

/-- The power of ten at the end of a number. -/
def powerOf? : List Char → Option Int
  | [] => some 0
  | e :: cs =>
    if e != 'e' && e != 'E' then none
    else
      let (negative, digits) :=
        match cs with
        | '-' :: rest => (true, rest)
        | '+' :: rest => (false, rest)
        | rest => (false, rest)
      if digits.isEmpty || !digits.all Char.isDigit then none
      else
        let n : Int := ofDigits (digits.map fun c => c.toNat - 0x30)
        some (if negative then -n else n)

/-- A number without sign, in ASCII. -/
def magnitude? (cs : List Char) : Option Float :=
  match numberWord? (String.ofList (cs.map Char.toLower)) with
  | some x => some x
  | none =>
    let whole := cs.takeWhile Char.isDigit
    let rest := cs.dropWhile Char.isDigit
    let (fraction, rest) :=
      match rest with
      | '.' :: more => (more.takeWhile Char.isDigit, more.dropWhile Char.isDigit)
      | more => ([], more)
    let digits := (whole ++ fraction).map fun c => c.toNat - 0x30
    if digits.isEmpty then none
    else (powerOf? rest).map fun power =>
      Decimal.ofScientific (ofDigits digits) (power - fraction.length)

/-- Read a number with or without a fraction. -/
def readFloat? (text : String) : Option Float :=
  let inner := ((text.toList.map plainDigit).dropWhile (· == ' ')).reverse.dropWhile (· == ' ')
  match dropUnderscores? ' ' inner.reverse with
  | none => none
  | some ('-' :: cs) => (magnitude? cs).map (- ·)
  | some ('+' :: cs) => magnitude? cs
  | some cs => magnitude? cs

end CodeAtlas.Text
