import CodeAtlas.Script.Tree
import CodeAtlas.Text.Identifier
import CodeAtlas.Text.Numeral

/-! Number literals of Python source. A reading function gives the rest of the input
after the part it reads, or tells where and why the literal is malformed. -/

namespace CodeAtlas.Script.Numeral

/-- Why a literal is refused, and what is left of the input there. -/
structure Misread where
  message : String
  rest : List Char
  /-- The fault is shown at the start of the literal. -/
  atStart : Bool
  deriving Repr

abbrev Read := Except Misread (List Char)

def refuse (kind : String) (rest : List Char) : Read :=
  .error ⟨"invalid " ++ kind ++ " literal", rest, false⟩

def isDecimal (c : Char) : Bool := '0' ≤ c && c ≤ '9'

def isHex (c : Char) : Bool :=
  isDecimal c || ('a' ≤ c && c ≤ 'f') || ('A' ≤ c && c ≤ 'F')

def isOctal (c : Char) : Bool := '0' ≤ c && c ≤ '7'

def isBinary (c : Char) : Bool := c == '0' || c == '1'

/-- A character that may be part of a name. -/
def isNameChar (c : Char) : Bool :=
  c.isAlphanum || c == '_' || c.toNat ≥ 128

def startsWith (w : String) (cs : List Char) : Bool := w.toList.isPrefixOf cs

/-- A word stands here, and no longer one. -/
def wordAhead (cs : List Char) (w : String) : Bool :=
  startsWith w cs && !((cs.drop w.length).head?.map isNameChar).getD false

/-- One of the keywords that may follow a number without a blank. Those of two letters that
start with `i` may even begin a longer word. -/
def joinedAhead (cs : List Char) : Bool :=
  ["and", "else", "for", "or", "not"].any (wordAhead cs) ||
    ["if", "in", "is"].any (startsWith · cs)

/-- A number ends before anything that cannot continue a name in ASCII, or before one
of a few keywords. -/
def ended (kind : String) (cs : List Char) : Read :=
  match cs with
  | [] => .ok []
  | c :: _ =>
    if isNameChar c && c.toNat < 128 && !joinedAhead cs then refuse kind cs else .ok cs

/-- More decimal digits, with single underscores between them. -/
def decimalTail : List Char → Read
  | '_' :: c :: rest => if isDecimal c then decimalTail rest else refuse "decimal" (c :: rest)
  | ['_'] => refuse "decimal" []
  | c :: rest => if isDecimal c then decimalTail rest else .ok (c :: rest)
  | [] => .ok []

/-- Digits of another base, with at most one underscore before each of them; `first` says
that none has been read yet. A decimal digit that is too large is named. -/
def based (kind : String) (ok : Char → Bool) (first : Bool) : List Char → Read
  | '_' :: c :: rest => if ok c then based kind ok false rest else wrong (c :: rest)
  | ['_'] => refuse kind []
  | c :: rest =>
    if ok c then based kind ok false rest
    else if first || isDecimal c then wrong (c :: rest)
    else ended kind (c :: rest)
  | [] => if first then refuse kind [] else .ok []
where
  wrong : List Char → Read
    | [] => refuse kind []
    | c :: rest =>
      if isDecimal c then
        .error ⟨"invalid digit '" ++ c.toString ++ "' in " ++ kind ++ " literal", rest, false⟩
      else refuse kind (c :: rest)

/-- The imaginary mark, if there is one, and the end. -/
def imaginary : List Char → Read
  | 'j' :: rest | 'J' :: rest => ended "imaginary" rest
  | cs => ended "decimal" cs

/-- The power of ten, if there is one, and the end. -/
def power : List Char → Read
  | e :: rest =>
    if e == 'e' || e == 'E' then
      match rest with
      | s :: more =>
        if s == '+' || s == '-' then
          match more with
          | d :: _ =>
            if isDecimal d then (decimalTail more).bind imaginary else refuse "decimal" more
          | [] => refuse "decimal" []
        else if isDecimal s then (decimalTail rest).bind imaginary
        else ended "decimal" (e :: rest)
      | [] => ended "decimal" [e]
    else imaginary (e :: rest)
  | [] => .ok []

/-- What follows the point. -/
def fraction : List Char → Read
  | c :: rest => if isDecimal c then (decimalTail rest).bind power else power (c :: rest)
  | [] => .ok []

/-- Digits of a whole number that may turn out to have a fraction. -/
def decimal (cs : List Char) : Read :=
  (decimalTail cs).bind fun
    | '.' :: rest => fraction rest
    | rest => power rest

/-- Zeros with single underscores between them. -/
def zeros : List Char → Read
  | '_' :: c :: rest =>
    if c == '0' then zeros rest
    else if isDecimal c then .ok (c :: rest)
    else refuse "decimal" (c :: rest)
  | ['_'] => refuse "decimal" []
  | c :: rest => if c == '0' then zeros rest else .ok (c :: rest)
  | [] => .ok []

/-- A number that starts with a zero: other digits are allowed only before a
fraction, a power or the imaginary mark. -/
def zeroLed (cs : List Char) : Read := do
  let rest ← zeros cs
  let nonzero := (rest.head?.map isDecimal).getD false
  let rest ← if nonzero then decimalTail rest else pure rest
  match rest with
  | '.' :: more => fraction more
  | c :: more =>
    if c == 'e' || c == 'E' then power (c :: more)
    else if c == 'j' || c == 'J' then imaginary (c :: more)
    else plain nonzero (c :: more)
  | [] => plain nonzero []
where
  plain (nonzero : Bool) (rest : List Char) : Read :=
    if nonzero then
      .error ⟨"leading zeros in decimal integer literals are not permitted; " ++
        "use an 0o prefix for octal integers", rest, true⟩
    else ended "decimal" rest

/-- The rest after the number at the front of the input. -/
def read : List Char → Read
  | '.' :: rest => fraction rest
  | '0' :: b :: rest =>
    if b == 'x' || b == 'X' then based "hexadecimal" isHex true rest
    else if b == 'o' || b == 'O' then based "octal" isOctal true rest
    else if b == 'b' || b == 'B' then based "binary" isBinary true rest
    else zeroLed (b :: rest)
  | _ :: rest => decimal rest
  | [] => .ok []

/-! ### Values -/

def digitValue (c : Char) : Nat :=
  if isDecimal c then c.toNat - 0x30
  else if 'a' ≤ c && c ≤ 'f' then c.toNat - 0x61 + 10
  else c.toNat - 0x41 + 10

def inBase (base : Nat) (cs : List Char) : Nat :=
  cs.foldl (fun n c => base * n + digitValue c) 0

/-- The double nearest to a decimal number. -/
def toFloat (cs : List Char) : Float :=
  let (mantissa, power) :=
    (cs.takeWhile fun c => c != 'e' && c != 'E',
      (cs.dropWhile fun c => c != 'e' && c != 'E').drop 1)
  let whole := mantissa.takeWhile (· != '.')
  let places := (mantissa.dropWhile (· != '.')).drop 1
  let (negative, power) :=
    match power with
    | '-' :: rest => (true, rest)
    | '+' :: rest => (false, rest)
    | rest => (false, rest)
  let e : Int := inBase 10 power
  let shift : Int := (if negative then -e else e) - places.length
  let digits := inBase 10 (whole ++ places)
  if digits == 0 then 0
  -- beyond every double, so that the power need not be worked out
  else if shift > 400 then Float.ofScientific 1 false 400
  else if shift < 0 && shift.natAbs > 400 + (whole ++ places).length then 0
  else Float.ofScientific digits (shift < 0) shift.natAbs

/-- The value of a literal, or the number of its digits if they are too many. -/
def value (literal : List Char) : Except Nat Constant :=
  let cs := literal.filter (· != '_')
  match cs with
  | '0' :: b :: rest =>
    if b == 'x' || b == 'X' then .ok (.int (inBase 16 rest))
    else if b == 'o' || b == 'O' then .ok (.int (inBase 8 rest))
    else if b == 'b' || b == 'B' then .ok (.int (inBase 2 rest))
    else number cs
  | cs => number cs
where
  number (cs : List Char) : Except Nat Constant :=
    match cs.getLast? with
    | some c =>
      if c == 'j' || c == 'J' then .ok (.imaginary (toFloat cs.dropLast))
      else if cs.all isDecimal then
        if cs.length > Text.maxDigits && cs.any (· != '0') then .error cs.length
        else .ok (.int (inBase 10 cs))
      else .ok (.float (toFloat cs))
    | none => .ok (.int 0)

end CodeAtlas.Script.Numeral
