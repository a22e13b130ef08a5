import CodeAtlas.Decimal.Binary

/-! The shortest decimal that reads back as a given double, and of several the
one nearest to it. A double stands for the interval of reals that round to it;
for one, two, … seventeen digits the two neighbours of the number on the grid
of that many digits are tried. -/

namespace CodeAtlas.Decimal

/-- Decimal digits of `0.d₁d₂… · 10 ^ point`. -/
structure Digits where
  digits : List Nat
  point : Int
  deriving Repr, DecidableEq

/-- A fraction with a positive denominator. -/
structure Ratio where
  num : Nat
  den : Nat
  deriving Repr

def Ratio.le (a b : Ratio) : Bool := a.num * b.den ≤ b.num * a.den

def Ratio.lt (a b : Ratio) : Bool := a.num * b.den < b.num * a.den

/-- `n · 10 ^ p`. -/
def Ratio.scaled (n : Nat) (p : Int) : Ratio :=
  if p ≥ 0 then ⟨n * Nat.pow 10 p.toNat, 1⟩ else ⟨n, Nat.pow 10 (-p).toNat⟩

/-- `n · 2 ^ p`. -/
def Ratio.shifted (n : Nat) (p : Int) : Ratio :=
  if p ≥ 0 then ⟨n * Nat.pow 2 p.toNat, 1⟩ else ⟨n, Nat.pow 2 (-p).toNat⟩

/-- Number of decimal digits of a positive number. -/
def digitCount (n : Nat) : Nat := (Nat.toDigits 10 n).length

/-- The exponent `p` with `10 ^ (p - 1) ≤ x < 10 ^ p`, for a positive fraction. -/
def pointOf (x : Ratio) : Int :=
  if x.num ≥ x.den then digitCount (x.num / x.den)
  else
    -- 10 ^ k · x reaches one for some k below the number of digits of the denominator
    let k := digitCount (x.den / x.num) - 1
    if Ratio.le ⟨1, 1⟩ ⟨x.num * Nat.pow 10 k, x.den⟩ then 1 - (k : Int)
    else -(k : Int)

/-- The real numbers that round to a double. -/
structure Interval where
  low : Ratio
  high : Ratio
  /-- Whether the ends belong to it. -/
  closed : Bool

def Interval.has (i : Interval) (x : Ratio) : Bool :=
  if i.closed then i.low.le x && x.le i.high else i.low.lt x && x.lt i.high

/-- Distance of two fractions, over the product of their denominators. -/
def Ratio.gap (a b : Ratio) : Ratio :=
  let l := a.num * b.den
  let r := b.num * a.den
  ⟨if l ≤ r then r - l else l - r, a.den * b.den⟩

/-- The best decimal with at most `n` digits inside the interval, if there is
one: of two neighbours the nearer, of two equally near the one with an even
last digit. -/
def candidate? (x : Ratio) (i : Interval) (point : Int) (n : Nat) : Option Nat :=
  let p := point - n
  let unit := Ratio.scaled 1 p
  let below := x.num * unit.den / (x.den * unit.num)
  let lowIn := i.has (Ratio.scaled below p)
  let highIn := i.has (Ratio.scaled (below + 1) p)
  if lowIn && highIn then
    let toLow := (Ratio.scaled below p).gap x
    let toHigh := (Ratio.scaled (below + 1) p).gap x
    if toLow.lt toHigh then some below
    else if toHigh.lt toLow then some (below + 1)
    else some (if below % 2 == 0 then below else below + 1)
  else if lowIn then some below
  else if highIn then some (below + 1)
  else none

/-- Digits of a number without its trailing zeros. -/
def significant (n : Nat) : List Nat :=
  (((Nat.toDigits 10 n).map fun c => c.toNat - 0x30).reverse.dropWhile (· == 0)).reverse

/-- The digits of zero. -/
def Digits.zero : Digits := ⟨[0], 1⟩

/-- Try ever finer grids, `left` of them, beginning with `n` digits. -/
def shortestFrom (x : Ratio) (i : Interval) (point : Int) : Nat → Nat → Digits
  | 0, _ => .zero
  | left + 1, n =>
    match candidate? x i point n with
    | some 0 | none => shortestFrom x i point left (n + 1)
    | some d => ⟨significant d, point - n + digitCount d⟩

/-- The shortest digits of `mantissa · 2 ^ exponent`. -/
def shortest (mantissa : Nat) (exponent : Int) (narrowBelow : Bool) : Digits :=
  if mantissa == 0 then .zero
  else
    let at' := fun n => Ratio.shifted n (exponent - 2)
    let x := at' (4 * mantissa)
    let i : Interval :=
      ⟨at' (4 * mantissa - (if narrowBelow then 1 else 2)), at' (4 * mantissa + 2),
        mantissa % 2 == 0⟩
    shortestFrom x i (pointOf x) 18 1

def digitText (ds : List Nat) : String :=
  String.join (ds.map toString)

/-- A power of ten after the mark `e`: signed, with at least two digits. -/
def exponentText (e : Int) : String :=
  let digits := toString e.natAbs
  (if e < 0 then "e-" else "e+") ++ (if e.natAbs < 10 then "0" ++ digits else digits)

/-- Digits before and after a point, and perhaps a power of ten. -/
structure Numeral where
  whole : List Nat
  places : List Nat
  power : Option Int
  deriving Repr, DecidableEq

/-- Digits laid out: positional while the point is near them, else with a power
of ten. -/
def Digits.layout (d : Digits) : Numeral :=
  if -4 < d.point && d.point ≤ 16 then
    if d.point ≤ 0 then ⟨[0], List.replicate (-d.point).toNat 0 ++ d.digits, none⟩
    else
      let whole := d.digits.take d.point.toNat
      let rest := d.digits.drop d.point.toNat
      ⟨whole ++ List.replicate (d.point.toNat - whole.length) 0, if rest.isEmpty then [0] else rest,
        none⟩
  else ⟨d.digits.take 1, d.digits.drop 1, some (d.point - 1)⟩

def Numeral.text (n : Numeral) : String :=
  digitText n.whole ++ (if n.places.isEmpty then "" else "." ++ digitText n.places) ++
    (n.power.map exponentText).getD ""

/-- The text of a double: the fewest digits that read back. -/
def Binary.text : Binary → String
  | .nan => "nan"
  | .infinite negative => if negative then "-inf" else "inf"
  | .finite negative mantissa exponent narrow =>
    (if negative then "-" else "") ++ (shortest mantissa exponent narrow).layout.text

def floatText (x : Float) : String :=
  (Binary.ofFloat x).text

end CodeAtlas.Decimal
