/-! The doubles nearest to digits with a power of ten and to quotients of whole numbers. -/

namespace CodeAtlas.Decimal

open Float.Model (UnpackedFloat)

/-- The double nearest to `digits · 10 ^ power`; a power beyond every double
gives zero or infinity at once. -/
def ofScientific (digits : Nat) (power : Int) : Float :=
  if digits = 0 then 0.0
  else
    let magnitude := power + (Nat.toDigits 10 digits).length
    if magnitude > 400 then Float.ofScientific 1 false 400
    else if magnitude < -400 then 0.0
    else Float.ofScientific digits (power < 0) power.natAbs

/-- A whole number, with as many digits as it has. -/
def unrounded (n : Nat) : UnpackedFloat :=
  if h : n = 0 then .zero .positive else .finite .positive n 0 (Nat.pos_of_ne_zero h)

/-- The double nearest to a quotient of whole numbers; the divisor is not zero. -/
def ratio (num den : Nat) : Float :=
  .ofModel (.pack (.div .binary64 (unrounded num) (unrounded den)))

/-- The double nearest to a rational number. -/
def ofRat (q : Rat) : Float :=
  let x := ratio q.num.natAbs q.den
  if q.num < 0 then -x else x

end CodeAtlas.Decimal
