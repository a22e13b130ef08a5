import CodeAtlas.Decimal.Binary

/-! Doubles with a fixed number of places. The exact value is rounded, a tie
going to the even neighbour. -/

namespace CodeAtlas.Decimal

/-- The nearest whole number to a fraction, of two the even one. -/
def roundDiv (num den : Nat) : Nat :=
  let q := num / den
  let r := num % den
  if 2 * r < den then q
  else if den < 2 * r then q + 1
  else if q % 2 == 0 then q else q + 1

/-- `n / 10 ^ places` with that many places. -/
def placesText (places n : Nat) : String :=
  let digits := Nat.toDigits 10 n
  let padded := List.replicate (places + 1 - digits.length) '0' ++ digits
  let whole := padded.take (padded.length - places)
  String.ofList (whole ++ '.' :: padded.drop (padded.length - places))

/-- A double with `places` (at least one) digits after the point. -/
def fixedText (places : Nat) (x : Float) : String :=
  match Binary.ofFloat x with
  | .nan => "nan"
  | .infinite negative => if negative then "-inf" else "inf"
  | .finite negative mantissa exponent _ =>
    let n :=
      if exponent ≥ 0 then mantissa * Nat.pow 2 exponent.toNat * Nat.pow 10 places
      else roundDiv (mantissa * Nat.pow 10 places) (Nat.pow 2 (-exponent).toNat)
    (if negative then "-" else "") ++ placesText places n

end CodeAtlas.Decimal
