/-! Double precision numbers taken apart: a finite number is a sign and
`mantissa · 2 ^ exponent`. -/

namespace CodeAtlas.Decimal

inductive Binary where
  | nan
  | infinite (negative : Bool)
  /-- The flag says that the next smaller number is only half as far away. -/
  | finite (negative : Bool) (mantissa : Nat) (exponent : Int) (narrowBelow : Bool)
  deriving Repr, DecidableEq

/-- The parts of a double, from its bits. -/
def Binary.ofBits (bits : Nat) : Binary :=
  let negative := bits / Nat.pow 2 63 % 2 == 1
  let biased : Nat := bits / Nat.pow 2 52 % Nat.pow 2 11
  let fraction := bits % Nat.pow 2 52
  if biased == 0x7ff then (if fraction == 0 then .infinite negative else .nan)
  else if biased == 0 then .finite negative fraction (-1074) false
  else
    .finite negative (Nat.pow 2 52 + fraction) ((biased : Int) - 1075)
      (fraction == 0 && biased != 1)

def Binary.ofFloat (x : Float) : Binary :=
  .ofBits x.toBits.toNat

end CodeAtlas.Decimal
