/-! Choices by the throw of dice. The throws are a list that is read again from its
start when it has come to its end. -/

namespace CodeAtlas.Training

structure Dice where
  throws : List Int
  /-- How many were thrown. -/
  thrown : Nat
  deriving Repr, DecidableEq

abbrev Roll := StateM Dice

/-- A number below `k`. -/
def below (k : Nat) : Roll Nat := do
  let d ← get
  set { d with thrown := d.thrown + 1 }
  pure (((d.throws[d.thrown % d.throws.length]?).getD 0) % (k : Int)).toNat

/-- A number from `a` to `b`. -/
def between (a b : Nat) : Roll Nat := do
  pure (a + (← below (b - a + 1)))

/-- One of several items. -/
def choose (xs : List String) : Roll String := do
  pure ((xs[← below xs.length]?).getD "")

/-- Two different items. -/
def chooseTwo (xs : List String) : Roll (String × String) := do
  let i ← below xs.length
  let a := (xs[i]?).getD ""
  let b ← choose (xs.eraseIdx i)
  pure (a, b)

/-- The results of several rolls. -/
def rollMany {α : Type} (roll : Roll α) : Nat → Roll (List α)
  | 0 => pure []
  | n + 1 => do
    let a ← roll
    let rest ← rollMany roll n
    pure (a :: rest)

end CodeAtlas.Training
