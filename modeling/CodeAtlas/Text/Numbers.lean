/-! Lists of numbers written in short, and the runs of code points that they may stand for. A number
ends in a digit or a capital letter, which has one of thirty-six values; small letters before it
count the thirty-sixes to the base of twenty-six. -/

namespace CodeAtlas.Text

/-- The value of a digit or a letter, from zero for `0` and for `a`. -/
def signValue (c : Char) : Nat :=
  if c.isDigit then c.toNat - 0x30
  else if c.isLower then c.toNat - 0x61
  else c.toNat - 0x41 + 10

/-- Read one more sign: the numbers so far, reversed, and the thirty-sixes of the next one. Blanks
mean nothing. -/
def takeSign (s : List Nat × Nat) (c : Char) : List Nat × Nat :=
  if c.isLower then (s.1, 26 * s.2 + signValue c)
  else if c.isAlphanum then ((36 * s.2 + signValue c) :: s.1, 0)
  else s

/-- The numbers in a text. -/
def numbersIn (text : String) : List Nat :=
  (text.foldl takeSign ([], 0)).1.reverse

/-- Whether a number is in one of the runs: the list says in turn how many numbers to skip and
how many to take. -/
def inRunsFrom : List Nat → Nat → Bool
  | gap :: length :: rest, n =>
    gap ≤ n && (n - gap < length || inRunsFrom rest (n - gap - length))
  | _, _ => false

/-- Whether a character is in one of the runs, which begin above ASCII. -/
def inRuns (runs : List Nat) (c : Char) : Bool :=
  0x80 ≤ c.toNat && inRunsFrom runs (c.toNat - 0x80)

end CodeAtlas.Text
