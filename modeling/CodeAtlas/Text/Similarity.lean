import CodeAtlas.Text.Search

/-! How alike two words are: twice the length of their common blocks over the length
of both. The longest common block comes first, then those on both sides of it. -/

namespace CodeAtlas.Text

/-- The length of the common start of two texts. -/
def commonLength : List Char → List Char → Nat
  | a :: as, b :: bs => if a = b then commonLength as bs + 1 else 0
  | _, _ => 0

/-- Where a block lies in two texts. -/
structure Block where
  left : Nat
  right : Nat
  length : Nat

/-- The longest block that starts at the head of the first text; of equal blocks
the earliest in the second. -/
def blockAt (left : Nat) (a b : List Char) : Block :=
  (List.range b.length).foldl (fun best i =>
    let n := commonLength a (b.drop i)
    if best.length < n then ⟨left, i, n⟩ else best) ⟨left, 0, 0⟩

/-- The longest common block; of equal blocks the earliest in the first text. -/
def longestBlock (a b : List Char) : Block :=
  (List.range a.length).foldl (fun best i =>
    let found := blockAt i (a.drop i) b
    if best.length < found.length then found else best) ⟨0, 0, 0⟩

/-- The total length of common blocks. -/
def commonTotal : Nat → List Char → List Char → Nat
  | 0, _, _ => 0
  | fuel + 1, a, b =>
    let m := longestBlock a b
    if m.length = 0 then 0
    else
      m.length + commonTotal fuel (a.take m.left) (b.take m.right) +
        commonTotal fuel (a.drop (m.left + m.length)) (b.drop (m.right + m.length))

/-- Two words are alike when three fifths of them agree. -/
def alike (a b : String) : Bool :=
  let total := a.length + b.length
  3 * total ≤ 10 * commonTotal total a.toList b.toList

end CodeAtlas.Text
