/-! Finding one text inside another. -/

namespace CodeAtlas.Text

/-- Offset of the first occurrence of a text. -/
def find? (needle : List Char) : List Char → Option Nat
  | [] => if needle.isEmpty then some 0 else none
  | c :: cs =>
    if needle.isPrefixOf (c :: cs) then some 0 else (find? needle cs).map (· + 1)

def occurs (needle s : List Char) : Bool :=
  (find? needle s).isSome

/-- What stands before and after the first occurrence of a text. -/
def cut? (needle s : List Char) : Option (List Char × List Char) :=
  (find? needle s).map fun i => (s.take i, s.drop (i + needle.length))

/-- Whether a string occurs inside another. -/
def contains (needle s : String) : Bool :=
  occurs needle.toList s.toList

/-- The part after the last occurrence of a character, or the whole. -/
def afterLast (sep : Char) (s : List Char) : List Char :=
  (s.reverse.takeWhile (· != sep)).reverse

end CodeAtlas.Text
