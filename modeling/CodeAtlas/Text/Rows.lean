/-! Rows of a text. Source positions count rows by the line feed alone, while
listings break at every character that ends a line; both splittings are here. -/

namespace CodeAtlas.Text

/-- Put a character in front of the first row. -/
def consRow (c : Char) : List (List Char) → List (List Char)
  | [] => [[c]]
  | row :: rest => (c :: row) :: rest

/-- Pieces between occurrences of a separator; there is always at least one. -/
def splitAt (sep : Char) : List Char → List (List Char)
  | [] => [[]]
  | c :: cs => if c == sep then [] :: splitAt sep cs else consRow c (splitAt sep cs)

/-- Pieces between empty lines: the text is cut at every pair of line feeds,
from the left and without overlap. -/
def splitBlocks : List Char → List (List Char)
  | [] => [[]]
  | [c] => [[c]]
  | c :: d :: cs =>
    if c == '\n' && d == '\n' then [] :: splitBlocks cs
    else consRow c (splitBlocks (d :: cs))

/-- A character that ends a row of a listing. -/
def isRowBreak (c : Char) : Bool :=
  let n := c.toNat
  (0xa ≤ n && n ≤ 0xd) || (0x1c ≤ n && n ≤ 0x1e) || n == 0x85 || n == 0x2028 || n == 0x2029

/-- Rows of a listing. A carriage return with its line feed ends one row, and a
break at the very end starts no further one. -/
def rows : List Char → List (List Char)
  | [] => []
  | [c] => if isRowBreak c then [[]] else [[c]]
  | c :: d :: cs =>
    if c == '\r' && d == '\n' then [] :: rows cs
    else if isRowBreak c then [] :: rows (d :: cs)
    else consRow c (rows (d :: cs))

/-- Rows joined by line feeds. -/
def joinRows (rs : List (List Char)) : List Char :=
  List.intercalate ['\n'] rs

/-- Rows `first` to `last` (counted from one, both included) of a listing. -/
def rowsBetween (rs : List (List Char)) (first last : Nat) : List Char :=
  joinRows ((rs.take last).drop (first - 1))

/-- Line ends of every platform made line feeds. -/
def unixLines : List Char → List Char
  | [] => []
  | [c] => [if c == '\r' then '\n' else c]
  | c :: d :: cs =>
    if c == '\r' && d == '\n' then '\n' :: unixLines cs
    else (if c == '\r' then '\n' else c) :: unixLines (d :: cs)

end CodeAtlas.Text
