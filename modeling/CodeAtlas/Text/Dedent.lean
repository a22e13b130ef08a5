import CodeAtlas.Text.Rows

/-! Removing common indentation. Lines made of spaces and tabs alone become
empty, and the longest indentation that all other lines share is taken away. -/

namespace CodeAtlas.Text

def isIndent (c : Char) : Bool :=
  c == ' ' || c == '\t'

/-- The longest beginning of two lists. -/
def commonStart : List Char → List Char → List Char
  | a :: as, b :: bs => if a == b then a :: commonStart as bs else []
  | _, _ => []

/-- A row of spaces and tabs alone, emptied; any other row as it is. -/
def blankRow (row : List Char) : List Char :=
  if row.all isIndent then [] else row

/-- The indentation that all nonempty rows share. -/
def margin (rs : List (List Char)) : List Char :=
  match (rs.filter (!·.isEmpty)).map (·.takeWhile isIndent) with
  | [] => []
  | first :: rest => rest.foldl commonStart first

def dedent (s : List Char) : List Char :=
  let rs := (splitAt '\n' s).map blankRow
  let m := margin rs
  joinRows (rs.map fun row => if m.isPrefixOf row then row.drop m.length else row)

end CodeAtlas.Text
