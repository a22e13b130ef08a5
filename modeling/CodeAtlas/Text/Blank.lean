/-! White space and trimming. A blank is any of the 29 characters that Unicode
treats as space, among them the no-break space and the ASCII separators. -/

namespace CodeAtlas.Text

/-- The white space characters of every script. -/
def isBlank (c : Char) : Bool :=
  let n := c.toNat
  (0x9 ≤ n && n ≤ 0xd) || (0x1c ≤ n && n ≤ 0x20) || n == 0x85 || n == 0xa0 || n == 0x1680 ||
    (0x2000 ≤ n && n ≤ 0x200a) || n == 0x2028 || n == 0x2029 || n == 0x202f || n == 0x205f ||
    n == 0x3000

def dropBlanks (s : List Char) : List Char :=
  s.dropWhile isBlank

/-- Both ends freed of blanks. -/
def strip (s : List Char) : List Char :=
  (dropBlanks (dropBlanks s).reverse).reverse

/-- Both ends of a string freed of blanks. -/
def trim (s : String) : String :=
  String.ofList (strip s.toList)

/-- Every run of blanks made one space, and none at either end. -/
def collapse (s : String) : String :=
  String.intercalate " " (wordsFrom [] s.toList)
where
  /-- The maximal runs without blanks, the current one held in reverse. -/
  wordsFrom (word : List Char) : List Char → List String
    | [] => if word.isEmpty then [] else [String.ofList word.reverse]
    | c :: cs =>
      if isBlank c then
        if word.isEmpty then wordsFrom [] cs
        else String.ofList word.reverse :: wordsFrom [] cs
      else wordsFrom (c :: word) cs

end CodeAtlas.Text
