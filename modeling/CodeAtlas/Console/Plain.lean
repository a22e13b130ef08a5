import CodeAtlas.Request

/-! What is shown on the terminal, as plain lines: marks for colours are left out, and
tables have a column of equal width for each heading. -/

namespace CodeAtlas.Console

def styleWords : List String := ["bold", "cyan", "green", "magenta", "red", "yellow"]

/-- Whether a text between brackets is a mark for a style, or for the end of one. -/
def isStyle (inner : List Char) : Bool :=
  let words := match inner with
    | '/' :: rest => rest
    | _ => inner
  ((String.ofList words).splitOn " ").all styleWords.contains

/-- A text without its marks, each one skipped as a whole; `skip` counts what is left
of the mark at hand. -/
def unmarked (skip : Nat) : List Char → List Char
  | [] => []
  | c :: cs =>
    match skip with
    | n + 1 => unmarked n cs
    | 0 =>
      let inner := cs.takeWhile (· ≠ ']')
      if c = '[' && isStyle inner && inner.length < cs.length then
        unmarked (inner.length + 1) cs
      else c :: unmarked 0 cs

def plainText (text : String) : String :=
  String.ofList (unmarked 0 text.toList)

/-- A text with blanks after it up to a width. -/
def padded (width : Nat) (text : String) : String :=
  text ++ String.ofList (List.replicate (width - text.length) ' ')

/-- The lines of a table: title, headings, rows. -/
def tableLines (title : String) (headings : List String) (rows : List (List String)) :
    List String :=
  let widths := headings.zipIdx.map fun (h, i) =>
    (rows.filterMap fun r => (r[i]?).map String.length).foldl max h.length
  let line := fun (r : List String) => "  ".intercalate (List.zipWith padded widths r)
  title :: line headings :: rows.map line

/-- The plain lines of what is shown. -/
def plainLines : Shown → List String
  | .line text => [plainText text]
  | .blank => [""]
  | .task _ text | .progress _ text => [plainText text]
  | .table title columns rows => tableLines title (columns.map (·.1)) rows

end CodeAtlas.Console
