import CodeAtlas.Lint.Check
import CodeAtlas.Text.Blank
import CodeAtlas.Text.Rows
import CodeAtlas.Text.Search

/-! The findings in a source as text, one to a line. A source that cannot be read gets a message
with the row that is at fault. -/

namespace CodeAtlas.Lint

open Script

/-- Why there is no listing. -/
inductive NoListing where
  | trouble (t : Trouble)
  /-- There is no row to show. -/
  | noRow
  deriving Repr

def Report.line (file : String) (r : Report) : String :=
  file ++ ":" ++ toString r.position.line ++ ":" ++ toString (r.position.col + 1) ++ ": " ++
    r.finding.text

/-- A mark under the character of a row, after as many blanks as stand before it. -/
def marker (row : List Char) (offset : Nat) : List Char :=
  ((row.take (offset - 1)).map fun c => if Text.isBlank c then c else ' ') ++ ['^']

/-- What is listed for a source that is not Python. -/
def faultListing (file message : String) : Option Place → Except NoListing String
  | none => .ok (file ++ ":1: " ++ message ++ "\n")
  | some ⟨line, offset, text⟩ =>
    match (Text.rows text).getLast? with
    | none => .error .noRow
    | some row =>
      let offset := max offset 1
      .ok (file ++ ":" ++ toString (max line 1) ++ ":" ++ toString offset ++ ": " ++ message ++
        "\n" ++ String.ofList row ++ "\n" ++ String.ofList (marker row offset) ++ "\n")

/-- The findings in a source. -/
def listing (file code : String) : Except NoListing String :=
  match parse code.toList with
  | .error (.malformed message place) => faultListing file message place
  | .error _ => .ok (file ++ ": problem decoding source\n")
  | .ok body =>
    let n := code.length
    match check file ((n + 2) * (n + 2)) body with
    | .error t => .error (.trouble t)
    | .ok reports => .ok (String.join (reports.map fun r => r.line file ++ "\n"))

end CodeAtlas.Lint
