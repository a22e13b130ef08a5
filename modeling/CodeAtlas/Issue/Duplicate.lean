import CodeAtlas.Issue.Basic
import CodeAtlas.Text.Blank
import CodeAtlas.Text.Pattern
import CodeAtlas.Text.Rows
import CodeAtlas.Text.Search

/-! Blocks of code that occur more than once. Two blocks are the same when their texts without
blanks at the ends have one digest; each one after the first is an issue. -/

namespace CodeAtlas.Issue

/-- A block and the row on which it is taken to start. -/
structure Block where
  text : List Char
  line : Nat
  deriving Repr

/-- The text by which blocks are compared. -/
def Block.bare (b : Block) : List Char := Text.strip b.text

/-- Repeated blocks, given the rows that are noted for the digests that came before. -/
def repeatedBy {δ : Type} [BEq δ] (digest : List Char → δ) (lang : Language)
    (rows : List (δ × Nat)) : List Block → List Issue
  | [] => []
  | b :: rest =>
    match rows.lookup (digest b.bare) with
    | some line => ⟨lang, .duplicate line b.line⟩ :: repeatedBy digest lang rows rest
    | none => repeatedBy digest lang (rows ++ [(digest b.bare, b.line)]) rest

/-- Blocks between empty lines, each starting after as many rows as the earlier
ones have. -/
def paragraphsFrom (rowsBefore : Nat) : List (List Char) → List Block
  | [] => []
  | b :: rest => ⟨b, rowsBefore + 1⟩ :: paragraphsFrom (rowsBefore + (Text.rows b).length) rest

def paragraphs (code : List Char) : List Block :=
  paragraphsFrom 0 (Text.splitBlocks code)

/-- A function from its head to the next one that starts a row. -/
def functionPattern : Text.Pattern :=
  .sequence [.text "def".toList, .several (.one Text.isBlank), .several (.one Text.isWord),
    .text ['('], .few (.one (· != '\n')), .text [')', ':'],
    .one (fun _ => true), .few (.one fun _ => true),
    .ahead (.either (.text "\ndef".toList) .finish)]

/-- Functions, each with the row on which its text first occurs. -/
def functionBlocks (code : List Char) : List Block :=
  (functionPattern.matches code).map fun m =>
    let offset := (Text.find? m.matched code).getD 0
    ⟨m.matched, (code.take offset).count '\n' + 1⟩

/-- The blocks of a source. -/
def blocks (lang : Language) (code : String) : List Block :=
  match lang with
  | .python => functionBlocks code.toList
  | .java => paragraphs code.toList

/-- Repeated blocks of a source, told by a digest. -/
def duplicatesBy {δ : Type} [BEq δ] (digest : List Char → δ) (lang : Language) (code : String) :
    List Issue :=
  repeatedBy digest lang [] (blocks lang code)

/-- Repeated blocks of a source. A text is its own digest, so that no two have the same. -/
def duplicates (lang : Language) (code : String) : List Issue :=
  duplicatesBy (fun text => text) lang code

end CodeAtlas.Issue
