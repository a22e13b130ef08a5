import CodeAtlas.Script.Scan

/-! Why a source is not accepted, and how the place of a fault is told: the row, the
character in it, and the text shown with it. -/

namespace CodeAtlas.Script

/-- The place of a fault. The offset counts characters from one; it is zero where a fault has
no character of its own. -/
structure Place where
  line : Nat
  offset : Nat
  text : List Char
  deriving Repr, DecidableEq, Inhabited

inductive Fault where
  /-- The source is not Python. -/
  | malformed (message : String) (place : Option Place)
  /-- Reading goes down too many levels. -/
  | tooDeep
  /-- The tree that was read has too many levels. -/
  | tooTall
  /-- A fault cannot be told, since its place lies before the start of its row. -/
  | untold
  deriving Repr, DecidableEq, Inhabited

/-- Rows of a source without their line feeds. -/
def Source.rows (source : Source) : List (List Char) :=
  (Text.splitAt '\n' source.chars).dropLast

/-- Rows `first` to `last` of a source, each with its line feed. -/
def Source.stretch (source : Source) (first last : Nat) : List Char :=
  ((source.rows.drop (first - source.firstLine)).take (last + 1 - first)).flatMap (· ++ ['\n'])

/-- What is shown with a fault on a row: all that is kept if the scanner is not beyond that
row, or else the row alone. -/
def Source.shown (source : Source) (reached : Reached) (line : Nat) : List Char :=
  if reached.line ≤ line then source.stretch reached.shownFrom reached.line
  else source.rows.getD (line - source.firstLine) []

/-- Number of characters that begin in the first `n` bytes, one of which may lie beyond
the end. -/
def charsWithin (text : List Char) (n : Int) : Nat :=
  count n.toNat text
where
  count : Nat → List Char → Nat
    | 0, _ => 0
    | _ + 1, [] => 1
    | n + 1, c :: rest => count (n + 1 - charWidth c) rest + 1

/-- A fault at a byte of a row, counted from one. The bytes of an embedded source are counted
from the column at which it starts, on every row. -/
def Source.fault (source : Source) (reached : Reached) (message : String) (line : Nat)
    (byte : Int) : Fault :=
  let text := source.shown reached line
  let byte := if source.embedded then byte - source.firstCol else byte
  if byte < 0 then .untold
  else
    .malformed (if source.embedded then "f-string: " ++ message else message)
      (some ⟨line, charsWithin text byte, text⟩)

/-- A fault at a token. Layout tokens stand where the scanner is. -/
def Source.faultAt (source : Source) (token : Token) (message : String) : Fault :=
  source.fault token.reached message token.line
    (if token.col == -1 then token.reached.col else token.col + 1)

/-- A bracket that is never closed. -/
def Source.unclosed (source : Source) (reached : Reached) (left : Bracket) : Fault :=
  source.fault reached ("'" ++ left.mark.toString ++ "' was never closed") left.line (left.col + 1)

/-- Bytes of the kept rows before the one that the scanner is on. -/
def Source.before (source : Source) (reached : Reached) : Nat :=
  if reached.line ≤ reached.shownFrom then 0
  else widthOf (source.stretch reached.shownFrom (reached.line - 1))

/-- The fault behind a broken token. -/
def Source.troubleFault (source : Source) (scanned : Scanned) (token : Token) : Fault :=
  let atRow := fun message byte => source.fault token.reached message token.reached.line byte
  match scanned.trouble with
  | some (.reported message line offset row) => .malformed message (some ⟨line, offset, row⟩)
  | some .cutShort =>
    match scanned.brackets with
    | b :: _ => source.unclosed token.reached b
    | [] => source.faultAt token "unexpected EOF while parsing"
  | some .unmatchedDedent =>
    source.faultAt token "unindent does not match any outer indentation level"
  | some .mixedBlanks => atRow "inconsistent use of tabs and spaces in indentation" 1
  | some .tooManyBlocks => atRow "too many levels of indentation" 1
  | some .brokenJoin =>
    atRow "unexpected character after line continuation character"
      (source.before token.reached + token.reached.col)
  | none => .tooDeep

/-- A fault further on in the source that is told in place of one found before it: one of
the scanner's own, or a bracket that was left open on an earlier row. -/
def Source.laterFault? (source : Source) (scanned : Scanned) (line : Nat) : Option Fault :=
  match scanned.trouble, scanned.tokens.back? with
  | some (.reported message line offset row), _ =>
    some (.malformed message (some ⟨line, offset, row⟩))
  | some _, some last =>
    match scanned.brackets with
    | b :: _ => if line > b.line then some (source.unclosed last.reached b) else none
    | [] => none
  | _, _ => none

end CodeAtlas.Script
