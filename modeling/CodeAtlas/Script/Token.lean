/-! Tokens of Python source, with the place where each one stands. -/

namespace CodeAtlas.Script

inductive TokenKind where
  | name
  | keyword
  | number
  | text
  | mark
  | newline
  | indent
  | dedent
  | finish
  /-- The scanner could not go on. -/
  | broken
  deriving Repr, DecidableEq, Inhabited

/-- How far the scanner has come: the row, the bytes of it that have been read, and the
row at which the stretch begins that is kept for showing. -/
structure Reached where
  line : Nat
  col : Nat
  shownFrom : Nat
  deriving Repr, DecidableEq, Inhabited

/-- A token. Columns count bytes; layout tokens have none, which is written -1. -/
structure Token where
  kind : TokenKind
  text : String
  line : Nat
  col : Int
  lastLine : Nat
  lastCol : Int
  /-- Number of brackets open after it. -/
  level : Nat
  reached : Reached
  deriving Repr, Inhabited

/-- Words that cannot be names. -/
def keywords : List String := [
  "False", "None", "True", "and", "as", "assert", "async", "await", "break", "class", "continue",
  "def", "del", "elif", "else", "except", "finally", "for", "from", "global", "if", "import", "in",
  "is", "lambda", "nonlocal", "not", "or", "pass", "raise", "return", "try", "while", "with",
  "yield"]

/-- Words that are keywords in some places and names in all others. -/
def softKeywords : List String := ["_", "case", "match"]

/-- A token that only marks the layout of the rows, or the end. -/
def TokenKind.isLayout : TokenKind → Bool
  | .newline | .indent | .dedent | .finish => true
  | _ => false

end CodeAtlas.Script
