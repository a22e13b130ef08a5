import CodeAtlas.Script.Numeral
import CodeAtlas.Script.Token
import CodeAtlas.Text.Printable
import CodeAtlas.Text.Rows

/-! From Python source to tokens. Rows are joined inside brackets and after a backslash;
the depth of a row's indentation gives the layout tokens. Where the source cannot be cut
into tokens the last one is broken, and the trouble is told beside the tokens. -/

namespace CodeAtlas.Script

/-- Source to be read: its characters, with line feeds only and one at the end, and where
it stands. An expression inside a text literal is a source of its own, whose first row
begins at a column of the enclosing one. -/
structure Source where
  chars : List Char
  firstLine : Nat
  firstCol : Nat
  embedded : Bool
  deriving Repr, Inhabited

/-- An opening bracket that has not been closed. -/
structure Bracket where
  mark : Char
  line : Nat
  col : Nat
  deriving Repr, Inhabited

/-- Why the scanner cannot go on. -/
inductive Trouble where
  /-- A fault with its own message, at a character of a row. -/
  | reported (message : String) (line offset : Nat) (row : List Char)
  /-- The source ends inside brackets or after a backslash. -/
  | cutShort
  /-- A row is indented less than the block before it and like none around it. -/
  | unmatchedDedent
  /-- The indentation depends on the width of a tab. -/
  | mixedBlanks
  | tooManyBlocks
  /-- A backslash that joins rows is not the last character of its row. -/
  | brokenJoin
  deriving Repr, Inhabited

structure Scanner where
  rest : List Char
  /-- The source from the start of the row. -/
  row : List Char
  line : Nat
  /-- Bytes of the row that have been read. -/
  col : Nat
  /-- The row has been read to its end. -/
  spent : Bool
  shownFrom : Nat
  /-- Opening brackets that have not been closed, innermost first. -/
  brackets : List Bracket
  /-- Indentations of the enclosing blocks, innermost first, measured with wide and with
  narrow tabs. -/
  indents : List (Nat × Nat)
  atLineStart : Bool
  /-- The row holds nothing but blanks and a comment. -/
  blankLine : Bool
  found : Array Token
  source : Source

/-- What comes of one step. -/
inductive Progress where
  | more (s : Scanner)
  | ended (s : Scanner) (trouble : Option Trouble)

def charWidth (c : Char) : Nat := c.utf8Size

def widthOf (cs : List Char) : Nat :=
  cs.foldl (fun n c => n + charWidth c) 0

/-- Pass over one character of the row. -/
def Scanner.step (s : Scanner) : Scanner :=
  match s.rest with
  | [] => s
  | c :: rest => { s with rest := rest, col := s.col + charWidth c, spent := c == '\n' }

/-- Go on to the next row if this one is spent; nothing at the end of the source. `kept`
says that the rows before it go on being shown with it. -/
def Scanner.enter (s : Scanner) (kept : Bool) : Option Scanner :=
  if !s.spent then some s
  else if s.rest.isEmpty then none
  else
    some { s with
      row := s.rest, line := s.line + 1, col := 0, spent := false,
      shownFrom := if kept then s.shownFrom else s.line + 1 }

/-- Pass over a number of characters, which may stand on several rows. -/
def Scanner.skip (s : Scanner) : Nat → Scanner
  | 0 => s
  | n + 1 => ((s.enter true).getD s).step.skip n

/-- Read the row to its end. -/
def Scanner.toRowEnd (s : Scanner) : Scanner :=
  let ahead := s.rest.takeWhile (· != '\n')
  { s with rest := s.rest.drop (ahead.length + 1), col := s.col + widthOf ahead + 1, spent := true }

def Scanner.reached (s : Scanner) : Reached := ⟨s.line, s.col, s.shownFrom⟩

/-- The column of a token in the enclosing source, if it ends on the first row. -/
def Scanner.shift (s : Scanner) (col : Int) : Int :=
  if s.source.embedded && s.line == s.source.firstLine then s.source.firstCol + col else col

/-- Add a token that ends here. -/
def Scanner.emit (s : Scanner) (kind : TokenKind) (text : String) (line : Nat) (col lastCol : Int) :
    Scanner :=
  { s with
    found := s.found.push
      ⟨kind, text, line, s.shift col, s.line, s.shift lastCol, s.brackets.length, s.reached⟩ }

/-- Add a token that stands nowhere. -/
def Scanner.emitLayout (s : Scanner) (kind : TokenKind) : Scanner :=
  s.emit kind "" s.line (-1) (-1)

/-- Stop with a broken token. -/
def Scanner.stop (s : Scanner) (trouble : Trouble) : Progress :=
  .ended (s.emitLayout .broken) (some trouble)

/-- Stop with a message about what has been read of the row. -/
def Scanner.report (s : Scanner) (message : String) : Progress :=
  s.stop (.reported message s.line (s.row.length - s.rest.length) (s.row.takeWhile (· != '\n')))

def maxBrackets : Nat := 200

def maxIndents : Nat := 100

/-- Width of a row's indentation: `wide`, `narrow`, and the width at the first
backslash that joins rows, if one is met. -/
structure Indentation where
  wide : Nat
  narrow : Nat
  joined : Nat

/-- After a backslash: the row that is joined to this one, or why there is none. -/
def Scanner.joinRow (s : Scanner) (kept : Bool) : Except (Scanner × Trouble) Scanner :=
  match s.rest with
  | '\n' :: _ =>
    match s.step.enter kept with
    | some next => .ok next
    | none => .error (s.step, .cutShort)
  | _ => .error ({ s with col := s.col + 1 }, .brokenJoin)

/-- Measure the indentation of a row, `fuel` characters at most. -/
def measure : Nat → Indentation → Scanner → Except (Scanner × Trouble) (Indentation × Scanner)
  | 0, i, s => .ok (i, s)
  | fuel + 1, i, s =>
    match s.rest with
    | ' ' :: _ => measure fuel { i with wide := i.wide + 1, narrow := i.narrow + 1 } s.step
    | '\t' :: _ =>
      measure fuel { i with wide := (i.wide / 8 + 1) * 8, narrow := i.narrow + 1 } s.step
    | '\x0c' :: _ => measure fuel { i with wide := 0, narrow := 0 } s.step
    | '\\' :: _ =>
      match s.step.joinRow false with
      | .error e => .error e
      | .ok s => measure fuel { i with joined := if i.joined == 0 then i.wide else i.joined } s
    | _ => .ok (i, s)

/-- The blocks around a row of the given width and the number of blocks that it ends, or
what is wrong with it. -/
def dedentTo (wide narrow : Nat) : List (Nat × Nat) → Except Trouble (List (Nat × Nat) × Nat)
  | [] => .error .unmatchedDedent
  | (w, n) :: outer =>
    if wide == w then (if narrow == n then .ok ((w, n) :: outer, 0) else .error .mixedBlanks)
    else if w < wide then .error .unmatchedDedent
    else (dedentTo wide narrow outer).map fun r => (r.1, r.2 + 1)

/-- Add a number of block ends. -/
def Scanner.dedents (s : Scanner) : Nat → Scanner
  | 0 => s
  | n + 1 => (s.emitLayout .dedent).dedents n

/-- Compare a row's indentation with the enclosing block. -/
def Scanner.indentTo (s : Scanner) (wide narrow : Nat) : Except Trouble Scanner :=
  match s.indents with
  | [] => .ok s
  | (w, n) :: _ =>
    if wide > w then
      if s.indents.length ≥ maxIndents then .error .tooManyBlocks
      else if narrow ≤ n then .error .mixedBlanks
      else .ok ({ s with indents := (wide, narrow) :: s.indents }.emitLayout .indent)
    else
      (dedentTo wide narrow s.indents).map fun r => { s with indents := r.1 }.dedents r.2

/-- The end of the source: blocks are closed. -/
def Scanner.finish (s : Scanner) : Progress :=
  if s.brackets.isEmpty then
    .ended ((s.dedents (s.indents.length - 1)).emitLayout .finish) none
  else s.stop .cutShort

/-- The start of a row. -/
def Scanner.startLine (s : Scanner) : Progress :=
  match s.enter false with
  | none => s.finish
  | some s =>
    match measure (s.rest.length + 1) ⟨0, 0, 0⟩ s with
    | .error (s, trouble) => s.stop trouble
    | .ok (i, s) =>
      let s := { s with atLineStart := false, blankLine := false }
      match s.rest with
      | '#' :: _ | '\n' :: _ => .more { s with blankLine := true }
      | _ =>
        if s.brackets.isEmpty then
          let placed :=
            if i.joined != 0 then s.indentTo i.joined i.joined else s.indentTo i.wide i.narrow
          match placed with
          | .ok s => .more s
          | .error trouble => s.toRowEnd.stop trouble
        else .more s

/-! ### Texts -/

/-- Prefixes of text literals, in lower case. -/
def textPrefixes : List String := ["b", "u", "r", "f", "br", "rb", "fr", "rf"]

def isQuote (c : Char) : Bool := c == '"' || c == '\x27'

/-- Length of the prefix of a text literal, if one stands here. -/
def prefixLength? (cs : List Char) : Option Nat :=
  let letters := (cs.takeWhile fun c => c.isAlpha).map Char.toLower
  if (cs.head?.map isQuote).getD false then some 0
  else if textPrefixes.contains (String.ofList letters)
      && ((cs.drop letters.length).head?.map isQuote).getD false then some letters.length
  else none

/-- Number of characters of a literal's body including the closing quotes, after the
opening ones; `size` quotes in a row close it. Without an end, the number of characters
that were read in search of it. -/
def textLength (quote : Char) (size : Nat) : Nat → List Char → Except Nat Nat
  | _, [] => .error 0
  | seen, c :: rest =>
    if c == quote then
      if seen + 1 == size then .ok 1 else bump 1 (textLength quote size (seen + 1) rest)
    else if size == 1 && c == '\n' then .error 0
    else if c == '\\' then
      match rest with
      | [] => .error 1
      | _ :: more => bump 2 (textLength quote size 0 more)
    else bump 1 (textLength quote size 0 rest)
where
  bump (n : Nat) : Except Nat Nat → Except Nat Nat
    | .ok m => .ok (m + n)
    | .error m => .error (m + n)

/-- Length of the text literal that starts with the given quote, and of the quotes that
close it. -/
def quotedLength (cs : List Char) : Nat × Except Nat Nat :=
  match cs with
  | q :: a :: b :: rest =>
    if a == q && b == q then (3, textLength.bump 3 (textLength q 3 0 rest))
    else if a == q then (1, .ok 2)
    else (1, textLength.bump 1 (textLength q 1 0 (a :: b :: rest)))
  | [q, a] => (1, if a == q then .ok 2 else .error 1)
  | cs => (1, .error cs.length)

/-- The row on which a text without an end was given up. -/
def Scanner.lineAfter (s : Scanner) (n : Nat) : Nat :=
  let s := s.skip n
  ((s.enter true).getD s).line

/-- A text literal whose prefix has the given length. -/
def Scanner.takeText (s : Scanner) (marks : Nat) : Progress :=
  match quotedLength (s.rest.drop marks) with
  | (_, .ok n) =>
    let ended := s.skip (marks + n)
    let text := String.ofList (s.rest.take (marks + n))
    .more (ended.emit .text text s.line s.col ended.col)
  | (size, .error n) =>
    let message := if size == 3 then "unterminated triple-quoted string literal"
      else "unterminated string literal"
    s.step.report
      (message ++ " (detected at line " ++ toString (s.lineAfter (marks + n)) ++ ")")

/-! ### Words, numbers and marks -/

/-- Add a token of `n` characters of the row. -/
def Scanner.take (s : Scanner) (kind : TokenKind) (n : Nat) : Scanner :=
  let ended := s.skip n
  ended.emit kind (String.ofList (s.rest.take n)) s.line s.col ended.col

/-- A code point in hexadecimal, with four digits at least. -/
def shownPoint (c : Char) : String :=
  let digits := (Nat.toDigits 16 c.toNat).map Char.toUpper
  "U+" ++ String.ofList (List.replicate (4 - digits.length) '0' ++ digits)

/-- The words for a character that can stand nowhere. -/
def strayMessage (c : Char) : String :=
  if Text.isPrintable c then "invalid character '" ++ c.toString ++ "' (" ++ shownPoint c ++ ")"
  else "invalid non-printable character " ++ shownPoint c

/-- Number of characters at the front of a word that make an identifier. -/
def identifierLength : List Char → Nat
  | [] => 0
  | c :: cs =>
    if Text.isIdentifierStart c then (cs.takeWhile Text.isIdentifierPart).length + 1 else 0

/-- A name or a keyword. -/
def Scanner.takeWord (s : Scanner) : Progress :=
  let word := s.rest.takeWhile Numeral.isNameChar
  let valid := identifierLength word
  match word.drop valid with
  | [] =>
    let kind := if keywords.contains (String.ofList word) then .keyword else .name
    .more (s.take kind word.length)
  | stray :: _ => (s.skip (valid + 1)).report (strayMessage stray)

def Scanner.takeNumber (s : Scanner) : Progress :=
  match Numeral.read s.rest with
  | .ok rest => .more (s.take .number (s.rest.length - rest.length))
  | .error e =>
    let ended := s.skip (s.rest.length - e.rest.length)
    if e.atStart then
      ended.stop (.reported e.message s.line (s.col + 1) (s.row.takeWhile (· != '\n')))
    else ended.report e.message

def threeMarks : List String := ["**=", "//=", ">>=", "<<=", "..."]

def twoMarks : List String := [
  "!=", "%=", "&=", "**", "*=", "+=", "-=", "->", "//", "/=", ":=", "<<", "<=", "<>", "==", ">=",
  ">>", "@=", "^=", "|="]

/-- Length of the operator or bracket that stands here. -/
def markLength (cs : List Char) : Nat :=
  if threeMarks.any (Numeral.startsWith · cs) then 3
  else if twoMarks.any (Numeral.startsWith · cs) then 2
  else 1

def closing : Char → Option Char
  | '(' => some ')'
  | '[' => some ']'
  | '\x7b' => some '\x7d'
  | _ => none

/-- A mark of one character; brackets are kept account of. -/
def Scanner.takeMark (s : Scanner) (c : Char) : Progress :=
  let ended := s.step
  let emit := fun brackets =>
    Progress.more ({ ended with brackets := brackets }.emit .mark c.toString s.line s.col ended.col)
  if !Text.isPrintable c then ended.report (strayMessage c)
  else if (closing c).isSome then
    if s.brackets.length ≥ maxBrackets then ended.report "too many nested parentheses"
    else emit (⟨c, s.line, s.col⟩ :: s.brackets)
  else if c == ')' || c == ']' || c == '\x7d' then
    match s.brackets with
    | [] => ended.report ("unmatched '" ++ c.toString ++ "'")
    | o :: outer =>
      if closing o.mark == some c then emit outer
      else
        ended.report
          ("closing parenthesis '" ++ c.toString ++ "' does not match opening parenthesis '" ++
            o.mark.toString ++ "'" ++
            (if o.line == s.line then "" else " on line " ++ toString o.line))
  else emit s.brackets

/-- The end of a row, at which a comment that began at a column may stand. -/
def Scanner.endRow (s : Scanner) (col : Nat) : Progress :=
  let ended := s.step
  let after := if s.blankLine || !s.brackets.isEmpty then ended
    else ended.emit .newline "" s.line col s.col
  .more { after with atLineStart := true }

/-- One token of a row, or the end of the row. -/
def Scanner.next (s : Scanner) : Progress :=
  match s.rest with
  | [] => s.finish
  | c :: rest =>
    if c == ' ' || c == '\t' || c == '\x0c' then .more s.step
    else if c == '#' then (s.skip (s.rest.takeWhile (· != '\n')).length).endRow s.col
    else if c == '\n' then s.endRow s.col
    else if c == '\\' then
      match s.step.joinRow true with
      | .ok s => .more s
      | .error (s, trouble) => s.stop trouble
    else
      match prefixLength? s.rest with
      | some n => s.takeText n
      | none =>
        if c.isAlpha || c == '_' || c.toNat ≥ 128 then s.takeWord
        else if Numeral.isDecimal c
            || (c == '.' && (rest.head?.map Numeral.isDecimal).getD false) then s.takeNumber
        else
          let n := markLength s.rest
          if n > 1 then .more (s.take .mark n) else s.takeMark c

/-- The tokens of a source, the trouble that ended them, and the brackets left open. -/
structure Scanned where
  tokens : Array Token
  trouble : Option Trouble
  brackets : List Bracket
  deriving Inhabited

def scanLoop : Nat → Scanner → Scanned
  | 0, s => ⟨s.found, none, s.brackets⟩
  | fuel + 1, s =>
    match if s.atLineStart then s.startLine else s.next with
    | .more s => scanLoop fuel s
    | .ended s trouble => ⟨s.found, trouble, s.brackets⟩

/-- Source with line feeds only and one at the end. A carriage return with its line feed
at the end counts as a row of its own. -/
def normalize (code : List Char) : List Char :=
  let rows := Text.unixLines code
  if rows.getLast? == some '\n' && !(['\n', '\r'].isPrefixOf code.reverse) then rows
  else rows ++ ['\n']

def scan (source : Source) : Scanned :=
  scanLoop (2 * source.chars.length + 4)
    ⟨source.chars, source.chars, source.firstLine - 1, 0, true, source.firstLine, [], [(0, 0)],
      true, false, #[], source⟩

end CodeAtlas.Script
