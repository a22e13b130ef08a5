import CodeAtlas.Json.Reader
import CodeAtlas.Script.Grammar.Value
import CodeAtlas.Text.CharName

/-! Text literals of Python source: the prefix, the body between the quotes, the
characters that escapes stand for, and the expressions embedded in formatted texts. -/

namespace CodeAtlas.Script

open Grammar (Scene)

structure Literal where
  raw : Bool
  bytes : Bool
  formatted : Bool
  /-- What comes before the body in the token. -/
  opening : List Char
  body : List Char
  deriving Repr

namespace Literal

/-- Take a text token apart. -/
def ofToken (token : String) : Literal :=
  let cs := token.toList
  let marks := cs.takeWhile fun c => !isQuote c
  let quoted := cs.dropWhile fun c => !isQuote c
  let size :=
    match quoted with
    | a :: b :: c :: _ :: _ :: _ => if a == b && b == c then 3 else 1
    | _ => 1
  let lower := marks.map Char.toLower
  ⟨lower.contains 'r', lower.contains 'b', lower.contains 'f', marks ++ quoted.take size,
    (quoted.drop size).take (quoted.length - 2 * size)⟩

/-! ### Escapes -/

/-- Up to `n` more octal digits. -/
def octalNumber : Nat → Nat → List Char → Nat × List Char
  | n + 1, acc, c :: rest =>
    if Numeral.isOctal c then octalNumber n (8 * acc + (c.toNat - 0x30)) rest else (acc, c :: rest)
  | _, acc, rest => (acc, rest)

/-- The code point of a one-letter escape; a joined row stands for nothing. -/
def simpleEscape? : Char → Option (List Nat)
  | '\n' => some []
  | '\\' => some [0x5c]
  | '\x27' => some [0x27]
  | '"' => some [0x22]
  | 'a' => some [7]
  | 'b' => some [8]
  | 'f' => some [0xc]
  | 'n' => some [0xa]
  | 'r' => some [0xd]
  | 't' => some [9]
  | 'v' => some [0xb]
  | _ => none

/-- A number of exactly `n` hexadecimal digits and the rest, or what is left where the
digits end too early. -/
def hexNumber : Nat → Nat → List Char → Except (List Char) (Nat × List Char)
  | 0, acc, rest => .ok (acc, rest)
  | n + 1, acc, c :: rest =>
    match Json.hexDigit? c with
    | some d => hexNumber n (16 * acc + d) rest
    | none => .error (c :: rest)
  | _ + 1, _, [] => .error []

/-- `n` in hexadecimal with the given number of digits. -/
def hexDigits (count n : Nat) : List Char :=
  let digits := Nat.toDigits 16 n
  List.replicate (count - digits.length) '0' ++ digits

/-- A text in ASCII: other characters are written as escapes, and so is a backslash that
stands before one of them or at the end. -/
def inAscii : List Char → List Char
  | [] => []
  | ['\\'] => "\\u005c".toList
  | '\\' :: c :: rest =>
    if c.toNat ≥ 128 then
      "\\u005c".toList ++ ('\\' :: 'U' :: hexDigits 8 c.toNat) ++ inAscii rest
    else '\\' :: c :: inAscii rest
  | c :: rest =>
    if c.toNat ≥ 128 then ('\\' :: 'U' :: hexDigits 8 c.toNat) ++ inAscii rest
    else c :: inAscii rest

/-- An escape that stands for nothing: what is left after it, and why. -/
structure BadEscape where
  rest : List Char
  why : String

/-- One escape after its backslash: what it stands for and the rest. -/
def readEscape : List Char → Except BadEscape (List Nat × List Char)
  | [] => .error ⟨[], "\\ at end of string"⟩
  | c :: rest =>
    match simpleEscape? c with
    | some points => .ok (points, rest)
    | none =>
      let hex := fun n (why : String) =>
        match hexNumber n 0 rest with
        | .ok (v, rest) =>
          if v > 0x10ffff then .error ⟨rest, "illegal Unicode character"⟩ else .ok ([v], rest)
        | .error rest => .error ⟨rest, why⟩
      if Numeral.isOctal c then
        let (n, rest) := octalNumber 2 (c.toNat - 0x30) rest
        .ok ([n], rest)
      else if c == 'x' then hex 2 "truncated \\xXX escape"
      else if c == 'u' then hex 4 "truncated \\uXXXX escape"
      else if c == 'U' then hex 8 "truncated \\UXXXXXXXX escape"
      else if c == 'N' then
        let malformed := fun rest => Except.error ⟨rest, "malformed \\N character escape"⟩
        match rest with
        | '\x7b' :: more =>
          let name := more.takeWhile (· != '\x7d')
          match more.drop name.length with
          | [] => malformed []
          | close :: after =>
            if name.isEmpty then malformed (close :: after)
            else
              match Text.namedChar? name with
              | some n => .ok ([n], after)
              | none => .error ⟨after, "unknown Unicode character name"⟩
        | rest => malformed rest
      else .ok ([0x5c, c.toNat], rest)

/-- The words for an escape of a text that stands for nothing. -/
def escapeMessage (first last : Nat) (why : String) : String :=
  "(unicode error) 'unicodeescape' codec can't decode " ++
    (if last ≤ first + 1 then "byte 0x5c in position " ++ toString first
      else "bytes in position " ++ toString first ++ "-" ++ toString (last - 1)) ++ ": " ++ why

/-- Replace escapes of a text in ASCII of which `total` characters were given. -/
def unescape (total : Nat) : Nat → List Char → Except String (List Nat)
  | 0, _ => .ok []
  | _, [] => .ok []
  | fuel + 1, c :: rest =>
    if c == '\\' then
      match readEscape rest with
      | .error e =>
        .error (escapeMessage (total - (rest.length + 1)) (total - e.rest.length) e.why)
      | .ok (points, rest) => (unescape total fuel rest).map (points ++ ·)
    else (unescape total fuel rest).map (c.toNat :: ·)

/-- The code points of a piece of a text. -/
def decodeText (raw : Bool) (cs : List Char) : Except String (List Nat) :=
  if raw || !cs.contains '\\' then .ok (cs.map Char.toNat)
  else
    let ascii := inAscii cs
    unescape ascii.length ascii.length ascii

/-- Replace escapes of bytes. -/
def unescapeBytes (total : Nat) : Nat → List Char → Except String (List Nat)
  | 0, _ => .ok []
  | _, [] => .ok []
  | fuel + 1, c :: rest =>
    if c == '\\' then
      match rest with
      | [] => .ok [0x5c]
      | e :: more =>
        match simpleEscape? e with
        | some octets => (unescapeBytes total fuel more).map (octets ++ ·)
        | none =>
          if Numeral.isOctal e then
            let (n, more) := octalNumber 2 (e.toNat - 0x30) more
            (unescapeBytes total fuel more).map (n % 256 :: ·)
          else if e == 'x' then
            match hexNumber 2 0 more with
            | .ok (n, more) => (unescapeBytes total fuel more).map (n :: ·)
            | .error _ =>
              .error ("(value error) invalid \\x escape at position " ++
                toString (total - (rest.length + 1)))
          else (unescapeBytes total fuel more).map ([0x5c, e.toNat] ++ ·)
    else (unescapeBytes total fuel rest).map (c.toNat :: ·)

def decodeBytes (raw : Bool) (cs : List Char) : Except String (List Nat) :=
  if raw then .ok (cs.map Char.toNat) else unescapeBytes cs.length cs.length cs

/-! ### Formatted texts -/

/-- What a formatted text is read with. -/
structure Frame where
  scene : Scene
  /-- The token that holds the text, and the first and last of the tokens in a row. -/
  token : Token
  span : Span
  raw : Bool
  /-- Characters of the token up to the end of the body. -/
  whole : List Char

def Frame.wrong {α : Type} (f : Frame) (message : String) : Except Fault α :=
  .error (f.scene.source.faultAt f.scene.latest message)

/-- Pieces so far, newest first, and the characters after the last of them. -/
structure Pieces where
  made : List Expr
  pending : List Nat

def Pieces.add (p : Pieces) (points : List Nat) : Pieces :=
  { p with pending := p.pending ++ points }

/-- Make a piece of the characters, if there are any. -/
def Pieces.close (p : Pieces) (span : Span) : List Expr :=
  if p.pending.isEmpty then p.made else .constant span (.text p.pending) :: p.made

/-- The literal part of a formatted text up to the next brace. `doubled` says that
it ended with a pair of braces that stands for one. -/
structure Plain where
  chars : List Char
  doubled : Bool
  rest : List Char

/-- Read literal characters; pairs of braces count only outside a format. The third
argument holds the characters so far, newest first. -/
def Frame.plain (f : Frame) (nested : Bool) : Nat → List Char → List Char → Except Fault Plain
  | 0, acc, rest => .ok ⟨acc.reverse, false, rest⟩
  | _, acc, [] => .ok ⟨acc.reverse, false, []⟩
  | fuel + 1, acc, c :: rest =>
    let brace := fun (acc : List Char) (c : Char) (rest : List Char) =>
      if nested then .ok ⟨acc.reverse, false, c :: rest⟩
      else if rest.head? == some c then .ok ⟨(c :: acc).reverse, true, rest.drop 1⟩
      else if c == '\x7d' then f.wrong "f-string: single '\x7d' is not allowed"
      else .ok ⟨acc.reverse, false, c :: rest⟩
    if !f.raw && c == '\\' then
      match rest with
      | 'N' :: '\x7b' :: more =>
        let name := more.takeWhile (· != '\x7d')
        let taken := '\\' :: 'N' :: '\x7b' :: more.take (name.length + 1)
        f.plain nested fuel (taken.reverse ++ acc) (more.drop (name.length + 1))
      | 'N' :: more =>
        f.plain nested fuel ((more.take 1).reverse ++ 'N' :: '\\' :: acc) (more.drop 1)
      | d :: more =>
        if d == '\x7b' || d == '\x7d' then brace ('\\' :: acc) d more
        else f.plain nested fuel (d :: '\\' :: acc) more
      | [] => .ok ⟨('\\' :: acc).reverse, false, []⟩
    else if c == '\x7b' || c == '\x7d' then brace acc c rest
    else f.plain nested fuel (c :: acc) rest

/-- Where the scan of an embedded expression stands: inside a text opened by so
many quotes, or inside brackets. -/
structure Inside where
  quote : Option (Char × Nat)
  brackets : List Char

/-- Number of characters of the embedded expression at the front. -/
def Frame.embeddedLength (f : Frame) : Nat → Inside → List Char → Except Fault Nat
  | 0, _, _ => .ok 0
  | _, st, [] =>
    match st.quote, st.brackets with
    | some _, _ => f.wrong "f-string: unterminated string"
    | none, o :: _ => f.wrong ("f-string: unmatched '" ++ o.toString ++ "'")
    | none, [] => f.wrong "f-string: expecting '\x7d'"
  | fuel + 1, st, c :: rest =>
    let on := fun n st => (f.embeddedLength fuel st (rest.drop (n - 1))).map (· + n)
    let tripled := rest.take 2 == [c, c]
    if c == '\\' then f.wrong "f-string expression part cannot include a backslash"
    else
      match st.quote with
      | some (q, size) =>
        if c == q && size == 3 && tripled then on 3 { st with quote := none }
        else if c == q && size != 3 then on 1 { st with quote := none }
        else on 1 st
      | none =>
        if isQuote c then
          if tripled then on 3 { st with quote := some (c, 3) }
          else on 1 { st with quote := some (c, 1) }
        else if (closing c).isSome then
          if st.brackets.length ≥ maxBrackets then f.wrong "f-string: too many nested parenthesis"
          else on 1 { st with brackets := c :: st.brackets }
        else if c == '#' then f.wrong "f-string expression part cannot include '#'"
        else if st.brackets.isEmpty && ['!', ':', '\x7d', '=', '<', '>'].contains c then
          if rest.head? == some '=' && ['!', '=', '<', '>'].contains c then on 2 st
          else if c == '<' || c == '>' then on 1 st
          else .ok 0
        else if c == ')' || c == ']' || c == '\x7d' then
          match st.brackets with
          | [] => f.wrong ("f-string: unmatched '" ++ c.toString ++ "'")
          | o :: outer =>
            if closing o == some c then on 1 { st with brackets := outer }
            else
              f.wrong ("f-string: closing parenthesis '" ++ c.toString ++
                "' does not match opening parenthesis '" ++ o.toString ++ "'")
        else on 1 st

def isFormatBlank (c : Char) : Bool :=
  c == ' ' || c == '\t' || c == '\n' || c == '\x0c'

/-- Row and column of the brace before `rest`. A brace that ends its row counts as the
start of the row. -/
def Frame.place (f : Frame) (rest : List Char) : Nat × Nat :=
  let before := f.whole.take (f.whole.length - (rest.length + 1))
  let lines := (before.filter (· == '\n')).length
  let ahead := rest.dropWhile fun c => c == ' ' || c == '\t' || c == '\x0c'
  let endsRow := ahead.head? == some '\n' || ahead.head? == some '\x7d' || ahead.isEmpty
  let col := if endsRow then 0 else widthOf (before.reverse.takeWhile (· != '\n'))
  (f.token.line + lines, if lines == 0 then f.token.col.toNat + col else col)

/-- The expression that the characters of an embedded one stand for. -/
def Frame.compile (f : Frame) (source rest : List Char) : Except Fault Expr :=
  if source.all isFormatBlank then
    match rest.head? with
    | some c =>
      if c == '!' || c == ':' || c == '=' then
        f.wrong ("f-string: expression required before '" ++ c.toString ++ "'")
      else f.wrong "f-string: empty expression not allowed"
    | none => f.wrong "f-string: empty expression not allowed"
  else
    let (line, col) := f.place (source ++ rest)
    f.scene.embed ('(' :: source ++ [')']) line col

/-- The conversion after an embedded expression. -/
def Frame.conversion (f : Frame) : List Char → Except Fault (List Char)
  | '!' :: c :: rest =>
    if c == 's' || c == 'r' || c == 'a' then .ok rest
    else f.wrong "f-string: invalid conversion character: expected 's', 'r', or 'a'"
  | ['!'] => f.wrong "f-string: expecting '\x7d'"
  | rest => .ok rest

mutual

/-- Pieces of a formatted text, `fuel` of them at most; `depth` counts enclosing
formats. -/
def Frame.pieces (f : Frame) : Nat → Nat → Pieces → List Char → Except Fault (Pieces × List Char)
  | 0, _, _, _ => .error .tooDeep
  | fuel + 1, depth, acc, cs => do
    let p ← f.plain (depth != 0) (cs.length + 1) [] cs
    let acc ←
      match decodeText f.raw p.chars with
      | .ok points => pure (acc.add points)
      | .error message => f.wrong message
    if p.doubled then f.pieces fuel depth acc p.rest
    else
      match p.rest with
      | '\x7b' :: rest =>
        let (acc, rest) ← f.embedded fuel depth acc rest
        f.pieces fuel depth acc rest
      | rest => pure (acc, rest)

/-- An embedded expression after its opening brace, up to the closing one. -/
def Frame.embedded (f : Frame) : Nat → Nat → Pieces → List Char → Except Fault (Pieces × List Char)
  | 0, _, _, _ => .error .tooDeep
  | fuel + 1, depth, acc, cs => do
    if depth ≥ 2 then f.wrong "f-string: expressions nested too deeply"
    else
      let n ← f.embeddedLength (cs.length + 1) ⟨none, []⟩ cs
      let e ← f.compile (cs.take n) (cs.drop n)
      let (shown, rest) :=
        match cs.drop n with
        | '=' :: more =>
          let blanks := more.takeWhile fun c => c == ' ' || (0x9 ≤ c.toNat && c.toNat ≤ 0xd)
          (cs.take (n + 1 + blanks.length), more.drop blanks.length)
        | rest => ([], rest)
      let rest ← f.conversion rest
      let acc := acc.add (shown.map Char.toNat)
      match rest with
      | ':' :: more =>
        if more.isEmpty then f.wrong "f-string: expecting '\x7d'"
        else
          let (format, rest) ← f.pieces fuel (depth + 1) ⟨[], []⟩ more
          match rest with
          | '\x7d' :: rest =>
            let spec := Expr.joined f.token.span (format.close f.token.span).reverse
            pure (⟨.embedded f.span e (some spec) :: acc.close f.span, []⟩, rest)
          | _ => f.wrong "f-string: expecting '\x7d'"
      | '\x7d' :: rest => pure (⟨.embedded f.span e none :: acc.close f.span, []⟩, rest)
      | _ => f.wrong "f-string: expecting '\x7d'"

end

/-! ### Literals in a row -/

/-- What has been read of literals in a row. -/
structure Joining where
  pieces : Pieces
  octets : List Nat
  /-- Whether the literals so far are bytes. -/
  bytes : Option Bool
  formatted : Bool

/-- Add one literal. -/
def join (scene : Scene) (span : Span) (token : Token) (j : Joining) : Except Fault Joining := do
  let wrong := fun {α : Type} (message : String) =>
    (Except.error (scene.source.faultAt scene.latest message) : Except Fault α)
  let l := ofToken token.text
  let content ←
    if l.formatted then pure []
    else if l.bytes then
      if l.body.any fun c => c.toNat ≥ 128 then
        .error (scene.source.fault scene.latest.reached
          "bytes can only contain ASCII literal characters" token.line (token.col + 1))
      else
        match decodeBytes l.raw l.body with
        | .ok octets => pure octets
        | .error message => wrong message
    else
      match decodeText l.raw l.body with
      | .ok points => pure points
      | .error message => wrong message
  if (j.bytes.map (· != l.bytes)).getD false then wrong "cannot mix bytes and nonbytes literals"
  else if l.formatted then
    let frame : Frame := ⟨scene, token, span, l.raw, l.opening ++ l.body⟩
    let (pieces, _) ← frame.pieces (2 * l.body.length + 4) 0 j.pieces l.body
    pure { j with pieces := pieces, bytes := some false, formatted := true }
  else if l.bytes then pure { j with octets := j.octets ++ content, bytes := some true }
  else pure { j with pieces := j.pieces.add content, bytes := some false }

def joinAll (scene : Scene) (span : Span) : List Token → Joining → Except Fault Joining
  | [], j => .ok j
  | t :: rest, j => do
    let j ← join scene span t j
    joinAll scene span rest j

/-- The expression that literals in a row stand for. -/
def joined (scene : Scene) (tokens : List Token) : Except Fault Expr :=
  let span := scene.span
  (joinAll scene span tokens ⟨⟨[], []⟩, [], none, false⟩).map fun j =>
    if j.bytes == some true then .constant span (.bytes j.octets)
    else if j.formatted then .joined span (j.pieces.close span).reverse
    else .constant span (.text j.pieces.pending)

end Literal

end CodeAtlas.Script
