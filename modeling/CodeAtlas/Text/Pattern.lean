import CodeAtlas.Text.Word

/-! Patterns over text, matched from left to right with ordered choice. A
pattern gives the places where it can end in order of preference, and the first
of them that lets the rest match is taken: greedy repetition prefers to go on,
lazy repetition prefers to stop. -/

namespace CodeAtlas.Text

/-- A place in a text: how many characters stand before it, the last of them,
and what follows. -/
structure Spot where
  offset : Nat
  before : Option Char
  rest : List Char
  deriving Repr

/-- The start of a text. -/
def Spot.startOf (s : List Char) : Spot := ⟨0, none, s⟩

inductive Pattern where
  /-- One character of a class. -/
  | one (accepts : Char → Bool)
  /-- A fixed text. -/
  | text (s : List Char)
  | seq (first second : Pattern)
  | either (first second : Pattern)
  /-- Zero or more repetitions, as many as possible. -/
  | many (body : Pattern)
  /-- Zero or more repetitions, as few as possible. -/
  | few (body : Pattern)
  /-- Between a word character and something else. -/
  | wordEdge
  /-- At the start of the whole text. -/
  | start
  /-- At the end of the whole text. -/
  | finish
  /-- At the end of the whole text or before its last line feed. -/
  | lastLine
  /-- Where another pattern could match, taking nothing. -/
  | ahead (body : Pattern)

namespace Pattern

/-- One or more, as many as possible. -/
def several (p : Pattern) : Pattern := .seq p (.many p)

/-- Patterns one after another. -/
def sequence : List Pattern → Pattern
  | [] => .text []
  | [p] => p
  | p :: ps => .seq p (sequence ps)

/-- The first of several patterns that lets the rest match. -/
def oneOf : List Pattern → Pattern
  | [] => .one fun _ => false
  | [p] => p
  | p :: ps => .either p (oneOf ps)

end Pattern

/-- Step over one character. -/
def Spot.step? (p : Spot) : Option (Char × Spot) :=
  match p.rest with
  | [] => none
  | c :: cs => some (c, ⟨p.offset + 1, some c, cs⟩)

/-- Step over a fixed text. -/
def Spot.skip? : List Char → Spot → Option Spot
  | [], p => some p
  | c :: cs, p =>
    match p.rest with
    | [] => none
    | d :: ds => if c == d then Spot.skip? cs ⟨p.offset + 1, some d, ds⟩ else none

def Spot.atWordEdge (p : Spot) : Bool :=
  (p.before.map isWord).getD false != (p.rest.head?.map isWord).getD false

/-- Ends of a repetition. Each round has to move forward, so the length of the
text bounds their number. -/
def repeatFrom (greedy : Bool) (round : Spot → List Spot) : Nat → Spot → List Spot
  | 0, p => [p]
  | n + 1, p =>
    let onward := (round p).filter fun q => p.offset < q.offset
    let further := onward.flatMap (repeatFrom greedy round n)
    if greedy then further ++ [p] else p :: further

/-- Where a match that begins at a place can end, best first. -/
def Pattern.ends : Pattern → Spot → List Spot
  | .one accepts, p =>
    match p.step? with
    | none => []
    | some (c, q) => if accepts c then [q] else []
  | .text s, p => (p.skip? s).toList
  | .seq first second, p => (first.ends p).flatMap second.ends
  | .either first second, p => first.ends p ++ second.ends p
  | .many body, p => repeatFrom true body.ends p.rest.length p
  | .few body, p => repeatFrom false body.ends p.rest.length p
  | .wordEdge, p => if p.atWordEdge then [p] else []
  | .start, p => if p.before.isNone then [p] else []
  | .finish, p => if p.rest.isEmpty then [p] else []
  | .lastLine, p => if p.rest.isEmpty || p.rest == ['\n'] then [p] else []
  | .ahead body, p => if (body.ends p).isEmpty then [] else [p]

/-- A match inside a text: where it begins, what it covers and where it ends. -/
structure Match where
  offset : Nat
  matched : List Char
  after : Spot
  deriving Repr

/-- The match that begins at a place. -/
def Pattern.matchAt? (pat : Pattern) (p : Spot) : Option Match :=
  (pat.ends p).head?.map fun q => ⟨p.offset, p.rest.take (q.offset - p.offset), q⟩

/-- The leftmost match at or after a place. -/
def Pattern.searchFrom (pat : Pattern) (offset : Nat) (before : Option Char) :
    List Char → Option Match
  | [] => pat.matchAt? ⟨offset, before, []⟩
  | c :: cs =>
    match pat.matchAt? ⟨offset, before, c :: cs⟩ with
    | some m => some m
    | none => pat.searchFrom (offset + 1) (some c) cs

def Pattern.search? (pat : Pattern) (s : List Char) : Option Match :=
  pat.searchFrom 0 none s

/-- All matches from left to right without overlap. The patterns of this
library match no empty text; an empty match would end the search. -/
def Pattern.allFrom (pat : Pattern) : Nat → Spot → List Match
  | 0, _ => []
  | n + 1, p =>
    match pat.searchFrom p.offset p.before p.rest with
    | none => []
    | some m => if m.matched.isEmpty then [m] else m :: pat.allFrom n m.after

def Pattern.matches (pat : Pattern) (s : List Char) : List Match :=
  pat.allFrom (s.length + 1) (Spot.startOf s)

/-- The text without the given matches, which stand in it from left to right. -/
def eraseMatches (offset : Nat) : List Match → List Char → List Char
  | [], s => s
  | m :: ms, s =>
    s.take (m.offset - offset) ++
      eraseMatches m.after.offset ms (s.drop (m.after.offset - offset))

/-- The text with every match taken out. -/
def Pattern.erase (pat : Pattern) (s : List Char) : List Char :=
  eraseMatches 0 (pat.matches s) s

end CodeAtlas.Text
