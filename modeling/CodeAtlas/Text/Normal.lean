import CodeAtlas.Text.Normal.Data
import Std.Data.HashMap

/-! One form for names that can be written in several ways. A name is taken apart into base
characters and marks, with a plain character for every variant of one; marks on one base
are put in order; then parts are put together again as far as there is a character for
them. -/

namespace CodeAtlas.Text.Normal

/-! ### Tables -/

/-- An entry of a table: the first character, how many more, and the numbers for them. -/
structure Entry where
  first : Nat
  more : Nat
  numbers : List Nat

/-- The number that is this far from another: up if it is even, down if not. -/
def farFrom (n way : Nat) : Nat :=
  if way % 2 = 0 then n + way / 2 else n - (way + 1) / 2

/-- Read entries one after another; `next` is the character after those of the entry before. -/
def readFrom (next : Nat) (before : List Nat) : List Nat → List Entry
  | [] => []
  | head :: rest =>
    let several := head / 6 % 2 = 1
    let more := if several then rest.headD 0 else 0
    let rest₁ := if several then rest.drop 1 else rest
    let long := head % 6 = 5
    let length := if long then rest₁.headD 0 else head % 6
    let rest₂ := if long then rest₁.drop 1 else rest₁
    let numbers := (rest₂.take length).zipIdx.map fun (way, i) => farFrom (before.getD i 0) way
    let first := next + head / 12
    ⟨first, more, numbers⟩ :: readFrom (first + more + 1) numbers (rest₂.drop length)
termination_by numbers => numbers.length
decreasing_by grind

def entries (data : List Nat) : List Entry := readFrom 0 [] data

abbrev Table (α : Type) := Std.HashMap Nat α

/-- A table with an entry for each of the characters in a row. -/
def tableOf {α : Type} (value : Entry → Nat → α) (data : List Nat) : Table α :=
  (entries data).foldl (fun t e =>
    (List.range (e.more + 1)).foldl (fun t i => t.insert (e.first + i) (value e i)) t) {}

def decompositions : Table (List Nat) :=
  tableOf (fun e i =>
    match e.numbers with
    | [n] => [n + i]
    | ns => ns) decompositionData

def classes : Table Nat := tableOf (fun e _ => e.numbers.headD 0) classData

/-- Numbers two by two. -/
def pairs : List Nat → List (Nat × Nat)
  | a :: b :: rest => (a, b) :: pairs rest
  | _ => []

/-- The characters that can follow one, each with what stands for both. -/
def compositions : Table (List (Nat × Nat)) := tableOf (fun e _ => pairs e.numbers) compositionData

/-! ### Syllables of Hangul, which have parts by rule -/

def syllableBase : Nat := 0xac00
def leadBase : Nat := 0x1100
def vowelBase : Nat := 0x1161
def tailBase : Nat := 0x11a7
def leadCount : Nat := 19
def vowelCount : Nat := 21
def tailCount : Nat := 28

def isSyllable (c : Nat) : Bool :=
  syllableBase ≤ c && c < syllableBase + leadCount * vowelCount * tailCount

/-- The parts of a character. -/
def decompose (c : Nat) : List Nat :=
  if isSyllable c then
    let i := c - syllableBase
    let tail := i % tailCount
    [leadBase + i / (vowelCount * tailCount), vowelBase + i % (vowelCount * tailCount) / tailCount]
      ++ (if tail == 0 then [] else [tailBase + tail])
  else decompositions.getD c [c]

/-- The character that stands for two in a row. -/
def compose? (a b : Nat) : Option Nat :=
  if leadBase ≤ a && a < leadBase + leadCount && vowelBase ≤ b && b < vowelBase + vowelCount then
    some (syllableBase + ((a - leadBase) * vowelCount + (b - vowelBase)) * tailCount)
  else if isSyllable a && (a - syllableBase) % tailCount == 0 && tailBase < b
      && b < tailBase + tailCount then
    some (a + (b - tailBase))
  else ((compositions.getD a []).find? (·.1 == b)).map (·.2)

def classOf (c : Nat) : Nat := classes.getD c 0

/-! ### The three steps -/

/-- Put a mark before the marks of a higher class at the end of what is reversed. -/
def insertMark (c : Nat) : List Nat → List Nat
  | [] => [c]
  | d :: rest => if classOf c < classOf d then d :: insertMark c rest else c :: d :: rest

/-- Order marks; the result is reversed. A base stops every mark. -/
def order (cs : List Nat) : List Nat :=
  cs.foldl (fun done c => if classOf c == 0 then c :: done else insertMark c done) []

/-- What has been put together: everything before the last base, reversed, the base, and
the marks after it that found no place in it, reversed. -/
structure Composing where
  done : List Nat
  base : Option Nat
  marks : List Nat

def Composing.all (s : Composing) : List Nat := s.marks ++ s.base.toList ++ s.done

/-- A character joins the base unless a mark of its class or a higher one, or another
base, stands between. -/
def Composing.add (s : Composing) (c : Nat) : Composing :=
  let blocked :=
    match s.marks with
    | [] => false
    | m :: _ => classOf m ≥ classOf c
  match s.base.bind fun b => if blocked then none else compose? b c with
  | some both => { s with base := some both }
  | none =>
    if classOf c == 0 then ⟨s.all, some c, []⟩ else { s with marks := c :: s.marks }

/-- The form in which names are compared. -/
def normalize (cs : List Char) : List Char :=
  if cs.all fun c => c.toNat < 128 then cs
  else
    let parts := (order (cs.flatMap fun c => decompose c.toNat)).reverse
    let composed := parts.foldl Composing.add ⟨[], none, []⟩
    composed.all.reverse.map Char.ofNat

end CodeAtlas.Text.Normal
