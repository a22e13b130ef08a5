import CodeAtlas.Text.CharName.Data
import CodeAtlas.Text.Normal
import CodeAtlas.Text.Rows

/-! Characters by their names. Most names stand in a table; syllables of Hangul and the
ideographs are named by rule. -/

namespace CodeAtlas.Text

namespace CharName

/-! ### Abbreviations -/

/-- Something that stands in the data: a sign, or an abbreviation by its number. -/
inductive Symbol where
  | sign (c : Char)
  | short (number : Nat)

/-- Read one more sign; one that begins an abbreviation is kept until the next. -/
def readSign {α : Type} (openers signs : List Char) (take : α → Symbol → α)
    (s : Option Char × α) (c : Char) : Option Char × α :=
  if c == '\n' || c == ' ' then s
  else
    match s.1 with
    | some opener =>
      (none, take s.2 (.short (signs.idxOf opener * signs.length + signs.idxOf c)))
    | none => if openers.contains c then (some c, s.2) else (none, take s.2 (.sign c))

/-- Take the symbols of a text one after another. -/
def foldSymbols {α : Type} (take : α → Symbol → α) (start : α) (data : String) : α :=
  (data.foldl (readSign openers.toList signs.toList take) (none, start)).2

/-- The signs that a symbol stands for, with the abbreviations that are known. -/
def writeOut (known : Array (List Char)) : Symbol → List Char
  | .sign c => [c]
  | .short number => known.getD number []

/-- What the abbreviations stand for, each with those before it. -/
def abbreviations : Array (List Char) :=
  (foldSymbols (fun (s : Array (List Char) × Option (List Char)) symbol =>
    match s with
    | (known, none) => (known, some (writeOut known symbol))
    | (known, some first) => (known.push (first ++ writeOut known symbol), none))
    (#[], none) pairData).1

/-! ### Names from the table -/

/-- How far the table has been read in search of a name. -/
structure Search where
  /-- The character of the next entry. -/
  code : Nat
  /-- The words of the name before. -/
  words : List (List Char)
  /-- The characters of the entry so far, reversed. -/
  entry : List Char
  found : Option Nat

/-- The number that a digit or capital letter stands for. -/
def countOf (c : Char) : Nat :=
  if c.isDigit then c.toNat - 0x30 else c.toNat - 0x41 + 10

/-- The number with these hexadecimal digits. -/
def hexOf (cs : List Char) : Nat := cs.foldl (fun n c => 16 * n + countOf c) 0

/-- The sign after the last one in a reversed word; the one after nine is zero, and the sign before
it is counted up too. -/
def countUp : List Char → List Char
  | [] => []
  | c :: cs => if c == '9' then '0' :: countUp cs else Char.ofNat (c.toNat + 1) :: cs

/-- The words of a name, from its entry and the words of the name before. -/
def wordsOf (before : List (List Char)) (entry : List Char) : List (List Char) :=
  match entry with
  | [] => before
  | '+' :: _ => before.dropLast ++ (before.getLast?.toList.map fun w => (countUp w.reverse).reverse)
  | count :: rest =>
    let last := ((rest.dropWhile (· != ';')).drop 1).head?.map countOf
    before.take (countOf count) ++ splitAt '_' (rest.takeWhile (· != ';')) ++
      before.drop (before.length - last.getD 0)

/-- Finish an entry: read it and compare its name. -/
def Search.finish (target : List Char) (s : Search) : Search :=
  let entry := s.entry.reverse
  let (code, entry) :=
    if entry.contains ':' then
      (hexOf (entry.takeWhile (· != ':')), (entry.dropWhile (· != ':')).drop 1)
    else (s.code, entry)
  let words := wordsOf s.words entry
  let found := if List.intercalate [' '] words == target then some code else none
  ⟨code + 1, words, [], s.found <|> found⟩

def Search.step (target : List Char) (s : Search) (c : Char) : Search :=
  if s.found.isSome then s
  else if c == '|' then s.finish target
  else { s with entry := c :: s.entry }

def searchIn (data : String) (target : List Char) : Option Nat :=
  let known := abbreviations
  (foldSymbols (fun s symbol => (writeOut known symbol).foldl (Search.step target) s)
    ⟨0, [], [], none⟩ data).found

/-! ### Names by rule -/

/-- Names that end in the number of their character, and the characters that have them. -/
def numbered : List (String × List (Nat × Nat)) := [
  ("CJK COMPATIBILITY IDEOGRAPH-", [(0xf900, 0xfa6d), (0xfa70, 0xfad9), (0x2f800, 0x2fa1d)]),
  ("KHITAN SMALL SCRIPT CHARACTER-", [(0x18b00, 0x18cd5)]),
  ("NUSHU CHARACTER-", [(0x1b170, 0x1b2fb)])]

def ideographStart : String := "CJK UNIFIED IDEOGRAPH-"

def ideographs : List (Nat × Nat) := [
  (0x3400, 0x4dbf), (0x4e00, 0x9fff), (0x20000, 0x2a6df), (0x2a700, 0x2b738), (0x2b740, 0x2b81d),
  (0x2b820, 0x2cea1), (0x2ceb0, 0x2ebe0), (0x30000, 0x3134a)]

/-- A number of four or five hexadecimal digits with capital letters. -/
def number? (cs : List Char) : Option Nat :=
  let isDigit := fun c : Char => c.isDigit || ('A' ≤ c && c ≤ 'F')
  if (cs.length == 4 || cs.length == 5) && cs.all isDigit then
    some (hexOf cs)
  else none

/-- The character with a numbered name. -/
def numbered? (name : List Char) (start : String) (ranges : List (Nat × Nat)) : Option Nat :=
  if start.toList.isPrefixOf name then
    (number? (name.drop start.length)).filter fun n => ranges.any fun (a, b) => a ≤ n && n ≤ b
  else none

def leads : List String :=
  ["G", "GG", "N", "D", "DD", "R", "M", "B", "BB", "S", "SS", "", "J", "JJ", "C", "K", "T", "P",
    "H"]

def vowels : List String :=
  ["A", "AE", "YA", "YAE", "EO", "E", "YEO", "YE", "O", "WA", "WAE", "OE", "YO", "U", "WEO", "WE",
    "WI", "YU", "EU", "YI", "I"]

def tails : List String :=
  ["", "G", "GG", "GS", "N", "NJ", "NH", "D", "L", "LG", "LM", "LB", "LS", "LT", "LP", "LH", "M",
    "B", "BS", "S", "SS", "NG", "J", "C", "K", "T", "P", "H"]

/-- The longest of some parts at the front of a name: its place, and the rest. -/
def longest (parts : List String) (name : List Char) : Option (Nat × List Char) :=
  let best := parts.zipIdx.foldl (fun (best : Option (String × Nat)) (part, i) =>
    if part.toList.isPrefixOf name && best.all (fun b => b.1.length < part.length) then
      some (part, i)
    else best) none
  best.map fun (part, i) => (i, name.drop part.length)

def syllableStart : String := "HANGUL SYLLABLE "

def syllable? (name : List Char) : Option Nat := do
  let (l, name) ← longest leads name
  let (v, name) ← longest vowels name
  let (t, name) ← longest tails name
  if name.isEmpty then
    some (Normal.syllableBase + (l * Normal.vowelCount + v) * Normal.tailCount + t)
  else none

end CharName

/-- The character with a name. The names by rule of ideographs and syllables are in capital
letters; all others may be in small ones. -/
def namedChar? (name : List Char) : Option Nat :=
  let drop := fun (start : String) => name.drop start.length
  if CharName.syllableStart.toList.isPrefixOf name then
    CharName.syllable? (drop CharName.syllableStart)
  else if CharName.ideographStart.toList.isPrefixOf name then
    CharName.numbered? name CharName.ideographStart CharName.ideographs
  else
    let upper := name.map Char.toUpper
    match CharName.numbered.findSome? fun (start, ranges) =>
        CharName.numbered? upper start ranges with
    | some c => some c
    | none =>
      match CharName.searchIn CharName.nameData upper with
      | some c => some c
      | none => CharName.searchIn CharName.aliasData upper

end CodeAtlas.Text
