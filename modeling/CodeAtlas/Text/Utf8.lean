/-! UTF-8. A reader may refuse malformed bytes or drop them; when they are
dropped, each maximal beginning of a character goes at once. -/

namespace CodeAtlas.Text.Utf8

/-- What a lead byte announces: its own bits, and for each byte to follow the
least and greatest value it may have. -/
def lead? (b : Nat) : Option (Nat × List (Nat × Nat)) :=
  if b ≤ 0x7f then some (b, [])
  else if 0xc2 ≤ b && b ≤ 0xdf then some (b - 0xc0, [(0x80, 0xbf)])
  else if b == 0xe0 then some (0, [(0xa0, 0xbf), (0x80, 0xbf)])
  else if b == 0xed then some (0xd, [(0x80, 0x9f), (0x80, 0xbf)])
  else if 0xe1 ≤ b && b ≤ 0xef then some (b - 0xe0, [(0x80, 0xbf), (0x80, 0xbf)])
  else if b == 0xf0 then some (0, [(0x90, 0xbf), (0x80, 0xbf), (0x80, 0xbf)])
  else if 0xf1 ≤ b && b ≤ 0xf3 then some (b - 0xf0, [(0x80, 0xbf), (0x80, 0xbf), (0x80, 0xbf)])
  else if b == 0xf4 then some (4, [(0x80, 0x8f), (0x80, 0xbf), (0x80, 0xbf)])
  else none

/-- Follow the announced bytes: the finished code point, if they are all there,
and how many bytes were taken. -/
def follow (acc taken : Nat) : List (Nat × Nat) → List Nat → Option Nat × Nat
  | [], _ => (some acc, taken)
  | _ :: _, [] => (none, taken)
  | (lo, hi) :: more, b :: bs =>
    if lo ≤ b && b ≤ hi then follow (acc * 64 + (b - 0x80)) (taken + 1) more bs else (none, taken)

/-- Characters of a byte sequence, `none` standing for a malformed stretch.
The first argument counts bytes that belong to the character before. -/
def scan (skip : Nat) : List Nat → List (Option Char)
  | [] => []
  | b :: bs =>
    match skip with
    | n + 1 => scan n bs
    | 0 =>
      match lead? b with
      | none => none :: scan 0 bs
      | some (bits, tail) =>
        let (code, taken) := follow bits 0 tail bs
        code.map Char.ofNat :: scan taken bs

/-- Why a stretch of bytes is no character. -/
inductive Reason where
  /-- No character begins with the byte. -/
  | start
  /-- A byte does not go on with the character. -/
  | continuation
  /-- The bytes end inside a character. -/
  | unfinished
  deriving Repr, DecidableEq, Inhabited

/-- A stretch of bytes that is no character: its place, its first byte and its length. -/
structure Malformed where
  place : Nat
  byte : Nat
  length : Nat
  reason : Reason
  deriving Repr, DecidableEq, Inhabited

/-- Decode bytes from a place on, refusing malformed ones. The first argument counts bytes that
belong to the character before. -/
def decodeFrom (skip place : Nat) : List Nat → Except Malformed (List Char)
  | [] => .ok []
  | b :: bs =>
    match skip with
    | n + 1 => decodeFrom n (place + 1) bs
    | 0 =>
      match lead? b with
      | none => .error ⟨place, b, 1, .start⟩
      | some (bits, tail) =>
        match follow bits 0 tail bs with
        | (some code, taken) => (decodeFrom taken (place + 1) bs).map (Char.ofNat code :: ·)
        | (none, taken) =>
          .error ⟨place, b, taken + 1, if taken < bs.length then .continuation else .unfinished⟩

/-- Decode, refusing malformed bytes. -/
def decode (bytes : List Nat) : Except Malformed String :=
  (decodeFrom 0 0 bytes).map String.ofList

/-- Decode, dropping malformed bytes. -/
def decodeLossy (bytes : List Nat) : String :=
  String.ofList ((scan 0 bytes).filterMap id)

end CodeAtlas.Text.Utf8
