import CodeAtlas.Proofs.Graph.Store
import CodeAtlas.Proofs.Json.Numeral
import Mathlib.Data.List.Forall2

/-! Written JSON is read back. A text comes back character by character, whatever it holds:
escapes are undone, and a character beyond the first plane comes back from its two halves. So do
all values that are made of texts, lists and objects. In the place of a double stands what its
text is read as. Whole numbers are left out here. -/

namespace CodeAtlas

/-! ### Fields in order -/

theorem Fields.merge_append {fs new : Fields} (hnew : (new.map Prod.fst).Nodup)
    (hdisjoint : ∀ f ∈ new, fs.has f.1 = false) : fs.merge new = fs ++ new := by
  induction new generalizing fs with
  | nil => simp
  | cons f new ih =>
    obtain ⟨hf, hrest⟩ := List.nodup_cons.mp hnew
    have hput : fs.put f.1 f.2 = fs ++ [f] := by
      rw [put, if_neg (by simp [hdisjoint f List.mem_cons_self])]
    rw [merge_cons, hput, ih hrest, List.append_assoc, List.singleton_append]
    intro g hg
    have hne : f.1 ≠ g.1 := fun he => hf (he ▸ List.mem_map_of_mem hg)
    have hfs := hdisjoint g (List.mem_cons_of_mem _ hg)
    simp only [has, List.any_append, List.any_cons, List.any_nil, Bool.or_false] at hfs ⊢
    simp [hfs, hne]

namespace Json

/-! ### Hexadecimal digits -/

theorem hexDigit?_digitChar : ∀ d < 16, hexDigit? (Nat.digitChar d) = some d := by
  decide

/-- Four digits are enough for a unit. -/
theorem hex_four {n : Nat} (h : n < 0x10000) :
    Text.hex 4 n = [Nat.digitChar (n / 4096), Nat.digitChar (n / 256 % 16),
      Nat.digitChar (n / 16 % 16), Nat.digitChar (n % 16)] := by
  have hdigits : ∀ m, Nat.toDigits 16 m =
      if m < 16 then [Nat.digitChar m] else Nat.toDigits 16 (m / 16) ++ [Nat.digitChar (m % 16)] :=
    fun m => Nat.toDigits_eq_if (by decide)
  have hzero : Nat.digitChar 0 = '0' := rfl
  unfold Text.hex
  by_cases h₁ : n < 16
  · simp [hdigits n, h₁, hzero, List.replicate, show n / 4096 = 0 by omega,
      show n / 256 % 16 = 0 by omega, show n / 16 % 16 = 0 by omega, Nat.mod_eq_of_lt h₁]
  by_cases h₂ : n / 16 < 16
  · simp [hdigits n, hdigits (n / 16), h₁, h₂, hzero, List.replicate,
      show n / 4096 = 0 by omega, show n / 256 % 16 = 0 by omega, Nat.mod_eq_of_lt h₂]
  by_cases h₃ : n / 256 < 16
  · simp [hdigits n, hdigits (n / 16), hdigits (n / 256), Nat.div_div_eq_div_mul, h₁, h₂, h₃, hzero,
      show n / 4096 = 0 by omega, Nat.mod_eq_of_lt h₃]
  · have h₄ : n / 4096 < 16 := by omega
    simp [hdigits n, hdigits (n / 16), hdigits (n / 256), hdigits (n / 4096),
      Nat.div_div_eq_div_mul, h₁, h₂, h₃, h₄]

theorem hexUnit?_digits {n : Nat} (h : n < 0x10000) :
    hexUnit? (Nat.digitChar (n / 4096)) (Nat.digitChar (n / 256 % 16))
      (Nat.digitChar (n / 16 % 16)) (Nat.digitChar (n % 16)) = some n := by
  have hvalue : ((n / 4096 * 16 + n / 256 % 16) * 16 + n / 16 % 16) * 16 + n % 16 = n := by omega
  simp only [hexUnit?, hexDigit?_digitChar _ (show n / 4096 < 16 by omega),
    hexDigit?_digitChar _ (show n / 256 % 16 < 16 by omega),
    hexDigit?_digitChar _ (show n / 16 % 16 < 16 by omega),
    hexDigit?_digitChar _ (show n % 16 < 16 by omega)]
  exact congrArg some hvalue

/-! ### Texts -/

/-- The units that a character is written as. -/
def unitsOf (c : Char) : List Nat :=
  if c.toNat < 0x10000 then [c.toNat]
  else [0xd800 + (c.toNat - 0x10000) / 0x400, 0xdc00 + (c.toNat - 0x10000) % 0x400]

theorem readUnits_escapeUnit {n : Nat} (h : n < 0x10000) (cs : List Char) :
    readUnits (escapeUnit n ++ cs) = (readUnits cs).map fun r => (n :: r.1, r.2) := by
  simp only [escapeUnit, hex_four h, List.cons_append, List.nil_append]
  rw [readUnits, hexUnit?_digits h]

theorem readUnits_plain {c : Char} (hquote : c ≠ '"') (hslash : c ≠ '\\') (hlow : 0x20 ≤ c.toNat)
    (cs : List Char) :
    readUnits (c :: cs) = (readUnits cs).map fun r => (c.toNat :: r.1, r.2) := by
  rw [readUnits.eq_def]
  grind

/-- Reading undoes the escape of a character. -/
theorem readUnits_escapeChar (c : Char) (cs : List Char) :
    readUnits (escapeChar c ++ cs) = (readUnits cs).map fun r => (unitsOf c ++ r.1, r.2) := by
  have hvalid : c.toNat < 0xd800 ∨ (0xdfff < c.toNat ∧ c.toNat < 0x110000) := c.valid
  unfold escapeChar
  iterate 7
    split
    · subst c
      rfl
  split
  · have hunits : unitsOf c = [c.toNat] := if_pos (by omega)
    rw [hunits, List.singleton_append]
    exact readUnits_plain ‹_› ‹_› (by omega) cs
  split
  · have hunits : unitsOf c = [c.toNat] := if_pos ‹_›
    rw [hunits]
    exact readUnits_escapeUnit ‹_› cs
  · rw [unitsOf, if_neg ‹_›, List.append_assoc, readUnits_escapeUnit (by omega),
      readUnits_escapeUnit (by omega)]
    cases readUnits cs <;> rfl

/-- Characters come back from their units. -/
theorem joinUnits_unitsOf (c : Char) (ns : List Nat) :
    joinUnits (unitsOf c ++ ns) = c :: joinUnits ns := by
  have hvalid : c.toNat < 0xd800 ∨ (0xdfff < c.toNat ∧ c.toNat < 0x110000) := c.valid
  unfold unitsOf
  split
  · have hchar : charOfUnit c.toNat = c := by
      rw [charOfUnit, if_neg (by omega), Char.ofNat_toNat]
    cases ns with
    | nil => exact congrArg (fun x => [x]) hchar
    | cons n ns =>
      change joinUnits (c.toNat :: n :: ns) = _
      rw [joinUnits, if_neg (by omega), hchar]
  · have hjoined : 0x10000 + (0xd800 + (c.toNat - 0x10000) / 0x400 - 0xd800) * 0x400 +
        (0xdc00 + (c.toNat - 0x10000) % 0x400 - 0xdc00) = c.toNat := by omega
    change joinUnits (_ :: _ :: ns) = _
    rw [joinUnits, if_pos (by omega), hjoined, Char.ofNat_toNat]

theorem readUnits_escaped (s cs : List Char) :
    readUnits (s.flatMap escapeChar ++ '"' :: cs) = .ok (s.flatMap unitsOf, cs) := by
  induction s with
  | nil => rfl
  | cons c s ih =>
    rw [List.flatMap_cons, List.append_assoc, readUnits_escapeChar, ih]
    rfl

theorem joinUnits_flatMap (s : List Char) : joinUnits (s.flatMap unitsOf) = s := by
  induction s with
  | nil => rfl
  | cons c s ih => rw [List.flatMap_cons, joinUnits_unitsOf, ih]

/-- A written text is read back, every character of it. -/
theorem readText_escaped (s : String) (cs : List Char) :
    readText (s.toList.flatMap escapeChar ++ '"' :: cs) = .ok (s, cs) := by
  rw [readText, readUnits_escaped]
  change Except.ok (String.ofList (joinUnits (s.toList.flatMap unitsOf)), cs) = _
  rw [joinUnits_flatMap, String.ofList_toList]

/-! ### Values -/

mutual

/-- A value and what is read for it: the same, except for doubles. No object has two fields of one
name. -/
def Rereads : Json → Json → Prop
  | .int _, _ => False
  | .float x, j => ∃ y, j = .float y ∧ ReadsAs x y
  | .array items, j => ∃ items', j = .array items' ∧ RereadsItems items items'
  | .object fields, j =>
    ∃ fields', j = .object fields' ∧ (fields'.map Prod.fst).Nodup ∧ RereadsFields fields fields'
  | i, j => j = i

def RereadsItems : List Json → List Json → Prop
  | [], ys => ys = []
  | x :: xs, ys => ∃ y ys', ys = y :: ys' ∧ x.Rereads y ∧ RereadsItems xs ys'

def RereadsFields : Fields → Fields → Prop
  | [], gs => gs = []
  | (k, x) :: fs, gs => ∃ y gs', gs = (k, y) :: gs' ∧ x.Rereads y ∧ RereadsFields fs gs'

end

/-- Read back as it is. -/
def Exact (j : Json) : Prop := j.Rereads j

section Rereads
variable {x y : Json} {fs gs : Fields}

theorem rereads_object (hkeys : (gs.map Prod.fst).Nodup) (h : RereadsFields fs gs) :
    Rereads (.object fs) (.object gs) :=
  ⟨gs, rfl, hkeys, h⟩

theorem rereadsFields_cons (k : String) (hx : x.Rereads y) (h : RereadsFields fs gs) :
    RereadsFields ((k, x) :: fs) ((k, y) :: gs) :=
  ⟨y, gs, rfl, hx, h⟩

theorem rereads_array {xs ys : List Json} (h : List.Forall₂ Rereads xs ys) :
    Rereads (.array xs) (.array ys) := by
  refine ⟨ys, rfl, ?_⟩
  induction h with
  | nil => rfl
  | cons hx _ ih => exact ⟨_, _, rfl, hx, ih⟩

theorem exact_ofStrings (texts : List String) : (ofStrings texts).Exact :=
  rereads_array (List.forall₂_same.mpr fun _ hx => by
    obtain ⟨s, -, rfl⟩ := List.mem_map.mp hx
    rfl)

end Rereads

mutual

/-- How many lists and objects stand in one another. -/
def depth : Json → Nat
  | .array items => depthItems items + 1
  | .object fields => depthFields fields + 1
  | _ => 0

def depthItems : List Json → Nat
  | [] => 0
  | x :: rest => max x.depth (depthItems rest)

def depthFields : Fields → Nat
  | [] => 0
  | (_, x) :: rest => max x.depth (depthFields rest)

end

theorem skipSpace_cons {c : Char} (h : isSpace c = false) (cs : List Char) :
    skipSpace (c :: cs) = c :: cs := by
  simp [skipSpace, h]

/-- No value begins with a blank or a closing bracket. -/
theorem exists_head_writeChars {j j' : Json} (hj : j.Rereads j') :
    ∃ c cs, j.writeChars = c :: cs ∧ isSpace c = false ∧ c ≠ ']' := by
  cases j with
  | null => exact ⟨'n', _, rfl, by decide, by decide⟩
  | bool b =>
    cases b with
    | false => exact ⟨'f', _, rfl, by decide, by decide⟩
    | true => exact ⟨'t', _, rfl, by decide, by decide⟩
  | int n => exact hj.elim
  | float x =>
    obtain ⟨y, -, hy⟩ := hj
    exact hy.head
  | string s => exact ⟨'"', _, rfl, by decide, by decide⟩
  | array items => exact ⟨'[', _, by rw [writeChars]; rfl, by decide, by decide⟩
  | object fields => exact ⟨'\x7b', _, by rw [writeChars]; rfl, by decide, by decide⟩

theorem exists_head_writeItems {x y : Json} (hx : x.Rereads y) (rest : List Json) :
    ∃ c cs, writeItems (x :: rest) = c :: cs ∧ isSpace c = false ∧ c ≠ ']' := by
  obtain ⟨c, cs, hcs, hspace, hclose⟩ := exists_head_writeChars hx
  cases rest with
  | nil => exact ⟨c, cs, by rw [writeItems, hcs], hspace, hclose⟩
  | cons y rest => exact ⟨c, _, by rw [writeItems, hcs]; rfl, hspace, hclose⟩

theorem exists_head_writeFields (f : String × Json) (rest : Fields) :
    ∃ cs, writeFields (f :: rest) = '"' :: cs := by
  cases rest with
  | nil => exact ⟨_, by rw [writeFields, writeString]; rfl⟩
  | cons g rest => exact ⟨_, by rw [writeFields, writeString]; rfl⟩

section Reading
variable {fuel room : Nat}

theorem readValue_string (cs : List Char) :
    readValue (fuel + 1) room ('"' :: cs) = (readText cs).map fun r => (.string r.1, r.2) :=
  rfl

theorem readValue_array_nil (cs : List Char) :
    readValue (fuel + 1) (room + 1) ('[' :: ']' :: cs) = .ok (.array [], cs) :=
  rfl

theorem readValue_array {c : Char} (hspace : isSpace c = false) (hclose : c ≠ ']')
    (cs : List Char) :
    readValue (fuel + 1) (room + 1) ('[' :: c :: cs) =
      (readItems fuel room (c :: cs)).map fun r => (.array r.1, r.2) := by
  simp [readValue, skipSpace_cons hspace, hclose]

theorem readValue_object_nil (cs : List Char) :
    readValue (fuel + 1) (room + 1) ('\x7b' :: '\x7d' :: cs) = .ok (.object [], cs) :=
  rfl

theorem readValue_object (cs : List Char) :
    readValue (fuel + 1) (room + 1) ('\x7b' :: '"' :: cs) =
      (readFields fuel room ('"' :: cs)).map fun r => (.object (Fields.merge [] r.1), r.2) :=
  rfl

theorem readItems_last {cs rest : List Char} {x : Json}
    (hx : readValue fuel room cs = .ok (x, ']' :: rest)) :
    readItems (fuel + 1) room cs = .ok ([x], rest) := by
  simp [readItems, hx, skipSpace_cons (c := ']') rfl]

theorem readItems_comma {cs rest : List Char} {x : Json} {c : Char} (hspace : isSpace c = false)
    (hx : readValue fuel room cs = .ok (x, ',' :: ' ' :: c :: rest)) :
    readItems (fuel + 1) room cs =
      (readItems fuel room (c :: rest)).map fun r => (x :: r.1, r.2) := by
  have hblank : skipSpace (' ' :: c :: rest) = c :: rest := skipSpace_cons hspace rest
  simp [readItems, hx, skipSpace_cons (c := ',') rfl, hblank]

theorem readFields_last {cs rest : List Char} {x : Json} {c : Char} (k : String)
    (hspace : isSpace c = false)
    (hx : readValue fuel room (c :: cs) = .ok (x, '\x7d' :: rest)) :
    readFields (fuel + 1) room (writeString k ++ ':' :: ' ' :: c :: cs) = .ok ([(k, x)], rest) := by
  have hblank : skipSpace (' ' :: c :: cs) = c :: cs := skipSpace_cons hspace cs
  simp [readFields, writeString, readText_escaped, hx, skipSpace_cons (c := ':') rfl,
    skipSpace_cons (c := '\x7d') rfl, hblank]

theorem readFields_comma {cs rest : List Char} {x : Json} {c : Char} (k : String)
    (hspace : isSpace c = false)
    (hx : readValue fuel room (c :: cs) = .ok (x, ',' :: ' ' :: '"' :: rest)) :
    readFields (fuel + 1) room (writeString k ++ ':' :: ' ' :: c :: cs) =
      (readFields fuel room ('"' :: rest)).map fun r => ((k, x) :: r.1, r.2) := by
  have hblank : skipSpace (' ' :: c :: cs) = c :: cs := skipSpace_cons hspace cs
  have hnext : skipSpace (' ' :: '"' :: rest) = '"' :: rest := skipSpace_cons (c := '"') rfl rest
  simp [readFields, writeString, readText_escaped, hx, skipSpace_cons (c := ':') rfl,
    skipSpace_cons (c := ',') rfl, hblank, hnext]

end Reading

theorem ends_cons {c : Char} (rest : List Char)
    (hc : isDigit c = false ∧ c ≠ '.' ∧ c ≠ 'e' ∧ c ≠ 'E') : Ends (c :: rest) := by
  rintro _ ⟨⟩
  exact hc

-- Each step of the reader takes a character or leaves a list of items for its first item, so
-- twice the length of the text is fuel enough. Of what follows only closing marks and commas
-- matter, none of which is a blank or goes on with a number.
mutual

theorem readValue_writeChars (fuel room : Nat) (j j' : Json) (hj : j.Rereads j')
    (hfuel : 2 * j.writeChars.length ≤ fuel) (hroom : j.depth ≤ room) (rest : List Char)
    (hrest : Ends rest) : readValue fuel room (j.writeChars ++ rest) = .ok (j', rest) := by
  obtain ⟨fuel, rfl⟩ : ∃ n, fuel = n + 1 := by
    obtain ⟨c, cs, hcs, -⟩ := exists_head_writeChars hj
    rw [hcs, List.length_cons] at hfuel
    exact ⟨fuel - 1, by omega⟩
  match j with
  | .null =>
    obtain rfl : j' = .null := hj
    simp [writeChars, readValue, readWord?, words, afterWord?]
  | .bool b =>
    obtain rfl : j' = .bool b := hj
    cases b <;> simp [writeChars, readValue, readWord?, words, afterWord?]
  | .int n => exact hj.elim
  | .float x =>
    obtain ⟨y, rfl, hy⟩ := hj
    rw [writeChars]
    exact hy.read fuel room rest hrest
  | .string s =>
    obtain rfl : j' = .string s := hj
    have htext : (string s).writeChars ++ rest =
        '"' :: (s.toList.flatMap escapeChar ++ '"' :: rest) := by
      simp [writeChars, writeString]
    rw [htext, readValue_string, readText_escaped]
    rfl
  | .array [] =>
    obtain ⟨_, rfl, rfl⟩ := hj
    obtain ⟨room, rfl⟩ : ∃ n, room = n + 1 := ⟨room - 1, by rw [depth] at hroom; omega⟩
    exact readValue_array_nil rest
  | .array (x :: items) =>
    obtain ⟨ys, rfl, hitems⟩ := hj
    rw [depth] at hroom
    obtain ⟨room, rfl⟩ : ∃ n, room = n + 1 := ⟨room - 1, by omega⟩
    obtain ⟨y, ys', -, hx, -⟩ := id hitems
    obtain ⟨c, cs, hcs, hspace, hclose⟩ := exists_head_writeItems hx items
    simp only [writeChars, List.length_append, List.length_cons, List.length_nil] at hfuel
    have hread := readItems_writeItems fuel room (x :: items) ys (by simp) hitems
      (by omega) (by omega) rest
    have htext : (array (x :: items)).writeChars ++ rest =
        '[' :: (writeItems (x :: items) ++ ']' :: rest) := by
      simp [writeChars]
    rw [hcs, List.cons_append] at hread htext
    rw [htext, readValue_array hspace hclose, hread]
    rfl
  | .object [] =>
    obtain ⟨_, rfl, -, rfl⟩ := hj
    obtain ⟨room, rfl⟩ : ∃ n, room = n + 1 := ⟨room - 1, by rw [depth] at hroom; omega⟩
    exact readValue_object_nil rest
  | .object (f :: fields) =>
    obtain ⟨gs, rfl, hkeys, hfields⟩ := hj
    rw [depth] at hroom
    obtain ⟨room, rfl⟩ : ∃ n, room = n + 1 := ⟨room - 1, by omega⟩
    obtain ⟨cs, hcs⟩ := exists_head_writeFields f fields
    simp only [writeChars, List.length_append, List.length_cons, List.length_nil] at hfuel
    have hread := readFields_writeFields fuel room (f :: fields) gs (by simp)
      hfields (by omega) (by omega) rest
    have htext : (object (f :: fields)).writeChars ++ rest =
        '\x7b' :: (writeFields (f :: fields) ++ '\x7d' :: rest) := by
      simp [writeChars]
    have hmerge : Fields.merge [] gs = gs := Fields.merge_append hkeys (by simp [Fields.has])
    rw [hcs, List.cons_append] at hread htext
    rw [htext, readValue_object, hread]
    change Except.ok (object (Fields.merge [] gs), rest) = _
    rw [hmerge]

theorem readItems_writeItems (fuel room : Nat) (items ys : List Json) (hne : items ≠ [])
    (hitems : RereadsItems items ys) (hfuel : 2 * (writeItems items).length + 1 ≤ fuel)
    (hroom : depthItems items ≤ room) (rest : List Char) :
    readItems fuel room (writeItems items ++ ']' :: rest) = .ok (ys, rest) := by
  obtain ⟨fuel, rfl⟩ : ∃ n, fuel = n + 1 := ⟨fuel - 1, by omega⟩
  match items with
  | [x] =>
    obtain ⟨y, _, rfl, hx, rfl⟩ := hitems
    rw [depthItems] at hroom
    rw [writeItems] at hfuel ⊢
    exact readItems_last (readValue_writeChars fuel room x y hx (by omega) (by omega) _
      (ends_cons rest (by decide)))
  | x :: x' :: items =>
    obtain ⟨y, ys, rfl, hx, hitems⟩ := hitems
    obtain ⟨y', ys', -, hx', -⟩ := id hitems
    rw [depthItems] at hroom
    simp only [writeItems, List.length_append, List.length_cons] at hfuel
    obtain ⟨c, cs, hcs, hspace, -⟩ := exists_head_writeItems hx' items
    have hread := readValue_writeChars fuel room x y hx (by omega) (by omega)
      (',' :: ' ' :: (writeItems (x' :: items) ++ ']' :: rest)) (ends_cons _ (by decide))
    have hmore := readItems_writeItems fuel room (x' :: items) ys (by simp)
      hitems (by omega) (by omega) rest
    have htext : writeItems (x :: x' :: items) ++ ']' :: rest =
        x.writeChars ++ ',' :: ' ' :: (writeItems (x' :: items) ++ ']' :: rest) := by
      simp [writeItems]
    rw [hcs, List.cons_append] at hread hmore htext
    rw [htext, readItems_comma hspace hread, hmore]
    rfl

theorem readFields_writeFields (fuel room : Nat) (fields gs : Fields) (hne : fields ≠ [])
    (hfields : RereadsFields fields gs) (hfuel : 2 * (writeFields fields).length + 1 ≤ fuel)
    (hroom : depthFields fields ≤ room) (rest : List Char) :
    readFields fuel room (writeFields fields ++ '\x7d' :: rest) = .ok (gs, rest) := by
  obtain ⟨fuel, rfl⟩ : ∃ n, fuel = n + 1 := ⟨fuel - 1, by omega⟩
  match fields with
  | [(k, x)] =>
    obtain ⟨y, _, rfl, hx, rfl⟩ := hfields
    rw [depthFields] at hroom
    simp only [writeFields, List.length_append, List.length_cons] at hfuel
    obtain ⟨c, cs, hcs, hspace, -⟩ := exists_head_writeChars hx
    have hread := readValue_writeChars fuel room x y hx (by omega) (by omega) ('\x7d' :: rest)
      (ends_cons rest (by decide))
    have htext : writeFields [(k, x)] ++ '\x7d' :: rest =
        writeString k ++ ':' :: ' ' :: (x.writeChars ++ '\x7d' :: rest) := by
      simp [writeFields]
    rw [hcs, List.cons_append] at hread htext
    rw [htext, readFields_last k hspace hread]
  | (k, x) :: f :: fields =>
    obtain ⟨y, gs, rfl, hx, hfields⟩ := hfields
    rw [depthFields] at hroom
    simp only [writeFields, List.length_append, List.length_cons] at hfuel
    obtain ⟨c, cs, hcs, hspace, -⟩ := exists_head_writeChars hx
    obtain ⟨ds, hds⟩ := exists_head_writeFields f fields
    have hread := readValue_writeChars fuel room x y hx (by omega) (by omega)
      (',' :: ' ' :: (writeFields (f :: fields) ++ '\x7d' :: rest)) (ends_cons _ (by decide))
    have hmore := readFields_writeFields fuel room (f :: fields) gs (by simp)
      hfields (by omega) (by omega) rest
    have htext : writeFields ((k, x) :: f :: fields) ++ '\x7d' :: rest =
        writeString k ++ ':' :: ' ' ::
          (x.writeChars ++ ',' :: ' ' :: (writeFields (f :: fields) ++ '\x7d' :: rest)) := by
      simp [writeFields]
    rw [hds, List.cons_append] at hread hmore htext
    rw [hcs, List.cons_append] at hread htext
    rw [htext, readFields_comma k hspace hread, hmore]
    rfl

end

/-- A written value is read back where there is room for its lists and objects. Blanks may
follow it. -/
theorem readWithin_rereads {room : Nat} {j j' : Json} (hj : j.Rereads j') (hroom : j.depth ≤ room)
    {blanks : List Char} (hblanks : ∀ c ∈ blanks, isSpace c = true) :
    readWithin room (j.writeChars ++ blanks) = .ok j' := by
  obtain ⟨c, cs, hcs, hspace, -⟩ := exists_head_writeChars hj
  have hstart : skipSpace (j.writeChars ++ blanks) = j.writeChars ++ blanks := by
    rw [hcs, List.cons_append, skipSpace_cons hspace]
  have hend : skipSpace blanks = [] := by
    rw [skipSpace, List.dropWhile_eq_nil_iff]
    exact hblanks
  have hends : Ends blanks := fun c hc => by
    have hblank := hblanks c (List.mem_of_mem_head? hc)
    simp only [isSpace, Bool.or_eq_true, beq_iff_eq] at hblank
    rcases hblank with ((rfl | rfl) | rfl) | rfl <;> decide
  rw [readWithin, hstart,
    readValue_writeChars _ _ j j' hj (by rw [List.length_append]; omega) hroom _ hends]
  simp [hend]

mutual

theorem depth_le_length (j : Json) : j.depth ≤ j.writeChars.length := by
  match j with
  | .array items =>
    have hitems := depthItems_le_length items
    simp [depth, writeChars]
    omega
  | .object fields =>
    have hfields := depthFields_le_length fields
    simp [depth, writeChars]
    omega
  | .null | .bool _ | .int _ | .float _ | .string _ => exact Nat.zero_le _

theorem depthItems_le_length (items : List Json) :
    depthItems items ≤ (writeItems items).length := by
  match items with
  | [] => exact Nat.zero_le _
  | [x] =>
    have hx := depth_le_length x
    simpa [depthItems, writeItems] using hx
  | x :: y :: rest =>
    have hx := depth_le_length x
    have hrest := depthItems_le_length (y :: rest)
    simp [depthItems, writeItems] at hrest ⊢
    omega

theorem depthFields_le_length (fields : Fields) :
    depthFields fields ≤ (writeFields fields).length := by
  match fields with
  | [] => exact Nat.zero_le _
  | [(k, x)] =>
    have hx := depth_le_length x
    simp [depthFields, writeFields]
    omega
  | (k, x) :: f :: rest =>
    have hx := depth_le_length x
    have hrest := depthFields_le_length (f :: rest)
    simp [depthFields, writeFields] at hrest ⊢
    omega

end

/-- A line is read back: it has room for whatever is written on it. -/
theorem read_line {j j' : Json} (hj : j.Rereads j') : read (j.write ++ "\n") = .ok j' := by
  have hchars : (j.write ++ "\n").toList = j.writeChars ++ ['\n'] := by
    rw [String.toList_append, write, String.toList_ofList]
    rfl
  rw [read, ← String.length_toList, hchars]
  refine readWithin_rereads hj ?_ fun c hc => ?_
  · rw [List.length_append]
    exact (depth_le_length j).trans (Nat.le_add_right _ _)
  · rw [List.mem_singleton.mp hc]
    rfl

end Json

end CodeAtlas
