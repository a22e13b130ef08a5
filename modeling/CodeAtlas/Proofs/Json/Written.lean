import CodeAtlas.Json.Writer

/-! Written JSON is one line. Whatever a value holds, its text is made of printable ASCII
characters only: everything else stands in texts, where it is escaped. So there is no line break
in it, and a line break after it ends it. -/

namespace CodeAtlas.Json

/-- Printable ASCII characters only. -/
def Legible (cs : List Char) : Prop := ∀ c ∈ cs, 0x20 ≤ c.toNat ∧ c.toNat ≤ 0x7e

instance (cs : List Char) : Decidable (Legible cs) :=
  decidable_of_iff (cs.all fun c => decide (0x20 ≤ c.toNat) && decide (c.toNat ≤ 0x7e))
    (by simp [Legible])

section Legible
variable {cs cs' : List Char}

theorem legible_nil : Legible [] := fun c hc => by cases hc

theorem Legible.append (h : Legible cs) (h' : Legible cs') : Legible (cs ++ cs') :=
  fun c hc => (List.mem_append.mp hc).elim (h c) (h' c)

theorem Legible.cons {c : Char} (hc : 0x20 ≤ c.toNat ∧ c.toNat ≤ 0x7e) (h : Legible cs) :
    Legible (c :: cs) :=
  List.forall_mem_cons.mpr ⟨hc, h⟩

theorem Legible.newline_notMem (h : Legible cs) : '\n' ∉ cs :=
  fun hc => absurd (h '\n' hc).1 (by decide)

end Legible

/-! ### Numbers -/

theorem legible_of_isDigit {cs : List Char} (h : ∀ c ∈ cs, c.isDigit = true) : Legible cs := by
  intro c hc
  have hdigit := h c hc
  simp only [Char.isDigit, Bool.and_eq_true, decide_eq_true_eq, ge_iff_le,
    UInt32.le_iff_toNat_le] at hdigit
  have hlow : 0x30 ≤ c.toNat := hdigit.1
  have hhigh : c.toNat ≤ 0x39 := hdigit.2
  omega

theorem legible_nat (n : Nat) : Legible (toString n).toList := by
  rw [Nat.toString_eq_repr, Nat.toList_repr]
  exact legible_of_isDigit fun _ => Nat.isDigit_of_mem_toDigits (by decide) (by decide)

theorem legible_int (n : Int) : Legible (toString n).toList := by
  rw [Int.toString_eq_repr, Int.repr_eq_if]
  split
  · exact legible_nat n.toNat
  · rw [String.toList_append]
    exact Legible.append (by decide) (legible_nat _)

theorem legible_digitText (ds : List Nat) : Legible (Decimal.digitText ds).toList := by
  rw [Decimal.digitText, String.toList_join]
  intro c hc
  obtain ⟨text, htext, hc⟩ := List.mem_flatMap.mp hc
  obtain ⟨d, -, rfl⟩ := List.mem_map.mp htext
  exact legible_nat d c hc

theorem legible_exponentText (e : Int) : Legible (Decimal.exponentText e).toList := by
  simp only [Decimal.exponentText, String.toList_append]
  refine Legible.append ?_ ?_
  · split <;> decide
  · split
    · rw [String.toList_append]
      exact Legible.append (by decide) (legible_nat _)
    · exact legible_nat _

theorem legible_text (n : Decimal.Numeral) : Legible n.text.toList := by
  simp only [Decimal.Numeral.text, String.toList_append]
  refine ((legible_digitText _).append ?_).append ?_
  · split
    · decide
    · rw [String.toList_append]
      exact Legible.append (by decide) (legible_digitText _)
  · cases n.power with
    | none => decide
    | some e => exact legible_exponentText e

theorem legible_writeFloat (x : Float) : Legible (writeFloat x) := by
  unfold writeFloat
  cases Decimal.Binary.ofFloat x with
  | nan => exact (by decide : Legible "NaN".toList)
  | infinite negative =>
    cases negative with
    | false => exact (by decide : Legible "Infinity".toList)
    | true => exact (by decide : Legible "-Infinity".toList)
  | finite negative mantissa exponent narrow =>
    simp only [Decimal.Binary.text, String.toList_append]
    refine Legible.append ?_ (legible_text _)
    cases negative <;> decide

/-! ### Texts -/

theorem digitChar_of_mem_toDigits {n : Nat} {c : Char} (h : c ∈ Nat.toDigits 16 n) :
    ∃ d < 16, c = Nat.digitChar d := by
  induction n using Nat.strongRecOn with
  | ind n ih =>
    rw [Nat.toDigits_eq_if (by decide)] at h
    split at h
    · exact ⟨n, ‹n < 16›, List.mem_singleton.mp h⟩
    · rcases List.mem_append.mp h with h | h
      · exact ih (n / 16) (by omega) h
      · exact ⟨n % 16, by omega, List.mem_singleton.mp h⟩

theorem legible_digitChar : ∀ d < 16,
    0x20 ≤ (Nat.digitChar d).toNat ∧ (Nat.digitChar d).toNat ≤ 0x7e := by
  decide

theorem legible_hex (width n : Nat) : Legible (Text.hex width n) := by
  refine Legible.append (fun c hc => ?_) fun c hc => ?_
  · rw [List.eq_of_mem_replicate hc]
    decide
  · obtain ⟨d, hd, rfl⟩ := digitChar_of_mem_toDigits hc
    exact legible_digitChar d hd

theorem legible_escapeUnit (n : Nat) : Legible (escapeUnit n) :=
  .cons (by decide) (.cons (by decide) (legible_hex 4 n))

theorem legible_escapeChar (c : Char) : Legible (escapeChar c) := by
  unfold escapeChar
  iterate 7 split; · decide
  split
  · exact .cons ‹0x20 ≤ c.toNat ∧ c.toNat ≤ 0x7e› legible_nil
  split
  · exact legible_escapeUnit _
  · exact (legible_escapeUnit _).append (legible_escapeUnit _)

theorem legible_writeString (s : String) : Legible (writeString s) := by
  refine .cons (by decide) (Legible.append (fun c hc => ?_) (by decide))
  obtain ⟨c', -, hc⟩ := List.mem_flatMap.mp hc
  exact legible_escapeChar c' c hc

/-! ### Values -/

mutual

theorem legible_writeChars : ∀ j : Json, Legible j.writeChars
  | .null => (by decide : Legible "null".toList)
  | .bool true => (by decide : Legible "true".toList)
  | .bool false => (by decide : Legible "false".toList)
  | .int n => legible_int n
  | .float x => legible_writeFloat x
  | .string s => legible_writeString s
  | .array items => .cons (by decide) ((legible_writeItems items).append (by decide))
  | .object fields => .cons (by decide) ((legible_writeFields fields).append (by decide))

theorem legible_writeItems : ∀ items : List Json, Legible (writeItems items)
  | [] => legible_nil
  | [x] => legible_writeChars x
  | x :: y :: rest =>
    (legible_writeChars x).append (.cons (by decide) (.cons (by decide)
      (legible_writeItems (y :: rest))))

theorem legible_writeFields : ∀ fields : Fields, Legible (writeFields fields)
  | [] => legible_nil
  | [(k, x)] =>
    (legible_writeString k).append (.cons (by decide) (.cons (by decide) (legible_writeChars x)))
  | (k, x) :: f :: rest => by
    have hfield : Legible (writeString k ++ ':' :: ' ' :: writeChars x) :=
      (legible_writeString k).append (.cons (by decide) (.cons (by decide) (legible_writeChars x)))
    exact hfield.append (.cons (by decide) (.cons (by decide) (legible_writeFields (f :: rest))))

end

end CodeAtlas.Json
