import Mathlib.Data.List.TakeWhile
import CodeAtlas.Json.Reader
import CodeAtlas.Json.Writer

/-! The text of a double is one number. Whatever digits are found for it, they are laid out so that
reading takes them all and stops there. What is read depends on this text alone. -/

namespace CodeAtlas.Decimal

/-! ### Digits -/

/-- Decimal digits, the first of which is not zero unless there is no other. -/
structure Digits.Proper (d : Digits) : Prop where
  small : ∀ n ∈ d.digits, n < 10
  lead : d = .zero ∨ ∃ n rest, d.digits = n :: rest ∧ n ≠ 0

theorem exists_toDigits {n : Nat} (hn : 0 < n) :
    ∃ d cs, Nat.toDigits 10 n = Nat.digitChar d :: cs ∧ 0 < d ∧ d < 10 := by
  induction n using Nat.strongRecOn with
  | ind n ih =>
    rw [Nat.toDigits_eq_if (by decide)]
    split
    next hlt => exact ⟨n, [], rfl, hn, hlt⟩
    next hge =>
      obtain ⟨d, cs, hcs, hd⟩ := ih (n / 10) (by omega) (by omega)
      exact ⟨d, cs ++ [Nat.digitChar (n % 10)], by rw [hcs, List.cons_append], hd⟩

theorem toNat_digitChar : ∀ d < 10, (Nat.digitChar d).toNat - 0x30 = d := by decide

theorem exists_significant {n : Nat} (hn : 0 < n) :
    ∃ d rest, significant n = d :: rest ∧ d ≠ 0 := by
  obtain ⟨d, cs, hcs, hpos, hlt⟩ := exists_toDigits hn
  rw [significant, hcs, List.map_cons, List.reverse_cons, List.dropWhile_append,
    toNat_digitChar d hlt]
  split
  · exact ⟨d, [], by simp [hpos.ne'], hpos.ne'⟩
  · exact ⟨d, _, by rw [List.reverse_append]; rfl, hpos.ne'⟩

theorem isDigit_toDigits {n : Nat} {c : Char} (hc : c ∈ Nat.toDigits 10 n) :
    Json.isDigit c = true :=
  Nat.isDigit_of_mem_toDigits (by decide) (by decide) hc

theorem lt_ten_of_mem_significant {n d : Nat} (hd : d ∈ significant n) : d < 10 := by
  rw [significant, List.mem_reverse] at hd
  have hmem := List.mem_reverse.mp ((List.dropWhile_sublist _).subset hd)
  obtain ⟨c, hc, rfl⟩ := List.mem_map.mp hmem
  have hhigh : c ≤ '9' := of_decide_eq_true (Bool.and_eq_true_iff.mp (isDigit_toDigits hc)).2
  have hnat : c.toNat ≤ 0x39 := hhigh
  omega

theorem proper_zero : Digits.zero.Proper := ⟨by decide, .inl rfl⟩

theorem proper_shortestFrom (x : Ratio) (i : Interval) (point : Int) (left n : Nat) :
    (shortestFrom x i point left n).Proper := by
  induction left generalizing n with
  | zero => exact proper_zero
  | succ left ih =>
    rw [shortestFrom]
    split
    · exact ih _
    · exact ih _
    next d hne _ =>
      have hd : 0 < d := Nat.pos_of_ne_zero hne
      exact ⟨fun k => lt_ten_of_mem_significant, .inr (exists_significant hd)⟩

theorem proper_shortest (mantissa : Nat) (exponent : Int) (narrow : Bool) :
    (shortest mantissa exponent narrow).Proper := by
  rw [shortest]
  split
  · exact proper_zero
  · exact proper_shortestFrom _ _ _ _ _

/-- A number that is not whole: there are digits, the first of which is not zero unless there is no
other before the point, and something comes after those. -/
structure Numeral.Proper (n : Numeral) : Prop where
  digits : n.whole ≠ []
  lead : n.whole.head? = some 0 → n.whole = [0]
  small : ∀ d ∈ n.whole ++ n.places, d < 10
  marked : n.places = [] → n.power.isSome

theorem Digits.Proper.layout {d : Digits} (h : d.Proper) : d.layout.Proper := by
  have hsmall := h.small
  rcases h.lead with rfl | ⟨n, tail, hdigits, hn⟩
  · exact ⟨by decide, by decide, by decide, by decide⟩
  have hzeros (k : Nat) : ∀ m ∈ List.replicate k 0, m < 10 := fun m hm => by
    rw [List.eq_of_mem_replicate hm]
    decide
  rw [Digits.layout]
  split_ifs with hnear hbelow
  · exact ⟨by simp, fun _ => rfl, List.forall_mem_append.mpr ⟨hzeros 1,
      List.forall_mem_append.mpr ⟨hzeros _, hsmall⟩⟩, by simp [hdigits]⟩
  · -- The point is behind a digit, so there is one before it, the same as the first of all.
    obtain ⟨k, hk⟩ : ∃ k, d.point.toNat = k + 1 := ⟨d.point.toNat - 1, by omega⟩
    have htake : ∀ m ∈ d.digits.take d.point.toNat, m < 10 :=
      fun m hm => hsmall m (List.mem_of_mem_take hm)
    have hwhole (k : Nat) := List.forall_mem_append.mpr ⟨htake, hzeros k⟩
    dsimp only
    split_ifs with hrest
    · exact ⟨by simp [hdigits, hk], by simp [hdigits, hk, hn],
        List.forall_mem_append.mpr ⟨hwhole _, hzeros 1⟩, fun h => by cases h⟩
    · have hdrop : ∀ m ∈ d.digits.drop d.point.toNat, m < 10 :=
        fun m hm => hsmall m (List.mem_of_mem_drop hm)
      exact ⟨by simp [hdigits, hk], by simp [hdigits, hk, hn],
        List.forall_mem_append.mpr ⟨hwhole _, hdrop⟩,
        fun h => absurd (List.isEmpty_iff.mpr h) hrest⟩
  · exact ⟨by simp [hdigits], by simp [hdigits, hn],
      (List.take_append_drop 1 d.digits).symm ▸ hsmall, fun _ => rfl⟩

end CodeAtlas.Decimal

namespace CodeAtlas.Json

open Decimal

/-! ### Numbers -/

/-- What follows does not go on with a number. -/
def Ends (rest : List Char) : Prop :=
  ∀ c ∈ rest.head?, isDigit c = false ∧ c ≠ '.' ∧ c ≠ 'e' ∧ c ≠ 'E'

section Numbers
variable {ds rest : List Char} {ns : List Nat}

theorem split_digits (h : ∀ c ∈ ds, isDigit c = true)
    (hrest : ∀ c ∈ rest.head?, isDigit c = false) :
    (ds ++ rest).takeWhile isDigit = ds ∧ (ds ++ rest).dropWhile isDigit = rest := by
  rw [List.takeWhile_append_of_pos h, List.dropWhile_append_of_pos h]
  cases rest with
  | nil => simp
  | cons c rest => simp [hrest c rfl]

/-- The characters of digits. -/
def chars (ns : List Nat) : List Char := ns.map Nat.digitChar

theorem isDigit_digitChar : ∀ n < 10, isDigit (Nat.digitChar n) = true := by decide

theorem digitChar_eq_zero : ∀ n < 10, Nat.digitChar n = '0' → n = 0 := by decide

theorem isDigit_chars (h : ∀ n ∈ ns, n < 10) : ∀ c ∈ chars ns, isDigit c = true := by
  intro c hc
  obtain ⟨n, hn, rfl⟩ := List.mem_map.mp hc
  exact isDigit_digitChar n (h n hn)

theorem toList_digitText (h : ∀ n ∈ ns, n < 10) : (digitText ns).toList = chars ns := by
  rw [digitText, String.toList_join, List.flatMap_map]
  induction ns with
  | nil => rfl
  | cons n ns ih =>
    rw [List.flatMap_cons, ih fun k hk => h k (List.mem_cons_of_mem n hk), Nat.toString_eq_repr,
      Nat.toList_repr, Nat.toDigits_of_lt_base (h n List.mem_cons_self)]
    rfl

theorem readWhole_chars (hne : ns ≠ []) (hlead : ns.head? = some 0 → ns = [0])
    (h : ∀ n ∈ ns, n < 10) (hrest : ∀ c ∈ rest.head?, isDigit c = false) :
    readWhole (chars ns ++ rest) = some (chars ns, rest) := by
  obtain ⟨htake, hdrop⟩ := split_digits (isDigit_chars h) hrest
  obtain ⟨n, ns, rfl⟩ := List.exists_cons_of_ne_nil hne
  have hn : n < 10 := h n List.mem_cons_self
  by_cases hzero : n = 0
  · rw [hlead (congrArg some hzero)]
    rfl
  · rw [chars, List.map_cons, List.cons_append] at htake hdrop ⊢
    rw [readWhole, htake, hdrop, if_pos (isDigit_digitChar n hn)]
    exact fun hc => hzero (digitChar_eq_zero n hn hc)

theorem readFraction_chars (h : ∀ n ∈ ns, n < 10)
    (hrest : ∀ c ∈ rest.head?, isDigit c = false ∧ c ≠ '.') :
    readFraction ((if ns.isEmpty then [] else '.' :: chars ns) ++ rest) =
      (if ns.isEmpty then none else some (chars ns), rest) := by
  cases ns with
  | nil =>
    change readFraction rest = _
    rw [readFraction.eq_def]
    split
    · exact absurd rfl (hrest '.' rfl).2
    · rfl
  | cons n ns =>
    obtain ⟨htake, hdrop⟩ := split_digits (isDigit_chars h) fun c hc => (hrest c hc).1
    change readFraction ('.' :: Nat.digitChar n :: (chars ns ++ rest)) = _
    rw [readFraction, if_pos (isDigit_digitChar n (h n List.mem_cons_self))]
    exact Prod.ext (congrArg some htake) hdrop

/-- The sign and the digits of a power of ten. -/
def powerOf (e : Int) : Bool × List Char :=
  (decide (e < 0), (if e.natAbs < 10 then ['0'] else []) ++ Nat.toDigits 10 e.natAbs)

theorem toList_exponentText (e : Int) :
    (exponentText e).toList = 'e' :: (if e < 0 then '-' else '+') :: (powerOf e).2 := by
  simp only [exponentText, powerOf, Nat.toString_eq_repr]
  split_ifs <;> simp

theorem readPower_exponent (e : Int) (hrest : ∀ c ∈ rest.head?, isDigit c = false) :
    readPower ((exponentText e).toList ++ rest) = (some (powerOf e), rest) := by
  have hdigits : ∀ c ∈ (powerOf e).2, isDigit c = true := by
    refine List.forall_mem_append.mpr ⟨?_, fun c => isDigit_toDigits⟩
    split_ifs
    · exact List.forall_mem_singleton.mpr rfl
    · exact List.forall_mem_nil _
  obtain ⟨htake, hdrop⟩ := split_digits hdigits hrest
  obtain ⟨c, cs, hcs⟩ : ∃ c cs, (powerOf e).2 = c :: cs :=
    List.exists_cons_of_ne_nil (List.append_ne_nil_of_right_ne_nil _ Nat.toDigits_ne_nil)
  have hc : isDigit c = true := hdigits c (hcs ▸ List.mem_cons_self)
  have hhead : (powerOf e).2.head? = some c := by rw [hcs, List.head?_cons]
  rw [toList_exponentText, show powerOf e = (decide (e < 0), (powerOf e).2) from rfl]
  split_ifs with he <;> simp [readPower, htake, hdrop, hhead, hc, he]

theorem readPower_none (hrest : Ends rest) : readPower rest = (none, rest) := by
  cases rest with
  | nil => rfl
  | cons c rest =>
    obtain ⟨-, -, he, hE⟩ := hrest c rfl
    simp [readPower, he, hE]

theorem toList_text {n : Numeral} (h : n.Proper) :
    n.text.toList = chars n.whole ++ ((if n.places.isEmpty then [] else '.' :: chars n.places) ++
      ((n.power.map exponentText).getD "").toList) := by
  obtain ⟨hwhole, hplaces⟩ := List.forall_mem_append.mp h.small
  rw [Numeral.text, String.toList_append, String.toList_append, toList_digitText hwhole,
    List.append_assoc]
  split_ifs with hempty
  · rfl
  · rw [String.toList_append, toList_digitText hplaces]
    rfl

/-- Such a number is read as a double. -/
theorem readNumber_text {n : Numeral} (h : n.Proper) (negative : Bool) (hrest : Ends rest) :
    readNumber negative (n.text.toList ++ rest) =
      .ok (.float (double negative (chars n.whole) (chars n.places) (n.power.map powerOf)),
        rest) := by
  obtain ⟨hwhole, hplaces⟩ := List.forall_mem_append.mp h.small
  set tail := ((n.power.map exponentText).getD "").toList ++ rest with htail
  have hpower : readPower tail = (n.power.map powerOf, rest) := by
    cases hp : n.power with
    | none => rw [htail, hp]; exact readPower_none hrest
    | some e => rw [htail, hp]; exact readPower_exponent e fun c hc => (hrest c hc).1
  have hstop : ∀ c ∈ tail.head?, isDigit c = false ∧ c ≠ '.' := by
    cases hp : n.power with
    | none => rw [htail, hp]; exact fun c hc => ⟨(hrest c hc).1, (hrest c hc).2.1⟩
    | some e =>
      rw [htail, hp, Option.map_some, Option.getD_some, toList_exponentText]
      rintro c ⟨⟩
      decide
  have hmark : ∀ c ∈ ((if n.places.isEmpty then [] else '.' :: chars n.places) ++ tail).head?,
      isDigit c = false := by
    split_ifs
    · exact fun c hc => (hstop c hc).1
    · rintro c ⟨⟩
      decide
  rw [toList_text h, List.append_assoc, List.append_assoc, ← htail, readNumber,
    readWhole_chars h.digits h.lead hwhole hmark]
  dsimp only
  rw [readFraction_chars hplaces hstop]
  dsimp only
  rw [hpower]
  cases hp : n.places with
  | nil =>
    obtain ⟨e, he⟩ := Option.isSome_iff_exists.mp (h.marked hp)
    rw [he]
    rfl
  | cons m ms => rfl

theorem ne_of_isDigit {c : Char} (hc : isDigit c = true) (other : Char)
    (h : isDigit other = false) : c ≠ other := by
  rintro rfl
  cases h.symm.trans hc

theorem readWord?_digit {c : Char} (hc : isDigit c = true) (cs : List Char) :
    readWord? (c :: cs) = none ∧ readWord? ('-' :: c :: cs) = none := by
  have hne (other : Char) (h : isDigit other = false) : other ≠ c := (ne_of_isDigit hc other h).symm
  simp [readWord?, words, afterWord?, hne 'n' rfl, hne 't' rfl, hne 'f' rfl, hne 'N' rfl,
    hne 'I' rfl, hne '-' rfl]

theorem readValue_digit {fuel room : Nat} {c : Char} (hc : isDigit c = true) (cs : List Char) :
    readValue (fuel + 1) room (c :: cs) = readNumber false (c :: cs) ∧
      readValue (fuel + 1) room ('-' :: c :: cs) = readNumber true (c :: cs) := by
  obtain ⟨hplain, hminus⟩ := readWord?_digit hc cs
  constructor
  · rw [readValue.eq_def]
    simp [ne_of_isDigit hc '"' rfl, ne_of_isDigit hc '[' rfl,
      ne_of_isDigit hc '\x7b' rfl, ne_of_isDigit hc '-' rfl, hplain]
  · simp [readValue, hminus]

/-- The text of a double is read as this one, whatever follows, and begins neither with a blank
nor with a closing bracket. -/
structure ReadsAs (x y : Float) : Prop where
  head : ∃ c cs, writeFloat x = c :: cs ∧ isSpace c = false ∧ c ≠ ']'
  read : ∀ fuel room rest, Ends rest →
    readValue (fuel + 1) room (writeFloat x ++ rest) = .ok (.float y, rest)

theorem readsAs_word {x y : Float} (c : Char) (cs : List Char) (hx : writeFloat x = c :: cs)
    (hc : isSpace c = false ∧ c ≠ ']' ∧ c ≠ '"' ∧ c ≠ '[' ∧ c ≠ '\x7b')
    (hword : ∀ rest, readWord? (c :: (cs ++ rest)) = some (.float y, rest)) : ReadsAs x y := by
  obtain ⟨hspace, hclose, hquote, hlist, hobject⟩ := hc
  refine ⟨⟨c, cs, hx, hspace, hclose⟩, fun fuel room rest _ => ?_⟩
  rw [hx, List.cons_append, readValue.eq_def]
  simp [hquote, hlist, hobject, hword]

/-- A finite double is read as what its digits say. -/
theorem readsAs_finite {x : Float} {negative narrow : Bool} {mantissa : Nat} {exponent : Int}
    (hx : Binary.ofFloat x = .finite negative mantissa exponent narrow) (n : Numeral)
    (hn : (shortest mantissa exponent narrow).layout = n) :
    ReadsAs x (double negative (chars n.whole) (chars n.places) (n.power.map powerOf)) := by
  have hproper : n.Proper := hn ▸ (proper_shortest mantissa exponent narrow).layout
  obtain ⟨m, ms, hm⟩ := List.exists_cons_of_ne_nil hproper.digits
  have hc : isDigit (Nat.digitChar m) = true :=
    isDigit_digitChar m (hproper.small m (by simp [hm]))
  have hspace : isSpace (Nat.digitChar m) = false := by
    simp [isSpace, ne_of_isDigit hc ' ' rfl, ne_of_isDigit hc '\t' rfl,
      ne_of_isDigit hc '\n' rfl, ne_of_isDigit hc '\r' rfl]
  obtain ⟨cs, hcs⟩ : ∃ cs, n.text.toList = Nat.digitChar m :: cs := by
    rw [toList_text hproper, hm]
    exact ⟨_, rfl⟩
  have htext : writeFloat x = (if negative then ['-'] else []) ++ Nat.digitChar m :: cs := by
    rw [writeFloat, hx, ← hcs, ← hn]
    cases negative <;> simp [Binary.text]
  refine ⟨?_, fun fuel room rest hrest =>
    (?_ : _ = readNumber negative _).trans (readNumber_text hproper negative hrest)⟩
  · cases negative with
    | false => exact ⟨_, cs, htext, hspace, ne_of_isDigit hc _ rfl⟩
    | true => exact ⟨'-', _, htext, by decide, by decide⟩
  · rw [hcs, htext]
    cases negative with
    | false => exact (readValue_digit hc _).1
    | true => exact (readValue_digit hc _).2

theorem exists_readsAs (x : Float) : ∃ y, ReadsAs x y := by
  cases hx : Binary.ofFloat x with
  | nan => exact ⟨_, readsAs_word 'N' "aN".toList (by simp [writeFloat, hx]) (by decide)
      fun rest => by simp [readWord?, words, afterWord?]; rfl⟩
  | infinite negative =>
    cases negative with
    | false => exact ⟨_, readsAs_word 'I' "nfinity".toList (by simp [writeFloat, hx]) (by decide)
        fun rest => by simp [readWord?, words, afterWord?]; rfl⟩
    | true => exact ⟨_, readsAs_word '-' "Infinity".toList (by simp [writeFloat, hx]) (by decide)
        fun rest => by simp [readWord?, words, afterWord?]; rfl⟩
  | finite negative mantissa exponent narrow => exact ⟨_, readsAs_finite hx _ rfl⟩

end Numbers

end CodeAtlas.Json
