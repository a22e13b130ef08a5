import CodeAtlas.Json.Order
import Mathlib.Algebra.Order.Field.Power
import Mathlib.Algebra.Order.Field.Rat
import Mathlib.Order.Compare
import Mathlib.Tactic.NormNum
import Mathlib.Tactic.Positivity
import Mathlib.Tactic.Ring

/-! Numbers compare by their exact values. A finite double stands for one rational number, its
signed mantissa times a power of two. Doubles are compared by exponent first and mantissa next,
which is the order of these numbers because a mantissa has all its digits unless the exponent is
the least one. A whole number and a double are compared with no rounding at all. -/

namespace CodeAtlas.Decimal

open Float.Model (UnpackedFloat Format)
open Float.Model.UnpackedFloat (Sign unpack unpackMantissa unpackExponent unpackSign)

/-- The number with this sign, mantissa and exponent. -/
def scaled (negative : Bool) (mantissa : Nat) (exponent : Int) : ℚ :=
  (if negative then -1 else 1) * (mantissa * 2 ^ exponent)

theorem scaled_true (m : Nat) (e : Int) : scaled true m e = -(m * 2 ^ e) := by
  rw [scaled, if_pos rfl, neg_one_mul]

theorem scaled_false (m : Nat) (e : Int) : scaled false m e = m * 2 ^ e := by
  rw [scaled, if_neg Bool.false_ne_true, one_mul]

theorem scaled_eq (negative : Bool) (m : Nat) (e : Int) :
    scaled negative m e = (if negative then -(m : Int) else m : Int) * 2 ^ e := by
  cases negative <;> simp [scaled]

theorem scaled_true_neg {m : Nat} (hm : 0 < m) (e : Int) : scaled true m e < 0 := by
  rw [scaled_true]
  exact neg_lt_zero.mpr (by positivity)

theorem scaled_false_pos {m : Nat} (hm : 0 < m) (e : Int) : 0 < scaled false m e := by
  rw [scaled_false]
  positivity

/-- The number that a double stands for, unless it is infinite or none. -/
def Binary.rational? : Binary → Option ℚ
  | .finite negative mantissa exponent _ => some (scaled negative mantissa exponent)
  | _ => none

/-! ### Mantissas and exponents -/

/-- The mantissa and the exponent of a double. Below full length only the least exponent is used,
so that no number has two forms. -/
structure Normal (mantissa : Nat) (exponent : Int) : Prop where
  least : -1074 ≤ exponent
  short : mantissa < 2 ^ 53
  full : exponent = -1074 ∨ 2 ^ 52 ≤ mantissa

theorem compare_map {α β : Type} [LinearOrder α] [LinearOrder β] {f : α → β} (hf : StrictMono f)
    (a b : α) : compare (f a) (f b) = compare a b := by
  rw [← cmp_eq_compare, hf.cmp_map_eq, cmp_eq_compare]

section Normal
variable {m m' : Nat} {e e' : Int}

theorem Normal.lt_of_exponent_lt (h : Normal m e) (h' : Normal m' e') (he : e < e') :
    (m : ℚ) * 2 ^ e < m' * 2 ^ e' := by
  have hleast := h.least
  have hfull : 2 ^ 52 ≤ m' := h'.full.resolve_left (by omega)
  calc (m : ℚ) * 2 ^ e < 2 ^ 53 * 2 ^ e := by
        gcongr
        exact_mod_cast h.short
    _ = 2 ^ 52 * 2 ^ (e + 1) := by
        rw [zpow_add_one₀ two_ne_zero]
        ring
    _ ≤ m' * 2 ^ e' := by
        gcongr
        · exact_mod_cast hfull
        · norm_num
        · omega

theorem Normal.compare_eq (h : Normal m e) (h' : Normal m' e') :
    compare ((m : ℚ) * 2 ^ e) (m' * 2 ^ e') = (compare e e').then (compare m m') := by
  rcases lt_trichotomy e e' with he | rfl | he
  · rw [compare_lt_iff_lt.mpr he]
    exact compare_lt_iff_lt.mpr (h.lt_of_exponent_lt h' he)
  · have hmono : StrictMono fun n : Nat => (n : ℚ) * 2 ^ e :=
      Nat.strictMono_cast.mul_const (zpow_pos two_pos e)
    rw [compare_eq_iff_eq.mpr rfl]
    exact compare_map hmono m m'
  · rw [compare_gt_iff_gt.mpr he]
    exact compare_gt_iff_gt.mpr (h'.lt_of_exponent_lt h he)

end Normal

/-! ### Doubles taken apart -/

/-- The number of an unpacked double. -/
def unpacked? : UnpackedFloat → Option ℚ
  | .zero _ => some 0
  | .finite sign mantissa exponent _ => some (scaled (sign == .negative) mantissa exponent)
  | _ => none

/-- An infinite one has no mantissa to speak of, nor has zero. -/
def IsNormal : UnpackedFloat → Prop
  | .finite _ mantissa exponent _ => Normal mantissa exponent
  | _ => True

/-- Doubles are in the order of their numbers. -/
theorem compare_unpacked {a b : UnpackedFloat} (ha : IsNormal a) (hb : IsNormal b) {p q : ℚ}
    (hp : unpacked? a = some p) (hq : unpacked? b = some q) :
    a.compare b = some (compare p q) := by
  rcases a with _ | _ | _ | ⟨s, m, e, hm⟩ <;> cases hp <;>
    rcases b with _ | _ | _ | ⟨s', m', e', hm'⟩ <;> cases hq
  case zero.refl.zero.refl => exact congrArg some (compare_eq_iff_eq.mpr rfl).symm
  case zero.refl.finite.refl =>
    cases s' with
    | negative => exact congrArg some (compare_gt_iff_gt.mpr (scaled_true_neg hm' e')).symm
    | positive => exact congrArg some (compare_lt_iff_lt.mpr (scaled_false_pos hm' e')).symm
  case finite.refl.zero.refl =>
    cases s with
    | negative => exact congrArg some (compare_lt_iff_lt.mpr (scaled_true_neg hm e)).symm
    | positive => exact congrArg some (compare_gt_iff_gt.mpr (scaled_false_pos hm e)).symm
  case finite.refl.finite.refl =>
    -- Different signs decide; of two negative numbers the order is turned round.
    rcases s with _ | _ <;> rcases s' with _ | _
    · have hanti : StrictAnti fun x : ℚ => -x := fun _ _ => neg_lt_neg
      change some _ = some (compare (scaled true m e) (scaled true m' e'))
      rw [scaled_true, scaled_true, ← ha.compare_eq hb, ← cmp_eq_compare, cmp_swap,
        ← hanti.cmp_map_eq, cmp_eq_compare]
    · exact congrArg some (compare_lt_iff_lt.mpr
        ((scaled_true_neg hm e).trans (scaled_false_pos hm' e'))).symm
    · exact congrArg some (compare_gt_iff_gt.mpr
        ((scaled_true_neg hm' e').trans (scaled_false_pos hm e))).symm
    · change some _ = some (compare (scaled false m e) (scaled false m' e'))
      rw [scaled_false, scaled_false, ha.compare_eq hb]

/-! ### The fields of bits -/

section Bits
variable (b : BitVec (Format.numBits .binary64))

theorem toNat_unpackMantissa : (unpackMantissa b).toNat = b.toNat % 2 ^ 52 := by
  rfl

theorem toNat_unpackExponent : (unpackExponent b).toNat = b.toNat / 2 ^ 52 % 2 ^ 11 := by
  change b.toNat >>> 52 % 2 ^ 11 = _
  rw [Nat.shiftRight_eq_div_pow]

theorem toNat_unpackSign : (unpackSign b).toNat = b.toNat / 2 ^ 63 % 2 := by
  change b.toNat >>> 63 % 2 = _
  rw [Nat.shiftRight_eq_div_pow]

theorem toNat_unpackSign_beq :
    ((unpackSign b).toNat == 1) = (Sign.ofBitVec (unpackSign b) == .negative) := by
  generalize unpackSign b = v
  decide +revert

/-- The parts of a double by the fields of its bits. -/
theorem ofBits_toNat :
    Binary.ofBits b.toNat =
      if unpackExponent b = -1#_ then
        if unpackMantissa b = 0#_ then .infinite (Sign.ofBitVec (unpackSign b) == .negative)
        else .nan
      else if unpackExponent b = 0#_ then
        .finite (Sign.ofBitVec (unpackSign b) == .negative) (unpackMantissa b).toNat (-1074) false
      else
        .finite (Sign.ofBitVec (unpackSign b) == .negative) (2 ^ 52 + (unpackMantissa b).toNat)
          ((unpackExponent b).toNat - 1075)
          ((unpackMantissa b).toNat == 0 && (unpackExponent b).toNat != 1) := by
  rw [← toNat_unpackSign_beq]
  simp only [Binary.ofBits, beq_iff_eq, ← BitVec.toNat_inj, toNat_unpackMantissa,
    toNat_unpackExponent, toNat_unpackSign]
  rfl

theorem toNat_one_append (fraction : BitVec 52) :
    (1#1 ++ fraction).toNat = 2 ^ 52 + fraction.toNat := by
  rw [BitVec.toNat_append, ← Nat.shiftLeft_add_eq_or_of_lt fraction.isLt, Nat.shiftLeft_eq]
  rfl

theorem unpacked?_unpack :
    unpacked? (unpack .binary64 b) = (Binary.ofBits b.toNat).rational? := by
  rw [ofBits_toNat]
  change unpacked? (if unpackExponent b = -1#_ then _ else if unpackExponent b = 0#_ then
    if h : unpackMantissa b = 0#_ then _ else _ else _) = _
  by_cases hones : unpackExponent b = -1#_
  · rw [if_pos hones, if_pos hones]
    split <;> rfl
  rw [if_neg hones, if_neg hones]
  by_cases hzero : unpackExponent b = 0#_
  · rw [if_pos hzero, if_pos hzero]
    by_cases hfraction : unpackMantissa b = 0#_
    · rw [dif_pos hfraction, hfraction]
      exact congrArg some (by simp [scaled])
    · rw [dif_neg hfraction, hzero]
      rfl
  · rw [if_neg hzero, if_neg hzero, ← toNat_one_append]
    rfl

theorem isNormal_unpack : IsNormal (unpack .binary64 b) := by
  have hshort : (unpackMantissa b).toNat < 2 ^ 52 := (unpackMantissa b).isLt
  change IsNormal (if unpackExponent b = -1#_ then _ else if unpackExponent b = 0#_ then
    if h : unpackMantissa b = 0#_ then _ else _ else _)
  by_cases hones : unpackExponent b = -1#_
  · rw [if_pos hones]
    split <;> trivial
  rw [if_neg hones]
  by_cases hzero : unpackExponent b = 0#_
  · rw [if_pos hzero, hzero]
    by_cases hfraction : unpackMantissa b = 0#_
    · rw [dif_pos hfraction]
      trivial
    · rw [dif_neg hfraction]
      exact ⟨by decide, hshort.trans (by decide), .inl (by decide)⟩
  · have hpos : (unpackExponent b).toNat ≠ 0 := fun h => hzero (BitVec.eq_of_toNat_eq h)
    have hnormal : Normal (2 ^ 52 + (unpackMantissa b).toNat) ((unpackExponent b).toNat - 1075) :=
      ⟨by omega, by omega, .inr (by omega)⟩
    rw [if_neg hzero]
    rw [← toNat_one_append] at hnormal
    exact hnormal

end Bits

end CodeAtlas.Decimal

namespace CodeAtlas.Json

open Decimal

/-! ### The order of values -/

section Float
variable {x y : Float} {p q : ℚ}

theorem float_lt_iff : x < y ↔ x.toModel.unpack.compare y.toModel.unpack = some .lt := by
  change decide ((x.toModel.unpack.compare y.toModel.unpack == some .lt) = true) = true ↔ _
  rw [decide_eq_true_iff, beq_iff_eq]

theorem float_beq_iff : (x == y) = true ↔ x.toModel.unpack.compare y.toModel.unpack = some .eq := by
  change (x.toModel.unpack.compare y.toModel.unpack == some .eq) = true ↔ _
  rw [beq_iff_eq]

theorem compare_unpack (hp : (Binary.ofFloat x).rational? = some p)
    (hq : (Binary.ofFloat y).rational? = some q) :
    x.toModel.unpack.compare y.toModel.unpack = some (compare p q) :=
  compare_unpacked (isNormal_unpack _) (isNormal_unpack _) ((unpacked?_unpack _).trans hp)
    ((unpacked?_unpack _).trans hq)

theorem compareFloat?_of_rational (hp : (Binary.ofFloat x).rational? = some p)
    (hq : (Binary.ofFloat y).rational? = some q) :
    compareFloat? x y = some (compare p q) := by
  rw [compareFloat?]
  simp only [float_lt_iff, float_beq_iff, compare_unpack hp hq, compare_unpack hq hp,
    Option.some.injEq, compare_lt_iff_lt, compare_eq_iff_eq]
  rcases lt_trichotomy p q with h | rfl | h
  · rw [if_pos h, compare_lt_iff_lt.mpr h]
  · simp
  · rw [if_neg h.not_gt, if_pos h, compare_gt_iff_gt.mpr h]

/-- A whole number against a scaled one: both times the power of two that makes them whole. -/
theorem compare_scale (n m e : Int) :
    compare (n : ℚ) (m * 2 ^ e) =
      if e ≥ 0 then compare n (m * (Nat.pow 2 e.toNat : Nat))
      else compare (n * (Nat.pow 2 (-e).toNat : Nat)) m := by
  rw [Nat.pow_eq, Nat.pow_eq]
  split
  next he =>
    have hpow : (m : ℚ) * 2 ^ e = (m * (2 ^ e.toNat : Nat) : Int) := by
      have hzpow : (2 : ℚ) ^ e = 2 ^ e.toNat := by rw [← zpow_natCast, Int.toNat_of_nonneg he]
      rw [hzpow]
      push_cast
      rfl
    rw [hpow, compare_map Int.cast_strictMono]
  next he =>
    have hpow : (n : ℚ) = (n * (2 ^ (-e).toNat : Nat) : Int) * 2 ^ e := by
      have hzpow : (2 : ℚ) ^ (-e).toNat * 2 ^ e = 1 := by
        rw [← zpow_natCast, Int.toNat_of_nonneg (by omega), ← zpow_add₀ two_ne_zero,
          neg_add_cancel, zpow_zero]
      push_cast
      rw [mul_assoc, hzpow, mul_one]
    have hmono : StrictMono fun k : Int => (k : ℚ) * 2 ^ e :=
      Int.cast_strictMono.mul_const (zpow_pos two_pos e)
    rw [hpow]
    exact compare_map hmono _ m

theorem compareWhole?_of_rational (n : Int) (hp : (Binary.ofFloat x).rational? = some p) :
    compareWhole? n x = some (compare (n : ℚ) p) := by
  rw [compareWhole?]
  cases hx : Binary.ofFloat x with
  | nan => rw [hx] at hp; cases hp
  | infinite => rw [hx] at hp; cases hp
  | finite negative mantissa e narrow =>
    rw [hx] at hp
    cases hp
    rw [scaled_eq, compare_scale]
    exact (apply_ite some _ _ _).symm

end Float

/-- The number that a value is, if it is a finite one. -/
def rational? (v : Json) : Option ℚ :=
  match v.whole?, v with
  | some n, _ => some n
  | none, .float x => (Binary.ofFloat x).rational?
  | none, _ => none

theorem rational?_eq_some {a : Json} {p : ℚ} (hp : a.rational? = some p) :
    (∃ n : Int, a.whole? = some n ∧ p = n) ∨
      ∃ x, a = .float x ∧ (Binary.ofFloat x).rational? = some p := by
  cases a with
  | bool b => exact .inl ⟨_, rfl, (Option.some.inj hp).symm⟩
  | int n => exact .inl ⟨n, rfl, (Option.some.inj hp).symm⟩
  | float x => exact .inr ⟨x, rfl, hp⟩
  | _ => cases hp

theorem compare?_eq_compareNumber? {a : Json} {p : ℚ} (hp : a.rational? = some p) (b : Json) :
    compare? a b = compareNumber? a b := by
  cases a <;> cases b <;> first | rfl | cases hp

theorem compare?_of_rational {a b : Json} {p q : ℚ} (hp : a.rational? = some p)
    (hq : b.rational? = some q) : compare? a b = some (compare p q) := by
  rw [compare?_eq_compareNumber? hp, compareNumber?.eq_def]
  obtain ⟨m, hm, rfl⟩ | ⟨x, rfl, hx⟩ := rational?_eq_some hp <;>
    obtain ⟨n, hn, rfl⟩ | ⟨y, rfl, hy⟩ := rational?_eq_some hq
  · rw [hm, hn, compare_map Int.cast_strictMono]
  · rw [hm]
    exact compareWhole?_of_rational m hy
  · rw [hn]
    change Option.map Ordering.swap (compareWhole? n x) = _
    rw [compareWhole?_of_rational n hx, Option.map_some, ← cmp_eq_compare, cmp_swap, cmp_eq_compare]
  · exact compareFloat?_of_rational hx hy

end CodeAtlas.Json
