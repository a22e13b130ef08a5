import CodeAtlas.Decimal.Nearest
import CodeAtlas.Proofs.Decimal.Exact
import Mathlib.Data.Rat.Lemmas
import Mathlib.Tactic.FieldSimp
import Mathlib.Tactic.Linarith

/-! Sums and quotients of doubles are the doubles nearest to the exact ones. A number on its way to
a double is cut to a mantissa, and two bits say on which side of the middle it lies of what is
left. Bits that go out of the mantissa later are added to these two, so that nothing is rounded
twice. -/

namespace CodeAtlas.Decimal

open Float.Model (UnpackedFloat Format totalExponent)
open Float.Model.UnpackedFloat

/-! ### What is cut off -/

/-- A number by its whole part and what is known of the rest. -/
def Tells (whole : Nat) (x : ℚ) : Accuracy → Prop
  | .exact => x = whole
  | .inexact .lt => whole < x ∧ x < whole + 1 / 2
  | .inexact .eq => x = whole + 1 / 2
  | .inexact .gt => whole + 1 / 2 < x ∧ x < whole + 1

section Tells
variable {m : Nat} {x : ℚ} {acc : Accuracy}

theorem Tells.bounds (h : Tells m x acc) : (m : ℚ) ≤ x ∧ x < m + 1 := by
  rcases acc with _ | (_ | _ | _)
  · exact ⟨h.ge, h.trans_lt (lt_add_one _)⟩
  · exact ⟨h.1.le, by linarith [h.2]⟩
  · exact ⟨by linarith [h.ge], by linarith [h.le]⟩
  · exact ⟨by linarith [h.1], h.2⟩

/-- What is rounded is off by half a unit at most. -/
theorem Tells.abs_round_sub_le (h : Tells m x acc) :
    |(acc.roundToNearestEven m : ℚ) - x| ≤ 1 / 2 := by
  rw [abs_le]
  rcases acc with _ | (_ | _ | _)
  · constructor <;> simp only [Accuracy.roundToNearestEven] <;> linarith [h.le, h.ge]
  · constructor <;> simp only [Accuracy.roundToNearestEven] <;> linarith [h.1, h.2]
  · -- In the middle the even one is taken, which is either.
    rcases Nat.mod_two_eq_zero_or_one m with hm | hm <;> constructor <;>
      simp only [Accuracy.roundToNearestEven, hm] <;> push_cast <;> linarith [h.le, h.ge]
  · constructor <;> simp only [Accuracy.roundToNearestEven] <;> push_cast <;>
      linarith [h.1, h.2]

theorem roundToNearestEven_bounds (m : Nat) (acc : Accuracy) :
    m ≤ acc.roundToNearestEven m ∧ acc.roundToNearestEven m ≤ m + 1 := by
  rcases acc with _ | (_ | _ | _) <;> simp only [Accuracy.roundToNearestEven] <;> omega

/-- A number by a mantissa and its two bits. -/
def Extends (em : ExtendedMantissa) (x : ℚ) : Prop := Tells em.mantissa x em.accuracy

theorem extends_ofMantissaAndAccuracy (h : Tells m x acc) :
    Extends (.ofMantissaAndAccuracy m acc) x := by
  rcases acc with _ | (_ | _ | _) <;> exact h

theorem Extends.shiftRightOne {em : ExtendedMantissa} (h : Extends em x) :
    Extends em.shiftRightOne (x / 2) := by
  obtain ⟨m, round, sticky⟩ := em
  obtain ⟨k, rfl | rfl⟩ := Nat.even_or_odd' m
  · have hhalf : 2 * k / 2 = k := by omega
    have hbit : 2 * k % 2 = 0 := by omega
    cases round <;> cases sticky <;>
      simp only [Extends, Tells, ExtendedMantissa.accuracy, ExtendedMantissa.shiftRightOne, hhalf,
        hbit] at h ⊢ <;> push_cast at h ⊢ <;> grind
  · have hhalf : (2 * k + 1) / 2 = k := by omega
    have hbit : (2 * k + 1) % 2 = 1 := by omega
    cases round <;> cases sticky <;>
      simp only [Extends, Tells, ExtendedMantissa.accuracy, ExtendedMantissa.shiftRightOne, hhalf,
        hbit] at h ⊢ <;> push_cast at h ⊢ <;> grind

theorem Extends.shiftRight {em : ExtendedMantissa} (h : Extends em x) (n : Nat) :
    Extends (em >>> n) (x / 2 ^ n) := by
  change Extends (n.repeat ExtendedMantissa.shiftRightOne em) _
  induction n with
  | zero => simpa [Nat.repeat] using h
  | succ n ih =>
    rw [pow_succ, ← div_div]
    exact ih.shiftRightOne

end Tells

/-! ### The last place -/

section Place
variable {m : Nat} {e : Int} {x : ℚ} {acc : Accuracy}

/-- The exponent that a number is rounded to. -/
def place (m : Nat) (e : Int) : Int := Format.targetExponent .binary64 (totalExponent m e)

theorem place_eq (m : Nat) (e : Int) : place m e = max (m.log2 + 1 + e - 53) (-1074) := rfl

/-- A number in units of its last place. -/
def inPlace (m : Nat) (e : Int) (x : ℚ) : ℚ := x * 2 ^ (e - place m e)

theorem inPlace_mul (m : Nat) (e : Int) (x : ℚ) :
    inPlace m e x * 2 ^ place m e = x * 2 ^ e := by
  rw [inPlace, mul_assoc, ← zpow_add₀ two_ne_zero, sub_add_cancel]

theorem extends_shiftToTargetExponent (h : Tells m x acc) (he : e ≤ place m e) :
    Extends (shiftToTargetExponent .binary64 m e acc).1 (inPlace m e x) ∧
      (shiftToTargetExponent .binary64 m e acc).2 = place m e := by
  have hshift : ((place m e - e).toNat : Int) = place m e - e := Int.toNat_of_nonneg (by omega)
  constructor
  · have hpow : x / 2 ^ (place m e - e).toNat = inPlace m e x := by
      rw [inPlace, ← zpow_natCast, hshift, div_eq_mul_inv, ← zpow_neg, neg_sub]
    rw [← hpow]
    exact (extends_ofMantissaAndAccuracy h).shiftRight _
  · change e + ((place m e - e).toNat : Int) = _
    omega

theorem inPlace_lt (h : Tells m x acc) : inPlace m e x < 2 ^ 53 := by
  have hx : x < 2 ^ ((m.log2 : Int) + 1) := by
    have hlog : m + 1 ≤ 2 ^ (m.log2 + 1) := Nat.lt_log2_self
    exact h.bounds.2.trans_le (by exact_mod_cast hlog)
  have hplace := place_eq m e
  calc inPlace m e x < 2 ^ ((m.log2 : Int) + 1) * 2 ^ (e - place m e) := by
        rw [inPlace]
        gcongr
    _ = 2 ^ ((m.log2 : Int) + 1 + (e - place m e)) := (zpow_add₀ two_ne_zero _ _).symm
    _ ≤ 2 ^ (53 : Int) := zpow_le_zpow_right₀ one_le_two (by omega)

/-- Above the least exponent the mantissa is full. -/
theorem le_inPlace (h : Tells m x acc) (he : e ≤ place m e) :
    place m e = -1074 ∨ 2 ^ 52 ≤ inPlace m e x := by
  have hplace := place_eq m e
  rcases eq_or_ne (place m e) (-1074) with hleast | hleast
  · exact .inl hleast
  · have hm : m ≠ 0 := by
      rintro rfl
      rw [Nat.log2_zero] at hplace
      omega
    have hx : 2 ^ (m.log2 : Int) ≤ x := by
      have hlog : 2 ^ m.log2 ≤ m := Nat.log2_self_le hm
      exact le_trans (by exact_mod_cast hlog) h.bounds.1
    refine .inr ?_
    calc (2 : ℚ) ^ (52 : Int) = 2 ^ ((m.log2 : Int) + (e - place m e)) := by
          congr 1
          omega
      _ = 2 ^ (m.log2 : Int) * 2 ^ (e - place m e) := zpow_add₀ two_ne_zero _ _
      _ ≤ inPlace m e x := by
          rw [inPlace]
          gcongr

/-- Rounding up may give one digit more, which is a zero and goes. -/
theorem shiftToTargetExponent_exact (hleast : -1074 ≤ e) (hm : m ≤ 2 ^ 53)
    (hfull : e = -1074 ∨ 2 ^ 52 ≤ m) :
    Normal (shiftToTargetExponent .binary64 m e .exact).1.mantissa
        (shiftToTargetExponent .binary64 m e .exact).2 ∧
      ((shiftToTargetExponent .binary64 m e .exact).1.mantissa : ℚ) *
        2 ^ (shiftToTargetExponent .binary64 m e .exact).2 = m * 2 ^ e := by
  have hplace := place_eq m e
  have hshift : shiftToTargetExponent .binary64 m e .exact =
      (ExtendedMantissa.ofMantissaAndAccuracy m .exact >>> (place m e - e).toNat,
        e + (place m e - e).toNat) := rfl
  rcases hm.lt_or_eq with hlt | rfl
  · have hlog : m.log2 < 53 := by
      rcases eq_or_ne m 0 with rfl | hne
      · decide
      · exact (Nat.log2_lt hne).mpr hlt
    have hnone : (place m e - e).toNat = 0 := by omega
    rw [hshift, hnone, Nat.cast_zero, add_zero]
    exact ⟨⟨hleast, hlt, hfull⟩, rfl⟩
  · have hone : (place (2 ^ 53) e - e).toNat = 1 := by
      rw [Nat.log2_two_pow] at hplace
      omega
    rw [hshift, hone]
    change Normal (2 ^ 53 / 2) (e + 1) ∧ ((2 ^ 53 / 2 : Nat) : ℚ) * 2 ^ (e + 1) = _
    refine ⟨⟨by omega, by decide, .inr (by decide)⟩, ?_⟩
    rw [zpow_add_one₀ two_ne_zero]
    norm_num
    ring

end Place

/-! ### The nearest double -/

/-- No double is nearer, and the number is missed by half a unit of its last place at most. -/
structure Nearest (x v : ℚ) : Prop where
  best : ∀ m e, Normal m e → |v - x| ≤ |m * 2 ^ e - x|
  close : |v - x| ≤ 2 ^ (-53 : Int) * x + 2 ^ (-1075 : Int)

/-- The whole number that is off by half at most is the nearest one. -/
theorem abs_sub_le_of_half {k n : Int} {y : ℚ} (hk : |(k : ℚ) - y| ≤ 1 / 2) :
    |(k : ℚ) - y| ≤ |(n : ℚ) - y| := by
  rcases eq_or_ne k n with rfl | hne
  · exact le_rfl
  · have hone : (1 : ℚ) ≤ |(k : ℚ) - n| := by
      exact_mod_cast Int.one_le_abs (sub_ne_zero.mpr hne)
    have htriangle := abs_sub_le (k : ℚ) y n
    rw [abs_sub_comm y] at htriangle
    linarith

section Half
variable {k : Nat} {y : ℚ} {e : Int}

theorem abs_scaled_sub (z : ℚ) : |z * 2 ^ e - y * 2 ^ e| = |z - y| * 2 ^ e := by
  have hpos : (0 : ℚ) < 2 ^ e := zpow_pos two_pos e
  rw [← sub_mul, abs_mul, abs_of_pos hpos]

theorem best_of_half (hfull : e = -1074 ∨ 2 ^ 52 ≤ y) (hk : |(k : ℚ) - y| ≤ 1 / 2) {m : Nat}
    {f : Int} (hm : Normal m f) : |k * 2 ^ e - y * 2 ^ e| ≤ |m * 2 ^ f - y * 2 ^ e| := by
  -- Among the multiples of the last place it is the nearest.
  have hwhole (n : Nat) : |(k : ℚ) * 2 ^ e - y * 2 ^ e| ≤ |n * 2 ^ e - y * 2 ^ e| := by
    have hle : |((k : Int) : ℚ) - y| ≤ |((n : Int) : ℚ) - y| := abs_sub_le_of_half hk
    rw [abs_scaled_sub, abs_scaled_sub]
    exact mul_le_mul_of_nonneg_right hle (zpow_pos two_pos e).le
  rcases le_or_gt e f with hle | hlt
  · have hmultiple : (m : ℚ) * 2 ^ f = (m * 2 ^ (f - e).toNat : Nat) * 2 ^ e := by
      push_cast
      rw [mul_assoc, ← zpow_natCast, Int.toNat_of_nonneg (by omega), ← zpow_add₀ two_ne_zero,
        sub_add_cancel]
    rw [hmultiple]
    exact hwhole _
  · -- A finer one is below the least full mantissa, which is not above the number.
    have hy52 : 2 ^ 52 ≤ y := hfull.resolve_left (by have := hm.least; omega)
    have hbelow : (m : ℚ) * 2 ^ f ≤ (2 ^ 52 : Nat) * 2 ^ e := by
      calc (m : ℚ) * 2 ^ f ≤ 2 ^ 53 * 2 ^ (e - 1) := by
            gcongr
            · exact_mod_cast hm.short.le
            · norm_num
            · omega
        _ = (2 ^ 52 : Nat) * 2 ^ e := by
            rw [zpow_sub_one₀ two_ne_zero]
            push_cast
            ring
    have hnumber : ((2 ^ 52 : Nat) : ℚ) * 2 ^ e ≤ y * 2 ^ e := by
      gcongr
      exact_mod_cast hy52
    refine (hwhole (2 ^ 52)).trans ?_
    rw [abs_of_nonpos (by linarith), abs_of_nonpos (by linarith)]
    linarith

theorem nearest_of_half (hy : 0 ≤ y) (hfull : e = -1074 ∨ 2 ^ 52 ≤ y)
    (hk : |(k : ℚ) - y| ≤ 1 / 2) : Nearest (y * 2 ^ e) (k * 2 ^ e) := by
  refine ⟨fun _ _ => best_of_half hfull hk, ?_⟩
  rw [abs_scaled_sub]
  have hhalf : |(k : ℚ) - y| * 2 ^ e ≤ 1 / 2 * 2 ^ e := by gcongr
  rcases hfull with rfl | hy52
  · have hleft : (0 : ℚ) ≤ 2 ^ (-53 : Int) * (y * 2 ^ (-1074 : Int)) := by positivity
    have hsame : (1 / 2 : ℚ) * 2 ^ (-1074 : Int) = 2 ^ (-1075 : Int) := by
      rw [show (-1075 : Int) = -1 + -1074 by rfl, zpow_add₀ two_ne_zero]
      norm_num
    linarith
  · have hunit : (1 / 2 : ℚ) * 2 ^ e = 2 ^ (-53 : Int) * (2 ^ 52 * 2 ^ e) := by
      rw [← mul_assoc]
      norm_num
    have hle : (2 : ℚ) ^ (-53 : Int) * (2 ^ 52 * 2 ^ e) ≤ 2 ^ (-53 : Int) * (y * 2 ^ e) := by
      gcongr
    exact (hhalf.trans (hunit.le.trans hle)).trans (le_add_of_nonneg_right (by positivity))

end Half

/-- A double in normal form that is nearest to a number. -/
def Rounds (u : UnpackedFloat) (x : ℚ) : Prop :=
  IsNormal u ∧ ∃ v, unpacked? u = some v ∧ Nearest x v

section Rounds
variable {m : Nat} {e : Int} {x p q : ℚ} {acc : Accuracy} {a b : UnpackedFloat}

/-- The double with this mantissa and exponent. -/
def ofParts (m : Nat) (e : Int) : UnpackedFloat :=
  if h : m = 0 then .zero .positive else .finite .positive m e (Nat.pos_of_ne_zero h)

theorem unpacked?_ofParts (m : Nat) (e : Int) : unpacked? (ofParts m e) = some (m * 2 ^ e : ℚ) := by
  rw [ofParts]
  by_cases hzero : m = 0
  · rw [dif_pos hzero, hzero, Nat.cast_zero, zero_mul]
    rfl
  · rw [dif_neg hzero]
    exact congrArg some (scaled_false m e)

theorem isNormal_ofParts (h : Normal m e) : IsNormal (ofParts m e) := by
  rw [ofParts]
  by_cases hzero : m = 0
  · rw [dif_pos hzero]
    trivial
  · rw [dif_neg hzero]
    exact h

theorem rounds_roundWithAccuracy (h : Tells m x acc) (he : e ≤ place m e) :
    Rounds (roundWithAccuracy .binary64 .positive m e acc) (x * 2 ^ e) := by
  obtain ⟨hextends, hexponent⟩ := extends_shiftToTargetExponent h he
  have htwice : roundWithAccuracy .binary64 .positive m e acc =
      let first := shiftToTargetExponent .binary64 m e acc
      let last := shiftToTargetExponent .binary64 first.1.roundedMantissa first.2 .exact
      ofParts last.1.mantissa last.2 := rfl
  rw [htwice]
  dsimp only
  rw [hexponent]
  generalize (shiftToTargetExponent .binary64 m e acc).1 = em at hextends
  have hfloor := Tells.bounds hextends
  obtain ⟨hup, hdown⟩ := roundToNearestEven_bounds em.mantissa em.accuracy
  have hleast : -1074 ≤ place m e := (place_eq m e).symm ▸ le_max_right _ _
  have hshort : em.roundedMantissa ≤ 2 ^ 53 := by
    have hcut : em.mantissa < 2 ^ 53 := by
      exact_mod_cast hfloor.1.trans_lt (inPlace_lt h)
    exact hdown.trans hcut
  have hfull : place m e = -1074 ∨ 2 ^ 52 ≤ em.roundedMantissa := by
    refine (le_inPlace h he).imp_right fun hy => ?_
    have hcut : 2 ^ 52 < em.mantissa + 1 := by exact_mod_cast hy.trans_lt hfloor.2
    exact (Nat.lt_succ_iff.mp hcut).trans hup
  obtain ⟨hnormal, hvalue⟩ := shiftToTargetExponent_exact hleast hshort hfull
  refine ⟨isNormal_ofParts hnormal, _, unpacked?_ofParts _ _, ?_⟩
  rw [hvalue, ← inPlace_mul]
  exact nearest_of_half ((Nat.cast_nonneg _).trans hfloor.1) (le_inPlace h he)
    (Tells.abs_round_sub_le hextends)

/-! ### Quotients and sums -/

theorem finite_of_pos (ha : unpacked? a = some p) (hp : 0 < p) :
    ∃ m e hm, a = .finite .positive m e hm ∧ p = m * 2 ^ e := by
  rcases a with _ | _ | _ | ⟨s, m, e, hm⟩ <;> cases ha
  · exact absurd hp (lt_irrefl 0)
  · cases s with
    | negative => exact absurd hp (scaled_true_neg hm e).not_gt
    | positive => exact ⟨m, e, hm, rfl, scaled_false m e⟩

theorem zero_of_unpacked? (ha : unpacked? a = some 0) : ∃ s, a = .zero s := by
  rcases a with _ | _ | s | ⟨s, m, e, hm⟩
  · cases ha
  · cases ha
  · exact ⟨s, rfl⟩
  · have hvalue := Option.some.inj ha
    cases s with
    | negative => exact absurd hvalue (scaled_true_neg hm e).ne
    | positive => exact absurd hvalue (scaled_false_pos hm e).ne'

theorem tells_accuracyOfFraction (n : Nat) {d : Nat} (hd : 0 < d) :
    Tells (n / d) (n / d) (accuracyOfFraction (n % d) d) := by
  have hd' : (0 : ℚ) < d := Nat.cast_pos.mpr hd
  have hsplit : (n : ℚ) / d = (n / d : Nat) + (n % d : Nat) / d := by
    rw [div_eq_iff hd'.ne', add_mul, div_mul_cancel₀ _ hd'.ne']
    exact_mod_cast (Nat.div_add_mod' n d).symm
  have hrest : ((n % d : Nat) : ℚ) < d := Nat.cast_lt.mpr (Nat.mod_lt n hd)
  rw [hsplit, accuracyOfFraction]
  generalize n % d = r at hrest ⊢
  split_ifs with hr
  · rw [hr, Nat.cast_zero, zero_div, add_zero]
    rfl
  · have hr' : (0 : ℚ) < r := Nat.cast_pos.mpr (Nat.pos_of_ne_zero hr)
    rcases lt_trichotomy (2 * r) d with h | h | h
    · have hcast : 2 * (r : ℚ) < d := by exact_mod_cast h
      rw [compare_lt_iff_lt.mpr h]
      refine ⟨lt_add_of_pos_right _ (by positivity), add_lt_add_right ?_ _⟩
      rw [div_lt_div_iff₀ hd' two_pos]
      linarith
    · have hcast : 2 * (r : ℚ) = d := by exact_mod_cast h
      rw [compare_eq_iff_eq.mpr h, ← hcast]
      refine congrArg _ ?_
      field_simp
    · have hcast : (d : ℚ) < 2 * r := by exact_mod_cast h
      rw [compare_gt_iff_gt.mpr h]
      refine ⟨add_lt_add_right ?_ _, add_lt_add_right ?_ _⟩
      · rw [div_lt_div_iff₀ two_pos hd']
        linarith
      · rwa [div_lt_one hd']

/-- What a quotient is worked out from: the dividend with digits added, so many that the quotient
has all those of a mantissa. -/
theorem divCore_eq (m n : Nat) (e f : Int) :
    ∃ t : Int, ∃ k : Nat, divCore .binary64 m e n f =
      ((m <<< k) / n, t, accuracyOfFraction ((m <<< k) % n) n) ∧ e = t + k + f ∧
        (t ≤ -1074 ∨ n.log2 + 53 ≤ m.log2 + k) := by
  refine ⟨min (e - f) (max (m.log2 + 1 + e - (n.log2 + 1 + f) - 53) (-1074)), _, rfl, ?_⟩
  change e = _ + ((e - f - min (e - f) (max (m.log2 + 1 + e - (n.log2 + 1 + f) - 53)
    (-1074))).toNat : Int) + f ∧ (_ ∨ _ ≤ m.log2 + (e - f - min (e - f)
      (max (m.log2 + 1 + e - (n.log2 + 1 + f) - 53) (-1074))).toNat)
  omega

theorem le_shiftLeft_div {m n k : Nat} (hm : 0 < m) (hn : 0 < n)
    (hdigits : n.log2 + 53 ≤ m.log2 + k) : 2 ^ 52 ≤ (m <<< k) / n := by
  rw [Nat.le_div_iff_mul_le hn, Nat.shiftLeft_eq]
  calc 2 ^ 52 * n ≤ 2 ^ 52 * 2 ^ (n.log2 + 1) := Nat.mul_le_mul_left _ Nat.lt_log2_self.le
    _ = 2 ^ (n.log2 + 53) := by rw [← pow_add, Nat.add_comm 52]
    _ ≤ 2 ^ (m.log2 + k) := Nat.pow_le_pow_right two_pos hdigits
    _ = 2 ^ m.log2 * 2 ^ k := pow_add _ _ _
    _ ≤ m * 2 ^ k := Nat.mul_le_mul_right _ (Nat.log2_self_le hm.ne')

theorem rounds_div (ha : unpacked? a = some p) (hb : unpacked? b = some q) (hp : 0 < p)
    (hq : 0 < q) : Rounds (UnpackedFloat.div .binary64 a b) (p / q) := by
  obtain ⟨m, e, hm, rfl, rfl⟩ := finite_of_pos ha hp
  obtain ⟨n, f, hn, rfl, rfl⟩ := finite_of_pos hb hq
  obtain ⟨t, k, hcore, hk, hdigits⟩ := divCore_eq m n e f
  have hvalue : (m : ℚ) * 2 ^ e / (n * 2 ^ f) = (m <<< k : Nat) / n * 2 ^ t := by
    rw [Nat.shiftLeft_eq, hk, zpow_add₀ two_ne_zero, zpow_add₀ two_ne_zero, zpow_natCast]
    push_cast
    field_simp
  have hdiv : UnpackedFloat.div .binary64 (.finite .positive m e hm) (.finite .positive n f hn) =
      roundWithAccuracy .binary64 .positive ((m <<< k) / n) t
        (accuracyOfFraction ((m <<< k) % n) n) := by
    change roundWithAccuracy .binary64 .positive (divCore .binary64 m e n f).1
      (divCore .binary64 m e n f).2.1 (divCore .binary64 m e n f).2.2 = _
    rw [hcore]
  rw [hvalue, hdiv]
  refine rounds_roundWithAccuracy (tells_accuracyOfFraction _ hn) ?_
  rw [place_eq]
  rcases hdigits with hleast | hdigits
  · exact hleast.trans (le_max_right _ _)
  · have hquotient := le_shiftLeft_div hm hn hdigits
    have hlog : 52 ≤ ((m <<< k) / n).log2 :=
      (Nat.le_log2 (Nat.ne_of_gt (Nat.two_pow_pos 52 |>.trans_le hquotient))).mpr hquotient
    omega

theorem rounds_round (hm : 0 < m) :
    Rounds (round .binary64 .positive m e) (m * 2 ^ e) := by
  obtain ⟨k, hround, hle⟩ : ∃ k : Nat, round .binary64 .positive m e =
      roundWithAccuracy .binary64 .positive (m <<< k) (e - k) .exact ∧ e - k ≤ place m e :=
    ⟨(e - place m e).toNat, rfl, by omega⟩
  have hlog : (m <<< k).log2 = m.log2 + k := by
    rw [Nat.log2_eq_iff (Nat.ne_of_gt (Nat.shiftLeft_pos_iff.mpr hm)), Nat.shiftLeft_eq,
      Nat.add_right_comm, pow_add, pow_add _ (m.log2 + 1)]
    exact ⟨Nat.mul_le_mul_right _ (Nat.log2_self_le hm.ne'),
      Nat.mul_lt_mul_of_pos_right Nat.lt_log2_self (Nat.two_pow_pos k)⟩
  have hvalue : (m : ℚ) * 2 ^ e = (m <<< k : Nat) * 2 ^ (e - k) := by
    rw [Nat.shiftLeft_eq, zpow_sub₀ two_ne_zero, zpow_natCast]
    push_cast
    field_simp
  rw [hround, hvalue]
  have hexact : Tells (m <<< k) (m <<< k : Nat) .exact := rfl
  refine rounds_roundWithAccuracy hexact ?_
  rw [place_eq] at hle ⊢
  rw [hlog]
  push_cast
  omega

theorem nearest_self (hp : 0 ≤ p) : Nearest p p := by
  constructor
  · intro m e _
    rw [sub_self, abs_zero]
    exact abs_nonneg _
  · rw [sub_self, abs_zero]
    positivity

theorem rounds_add (hnormal : IsNormal a) (ha : unpacked? a = some p) (hb : unpacked? b = some q)
    (hp : 0 < p) (hq : 0 ≤ q) : Rounds (UnpackedFloat.add .binary64 a b) (p + q) := by
  rcases hq.lt_or_eq with hq | hzero
  · obtain ⟨m, e, hm, rfl, rfl⟩ := finite_of_pos ha hp
    obtain ⟨n, f, hn, rfl, rfl⟩ := finite_of_pos hb hq
    obtain ⟨t, j, k, hadd, he, hf⟩ : ∃ t : Int, ∃ j k : Nat,
        UnpackedFloat.add .binary64 (.finite .positive m e hm) (.finite .positive n f hn) =
          UnpackedFloat.normalize .binary64 ((m <<< j : Nat) + (n <<< k : Nat)) t .positive ∧
        e = t + j ∧ f = t + k :=
      ⟨min e f, (e - min e f).toNat, (f - min e f).toNat, rfl, by omega, by omega⟩
    have hpos : 0 < m <<< j + n <<< k := Nat.add_pos_left (Nat.shiftLeft_pos_iff.mpr hm) _
    have hround : UnpackedFloat.normalize .binary64 ((m <<< j : Nat) + (n <<< k : Nat)) t
        .positive = round .binary64 .positive (m <<< j + n <<< k) t := by
      rw [UnpackedFloat.normalize, compare_gt_iff_gt.mpr (by exact_mod_cast hpos)]
      rfl
    have hvalue : (m : ℚ) * 2 ^ e + n * 2 ^ f = (m <<< j + n <<< k : Nat) * 2 ^ t := by
      rw [Nat.shiftLeft_eq, Nat.shiftLeft_eq, he, hf, zpow_add₀ two_ne_zero,
        zpow_add₀ two_ne_zero, zpow_natCast, zpow_natCast]
      push_cast
      ring
    rw [hadd, hround, hvalue]
    exact rounds_round hpos
  · obtain ⟨s, rfl⟩ := zero_of_unpacked? (hzero ▸ hb)
    obtain ⟨m, e, hm, rfl, -⟩ := finite_of_pos ha hp
    rw [← hzero, add_zero]
    exact ⟨hnormal, p, ha, nearest_self hp.le⟩

end Rounds

/-! ### Packed doubles -/

section Pack
variable {u : UnpackedFloat} {x v : ℚ}

/-- The largest double. -/
def top : ℚ := (2 ^ 53 - 1) * 2 ^ (971 : Int)

theorem top_eq : top = 2 ^ (1024 : Int) - 2 ^ (971 : Int) := by
  rw [top, show (1024 : Int) = 53 + 971 by rfl, zpow_add₀ two_ne_zero, sub_mul, one_mul]
  rfl

theorem normal_top : Normal (2 ^ 53 - 1) 971 := ⟨by decide, by decide, .inr (by decide)⟩

theorem sign_packComponents (s : Sign) (e : BitVec 11) (m : BitVec 52) :
    Sign.ofBitVec (unpackSign (packComponents .binary64 s e m)) = s := by
  change Sign.ofBitVec ((s.toBitVec ++ e ++ m).extractLsb' 63 1) = s
  rw [BitVec.extractLsb'_append_eq_of_le (by omega), BitVec.extractLsb'_append_eq_of_le (by omega)]
  cases s <;> rfl

theorem pack_finite {m : Nat} {e : Int} (h : Normal m e) (he : e ≤ 971) (s : Sign) (hm : 0 < m) :
    pack .binary64 (.finite s m e hm) = packComponents .binary64 s
      (BitVec.ofNat 11 (if 2 ^ 52 ≤ m then (e + 1075).toNat else 0)) (BitVec.ofNat 52 m) := by
  have hleast := h.least
  have hbias : e + Format.exponentBias .binary64 + Format.mantissaBitsWithoutImplicit .binary64 =
      e + 1075 := add_assoc _ _ _
  have hlog : m.log2 + 1 = Format.mantissaBits .binary64 ↔ 2 ^ 52 ≤ m := by
    have hlt := (Nat.log2_lt hm.ne').mpr h.short
    rw [← Nat.le_log2 hm.ne']
    change m.log2 + 1 = 53 ↔ _
    omega
  have hpack : pack .binary64 (.finite s m e hm) =
      if 2 ^ 11 ≤ (e + Format.exponentBias .binary64 +
          Format.mantissaBitsWithoutImplicit .binary64).toNat + 1 then packedInfinity .binary64 s
      else if m.log2 + 1 = Format.mantissaBits .binary64 then
        packComponents .binary64 s (BitVec.ofNat 11 (e + Format.exponentBias .binary64 +
          Format.mantissaBitsWithoutImplicit .binary64).toNat) (BitVec.ofNat 52 m)
      else packComponents .binary64 s 0#11 (BitVec.ofNat 52 m) := rfl
  rw [hpack, hbias, if_neg (by omega)]
  simp only [hlog]
  split_ifs <;> rfl

theorem unpacked?_packComponents {m k : Nat} (hk : k < 2047) :
    unpacked? (unpack .binary64 (packComponents .binary64 .positive (BitVec.ofNat 11 k)
      (BitVec.ofNat 52 m))) =
        some (if k = 0 then scaled false (m % 2 ^ 52) (-1074)
          else scaled false (2 ^ 52 + m % 2 ^ 52) (k - 1075)) := by
  have hk' : k % 2 ^ 11 = k := Nat.mod_eq_of_lt (by omega)
  have hones : (-1#11).toNat = 2047 := rfl
  rw [unpacked?_unpack, ofBits_toNat]
  simp only [unpackMantissa_packComponents, unpackExponent_packComponents, sign_packComponents,
    BitVec.toNat_ofNat, ← BitVec.toNat_inj, hk', hones, if_neg hk.ne]
  split_ifs <;> rfl

/-- The fields of a double hold a number that is not too large. -/
theorem unpacked?_pack (hnormal : IsNormal u) (hv : unpacked? u = some v) (hnonneg : 0 ≤ v)
    (hlt : v < 2 ^ (1024 : Int)) : unpacked? (unpack .binary64 (pack .binary64 u)) = some v := by
  rcases hnonneg.eq_or_lt with rfl | hpos
  · obtain ⟨s, rfl⟩ := zero_of_unpacked? hv
    cases s <;> rfl
  · obtain ⟨m, e, hm, rfl, rfl⟩ := finite_of_pos hv hpos
    have hshort : m < 2 ^ 53 := hnormal.short
    have hleast : -1074 ≤ e := hnormal.least
    have he : e ≤ 971 := by
      by_contra hgt
      have hfull : 2 ^ 52 ≤ m := hnormal.full.resolve_left (by omega)
      refine hlt.not_ge ?_
      calc (2 : ℚ) ^ (1024 : Int) = (2 ^ 52 : Nat) * 2 ^ (972 : Int) := by
            rw [show (1024 : Int) = 52 + 972 by rfl, zpow_add₀ two_ne_zero]
            norm_num
        _ ≤ m * 2 ^ e := by
            gcongr
            · norm_num
            · omega
    rw [pack_finite hnormal he]
    by_cases hfull : 2 ^ 52 ≤ m
    · rw [if_pos hfull, unpacked?_packComponents (by omega), if_neg (by omega)]
      have hmantissa : 2 ^ 52 + m % 2 ^ 52 = m := by omega
      have hexponent : ((e + 1075).toNat : Int) - 1075 = e := by omega
      rw [hmantissa, hexponent, scaled_false]
    · have hleast : e = -1074 := hnormal.full.resolve_right hfull
      rw [if_neg hfull, unpacked?_packComponents (by omega), if_pos rfl,
        Nat.mod_eq_of_lt (not_le.mp hfull), hleast, scaled_false]

/-- A number that is hardly above the largest double is not rounded to infinity. -/
theorem exists_nearest (h : Rounds u x) (hx : 0 ≤ x) (hle : x ≤ top + 1) :
    ∃ v, (Binary.ofFloat (.ofModel (.pack u))).rational? = some v ∧ 0 ≤ v ∧ Nearest x v := by
  obtain ⟨hnormal, v, hv, hnearest⟩ := h
  have hnonneg : 0 ≤ v := by
    have hbest := hnearest.best 0 (-1074) ⟨le_rfl, by decide, .inl rfl⟩
    rw [Nat.cast_zero, zero_mul, zero_sub, abs_neg, abs_of_nonneg hx] at hbest
    linarith [(abs_le.mp hbest).1]
  have hlt : v < 2 ^ (1024 : Int) := by
    have hbest : |v - x| ≤ |top - x| := by
      refine (hnearest.best _ _ normal_top).trans_eq ?_
      rw [top]
      norm_num
    have hgap : (3 : ℚ) ≤ 2 ^ (971 : Int) :=
      le_trans (by norm_num) (zpow_le_zpow_right₀ one_le_two (show (2 : Int) ≤ 971 by decide))
    have htop := top_eq
    by_contra hge
    generalize (2 : ℚ) ^ (1024 : Int) = above at htop hge
    generalize (2 : ℚ) ^ (971 : Int) = gap at htop hgap
    rcases le_total x top with hbelow | habove
    · rw [abs_of_nonneg (sub_nonneg.mpr hbelow)] at hbest
      linarith [(abs_le.mp hbest).2]
    · rw [abs_of_nonpos (sub_nonpos.mpr habove)] at hbest
      linarith [(abs_le.mp hbest).2]
  refine ⟨v, ?_, hnonneg, hnearest⟩
  exact (unpacked?_unpack _).symm.trans (unpacked?_pack hnormal hv hnonneg hlt)

theorem scaled_le_top {m : Nat} {e : Int} (hm : m < 2 ^ 53) (he : e ≤ 971) (negative : Bool) :
    scaled negative m e ≤ top := by
  have hm' : (m : ℚ) ≤ 2 ^ 53 - 1 := by
    rw [le_sub_iff_add_le]
    exact_mod_cast hm
  calc scaled negative m e ≤ m * 2 ^ e := by
        cases negative with
        | true =>
          rw [scaled_true]
          linarith [show (0 : ℚ) ≤ m * 2 ^ e by positivity]
        | false => rw [scaled_false]
    _ ≤ top := by
        rw [top]
        gcongr
        norm_num

end Pack

/-! ### Doubles -/

section Float
variable {a b : Float} {p q : ℚ}

theorem le_top (hp : (Binary.ofFloat a).rational? = some p) : p ≤ top := by
  obtain ⟨bits, hbits⟩ : ∃ b : BitVec (Format.numBits .binary64),
      Binary.ofFloat a = Binary.ofBits b.toNat := ⟨a.toModel.toBits.toBitVec, rfl⟩
  have hmantissa : (unpackMantissa bits).toNat < 2 ^ 52 := (unpackMantissa bits).isLt
  have hexponent : (unpackExponent bits).toNat < 2 ^ 11 := (unpackExponent bits).isLt
  rw [hbits, ofBits_toNat] at hp
  split_ifs at hp with hones hzero hleast
  · cases hp
  · cases hp
  · rw [← Option.some.inj hp]
    exact scaled_le_top (by omega) (by decide) _
  · rw [← Option.some.inj hp]
    have hne : (unpackExponent bits).toNat ≠ 2047 := fun h => hones (BitVec.eq_of_toNat_eq h)
    exact scaled_le_top (by omega) (by omega) _

theorem add_nearest (ha : (Binary.ofFloat a).rational? = some p)
    (hb : (Binary.ofFloat b).rational? = some q) (hp : 0 < p) (hq : 0 ≤ q)
    (hle : p + q ≤ top + 1) :
    ∃ v, (Binary.ofFloat (a + b)).rational? = some v ∧ 0 ≤ v ∧ Nearest (p + q) v :=
  exists_nearest (rounds_add (isNormal_unpack _) ((unpacked?_unpack _).trans ha)
    ((unpacked?_unpack _).trans hb) hp hq) (by positivity) hle

theorem div_nearest (ha : (Binary.ofFloat a).rational? = some p)
    (hb : (Binary.ofFloat b).rational? = some q) (hp : 0 < p) (hq : 0 < q)
    (hle : p / q ≤ top + 1) :
    ∃ v, (Binary.ofFloat (a / b)).rational? = some v ∧ 0 ≤ v ∧ Nearest (p / q) v :=
  exists_nearest (rounds_div ((unpacked?_unpack _).trans ha) ((unpacked?_unpack _).trans hb) hp hq)
    (by positivity) hle

theorem unpacked?_unrounded (n : Nat) : unpacked? (unrounded n) = some (n : ℚ) := by
  rw [show unrounded n = ofParts n 0 from rfl, unpacked?_ofParts, zpow_zero, mul_one]

theorem ratio_nearest {n d : Nat} (hn : 0 < n) (hd : 0 < d) (hle : (n : ℚ) / d ≤ top + 1) :
    ∃ v, (Binary.ofFloat (ratio n d)).rational? = some v ∧ 0 ≤ v ∧ Nearest (n / d) v :=
  exists_nearest (rounds_div (unpacked?_unrounded n) (unpacked?_unrounded d) (Nat.cast_pos.mpr hn)
    (Nat.cast_pos.mpr hd)) (by positivity) hle

theorem rational?_one : (Binary.ofFloat 1).rational? = some 1 := by
  have hparts : Binary.ofFloat 1 = .finite false (2 ^ 52) (-52) true := by decide +kernel
  rw [hparts, Binary.rational?, scaled_false]
  norm_num

theorem normal_one : Normal (2 ^ 52) (-52) := ⟨by decide, by decide, .inr le_rfl⟩

/-- What is on one side of one stays there. -/
theorem Nearest.le_one {x v : ℚ} (h : Nearest x v) (hx : x ≤ 1) : v ≤ 1 := by
  have hbest : |v - x| ≤ 1 - x := by
    refine (h.best _ _ normal_one).trans_eq ?_
    rw [← abs_of_nonneg (sub_nonneg.mpr hx)]
    norm_num
  linarith [(abs_le.mp hbest).2]

theorem Nearest.one_le {x v : ℚ} (h : Nearest x v) (hx : 1 ≤ x) : 1 ≤ v := by
  have hbest : |v - x| ≤ x - 1 := by
    refine (h.best _ _ normal_one).trans_eq ?_
    rw [← abs_of_nonneg (sub_nonneg.mpr hx), abs_sub_comm]
    norm_num
  linarith [(abs_le.mp hbest).1]

end Float

end CodeAtlas.Decimal
