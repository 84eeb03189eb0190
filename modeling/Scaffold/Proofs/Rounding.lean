import Mathlib.Algebra.Order.Field.Power
import Mathlib.Data.Int.Log
import Mathlib.Data.Rat.Floor
import Mathlib.Tactic.FieldSimp
import Mathlib.Tactic.Linarith
import Mathlib.Tactic.NormNum.Pow
import Mathlib.Tactic.Positivity
import Mathlib.Tactic.Ring
import Scaffold.Number.Double

namespace Scaffold.Double

/-!
# Rounding to a double

The double nearest to a fraction depends on the value of the fraction alone:
its exponent is read off the logarithm of the value, and rounding a quotient
does not look at common factors. So a double is the nearest one to any
fraction of its own value, and a decimal is read the same way wherever its
point stands.
-/

variable {n d n' d' m : Nat} {e : Int} {negative : Bool}

/-! ## Scaled fractions -/

theorem den_scale_pos (hd : 0 < d) (n : Nat) (e : Int) : 0 < (scale n d e).2 := by
  unfold scale
  split
  · exact hd
  · exact Nat.mul_pos hd (Nat.pow_pos Nat.two_pos)

/-- The value of a scaled fraction. -/
theorem ratio_scale (n d : Nat) (e : Int) :
    ((scale n d e).1 : ℚ) / (scale n d e).2 = n / d * 2 ^ e := by
  unfold scale
  split
  · next he =>
      obtain ⟨k, rfl⟩ := Int.eq_ofNat_of_zero_le he
      simp
      ring
  · next he =>
      obtain ⟨k, hk⟩ := Int.eq_ofNat_of_zero_le (show 0 ≤ -e by omega)
      obtain rfl : e = -(k : Int) := by omega
      simp
      field_simp

/-! ## Rounded quotients -/

theorem roundDiv_mul_right {k : Nat} (hk : 0 < k) (n d : Nat) :
    roundDiv (n * k) (d * k) = roundDiv n d := by
  have hlow : 2 * (n % d * k) < d * k ↔ 2 * (n % d) < d := by
    rw [← Nat.mul_assoc]
    exact Nat.mul_lt_mul_right hk
  have hhigh : d * k < 2 * (n % d * k) ↔ d < 2 * (n % d) := by
    rw [← Nat.mul_assoc]
    exact Nat.mul_lt_mul_right hk
  simp only [roundDiv, Nat.mul_div_mul_right n d hk, Nat.mul_mod_mul_right, hlow, hhigh]

/-- A quotient is rounded by its value. -/
theorem roundDiv_congr (hd : 0 < d) (hd' : 0 < d') (h : (n : ℚ) / d = n' / d') :
    roundDiv n d = roundDiv n' d' := by
  have hcross : n * d' = n' * d := by
    rw [div_eq_div_iff (by positivity) (by positivity)] at h
    exact_mod_cast h
  rw [← roundDiv_mul_right hd' n d, hcross, Nat.mul_comm d d', roundDiv_mul_right hd]

theorem roundDiv_one (n : Nat) : roundDiv n 1 = n := by
  simp [roundDiv, Nat.mod_one]

theorem roundDiv_eq (hd : 0 < d) (h : (n : ℚ) / d = m) : roundDiv n d = m := by
  have hone : (n : ℚ) / d = m / (1 : Nat) := by simpa using h
  rw [roundDiv_congr hd Nat.one_pos hone, roundDiv_one]

theorem div_le_roundDiv (n d : Nat) : n / d ≤ roundDiv n d := by
  unfold roundDiv
  dsimp only
  split_ifs <;> omega

theorem roundDiv_le_div_add_one (n d : Nat) : roundDiv n d ≤ n / d + 1 := by
  unfold roundDiv
  dsimp only
  split_ifs <;> omega

theorem le_roundDiv (hd : 0 < d) (h : (m : ℚ) ≤ n / d) : m ≤ roundDiv n d := by
  have hle : m * d ≤ n := by
    rw [le_div_iff₀ (by positivity)] at h
    exact_mod_cast h
  exact ((Nat.le_div_iff_mul_le hd).mpr hle).trans (div_le_roundDiv n d)

theorem roundDiv_le (hd : 0 < d) (h : (n : ℚ) / d < m) : roundDiv n d ≤ m := by
  have hlt : n < m * d := by
    rw [div_lt_iff₀ (by positivity)] at h
    exact_mod_cast h
  exact (roundDiv_le_div_add_one n d).trans ((Nat.div_lt_iff_lt_mul hd).mpr hlt)

theorem roundDiv_eq_zero (hd : 0 < d) (h : (n : ℚ) / d < 1 / 2) : roundDiv n d = 0 := by
  have hlt : 2 * n < d := by
    rw [div_lt_div_iff₀ (by positivity) two_pos] at h
    have hcast : ((2 * n : Nat) : ℚ) < d := by
      push_cast
      linarith
    exact_mod_cast hcast
  have hmod : n % d = n := Nat.mod_eq_of_lt (by omega)
  simp only [roundDiv, hmod, if_pos hlt]
  exact Nat.div_eq_of_lt (by omega)

/-! ## Exponents -/

theorem log_eq {v : ℚ} {k : Int} (hlow : (2 : ℚ) ^ k ≤ v) (hhigh : v < 2 ^ (k + 1)) :
    Int.log 2 v = k := by
  have hpos : 0 < v := lt_of_lt_of_le (by positivity) hlow
  have hle : k ≤ Int.log 2 v := (Int.zpow_le_iff_le_log Nat.one_lt_two hpos).mp hlow
  have hlt : Int.log 2 v < k + 1 := (Int.lt_zpow_iff_log_lt Nat.one_lt_two hpos).mp hhigh
  omega

/-- A positive fraction lies between the powers of two that the logarithms of its parts tell. -/
theorem ratio_bounds (hn : 0 < n) (hd : 0 < d) :
    (2 : ℚ) ^ ((n.log2 : Int) - d.log2 - 1) < n / d ∧
      (n : ℚ) / d < 2 ^ ((n.log2 : Int) - d.log2 + 1) := by
  have hnlow : (2 : ℚ) ^ n.log2 ≤ n := by exact_mod_cast Nat.log2_self_le hn.ne'
  have hnhigh : (n : ℚ) < 2 ^ (n.log2 + 1) := by exact_mod_cast Nat.lt_log2_self
  have hdlow : (2 : ℚ) ^ d.log2 ≤ d := by exact_mod_cast Nat.log2_self_le hd.ne'
  have hdhigh : (d : ℚ) < 2 ^ (d.log2 + 1) := by exact_mod_cast Nat.lt_log2_self
  have hdpos : (0 : ℚ) < d := by exact_mod_cast hd
  constructor
  · rw [lt_div_iff₀ hdpos]
    calc (2 : ℚ) ^ ((n.log2 : Int) - d.log2 - 1) * d
        < 2 ^ ((n.log2 : Int) - d.log2 - 1) * 2 ^ (d.log2 + 1) := by gcongr
      _ = 2 ^ n.log2 := by
          rw [← zpow_natCast, ← zpow_natCast, ← zpow_add₀ two_ne_zero]
          congr 1
          push_cast
          ring
      _ ≤ n := hnlow
  · rw [div_lt_iff₀ hdpos]
    calc (n : ℚ) < 2 ^ (n.log2 + 1) := hnhigh
      _ = 2 ^ ((n.log2 : Int) - d.log2 + 1) * 2 ^ d.log2 := by
          rw [← zpow_natCast, ← zpow_natCast, ← zpow_add₀ two_ne_zero]
          congr 1
          push_cast
          ring
      _ ≤ 2 ^ ((n.log2 : Int) - d.log2 + 1) * d := by gcongr

theorem mantissaBound_eq : (mantissaBound : ℚ) = 2 ^ (53 : Int) := by
  norm_num [mantissaBound]

/-- The exponent of a fraction, by its value. -/
theorem fittingExponent_eq (hn : 0 < n) (hd : 0 < d) :
    fittingExponent n d = max (Int.log 2 ((n : ℚ) / d) - 52) minExponent := by
  obtain ⟨hlow, hhigh⟩ := ratio_bounds hn hd
  unfold fittingExponent
  dsimp only
  generalize hguess : (n.log2 : Int) - d.log2 - 53 = guess
  have hscaled : ((scale n d (-guess)).1 / (scale n d (-guess)).2 < mantissaBound) ↔
      (n : ℚ) / d < 2 ^ (guess + 53) := by
    have hden := den_scale_pos hd n (-guess)
    have hratio := ratio_scale n d (-guess)
    rw [Nat.div_lt_iff_lt_mul hden, ← Nat.cast_lt (α := ℚ), Nat.cast_mul, mantissaBound_eq,
      ← div_lt_iff₀ (by exact_mod_cast hden), hratio, zpow_neg, ← div_eq_mul_inv,
      div_lt_iff₀ (by positivity), ← zpow_add₀ two_ne_zero, Int.add_comm]
  congr 1
  split
  · next hless =>
      have hlog : Int.log 2 ((n : ℚ) / d) = guess + 52 := by
        refine log_eq ?_ ?_
        · refine le_of_eq_of_le ?_ hlow.le
          congr 1
          omega
        · refine (hscaled.mp hless).trans_eq ?_
          congr 1
          omega
      omega
  · next hmore =>
      have hlog : Int.log 2 ((n : ℚ) / d) = guess + 53 := by
        refine log_eq (not_lt.mp fun hless => hmore (hscaled.mpr hless)) ?_
        refine hhigh.trans_eq ?_
        congr 1
        omega
      omega

/-! ## The nearest double -/

/-- A number as binary64 has it: the mantissa is below its bound and of full width, unless the
exponent is the least one. -/
def IsBinary64 : Double → Prop
  | .finite _ m e =>
    m < mantissaBound ∧ minExponent ≤ e ∧ e ≤ maxExponent ∧ (e = minExponent ∨ 2 ^ 52 ≤ m)
  | _ => True

/-- The nearest double depends on the value of the fraction. -/
theorem ofFraction_congr (hd : 0 < d) (hd' : 0 < d') (h : (n : ℚ) / d = n' / d')
    (negative : Bool) : ofFraction negative n d = ofFraction negative n' d' := by
  have hne : (d : ℚ) ≠ 0 ∧ (d' : ℚ) ≠ 0 := ⟨by positivity, by positivity⟩
  have hzero : n = 0 ↔ n' = 0 := by
    rw [← Nat.cast_eq_zero (R := ℚ), ← Nat.cast_eq_zero (R := ℚ) (n := n')]
    constructor
    · intro hn
      simpa [hn, hne.2] using h.symm
    · intro hn
      simpa [hn, hne.1] using h
  by_cases hn : n = 0
  · rw [hn, hzero.mp hn]
    rfl
  · have hexponent : fittingExponent n d = fittingExponent n' d' := by
      rw [fittingExponent_eq (Nat.pos_of_ne_zero hn) hd,
        fittingExponent_eq (Nat.pos_of_ne_zero (mt hzero.mpr hn)) hd', h]
    have hrounded (e : Int) : roundDiv (scale n d e).1 (scale n d e).2
        = roundDiv (scale n' d' e).1 (scale n' d' e).2 := by
      refine roundDiv_congr (den_scale_pos hd n e) (den_scale_pos hd' n' e) ?_
      rw [ratio_scale, ratio_scale, h]
    simp only [ofFraction, beq_iff_eq, hzero, hexponent, hrounded]

/-- The mantissa before a carry, and the double. -/
theorem ofFraction_of_exponent (hn : 0 < n) (negative : Bool)
    (he : fittingExponent n d = e) (hm : roundDiv (scale n d (-e)).1 (scale n d (-e)).2 = m) :
    ofFraction negative n d =
      let (m, e) := if m == mantissaBound then (m / 2, e + 1) else (m, e)
      if maxExponent < e then .infinite negative else .finite negative m e := by
  subst he hm
  rw [ofFraction, if_neg (by simpa using hn.ne')]

/-- A double is the nearest one to a fraction of its own value. -/
theorem ofFraction_eq_finite (hm : 0 < m) (h : IsBinary64 (.finite negative m e)) (hd : 0 < d)
    (hvalue : (n : ℚ) / d = m * 2 ^ e) : ofFraction negative n d = .finite negative m e := by
  obtain ⟨hbound, hmin, hmax, hwidth⟩ := h
  have hn : 0 < n := by
    have hpos : (0 : ℚ) < n / d := hvalue ▸ by positivity
    exact_mod_cast (div_pos_iff_of_pos_right (by exact_mod_cast hd)).mp hpos
  have hexponent : fittingExponent n d = e := by
    rw [fittingExponent_eq hn hd, hvalue]
    have hupper : (m : ℚ) * 2 ^ e < 2 ^ (53 + e) := by
      rw [zpow_add₀ two_ne_zero, ← mantissaBound_eq]
      gcongr
    have hlog : Int.log 2 ((m : ℚ) * 2 ^ e) < 53 + e :=
      (Int.lt_zpow_iff_log_lt Nat.one_lt_two (by positivity)).mp hupper
    rcases hwidth with rfl | hwide
    · rw [max_eq_right]
      omega
    · have hlower : (2 : ℚ) ^ (52 + e) ≤ m * 2 ^ e := by
        rw [zpow_add₀ two_ne_zero]
        gcongr
        exact_mod_cast hwide
      have hlog' : 52 + e ≤ Int.log 2 ((m : ℚ) * 2 ^ e) :=
        (Int.zpow_le_iff_le_log Nat.one_lt_two (by positivity)).mp hlower
      omega
  have hmantissa : roundDiv (scale n d (-e)).1 (scale n d (-e)).2 = m := by
    refine roundDiv_eq (den_scale_pos hd n (-e)) ?_
    rw [ratio_scale, hvalue, mul_assoc, ← zpow_add₀ two_ne_zero, add_neg_cancel, zpow_zero, mul_one]
  rw [ofFraction_of_exponent hn negative hexponent hmantissa]
  simp [hbound.ne, not_lt.mpr hmax]

theorem ofFraction_of_large (hd : 0 < d) (h : (2 : ℚ) ^ (1024 : Int) ≤ n / d) (negative : Bool) :
    ofFraction negative n d = .infinite negative := by
  have hpos : (0 : ℚ) < n / d := lt_of_lt_of_le (by positivity) h
  have hn : 0 < n := by
    exact_mod_cast (div_pos_iff_of_pos_right (by exact_mod_cast hd)).mp hpos
  have hlog : 1024 ≤ Int.log 2 ((n : ℚ) / d) :=
    (Int.zpow_le_iff_le_log Nat.one_lt_two hpos).mp h
  have hexponent : maxExponent < fittingExponent n d := by
    rw [fittingExponent_eq hn hd, maxExponent]
    omega
  rw [ofFraction_of_exponent hn negative rfl rfl]
  split
  next m e heq =>
    refine if_pos ?_
    split at heq
    all_goals
      cases heq
      omega

theorem ofFraction_of_small (hn : 0 < n) (hd : 0 < d) (h : (n : ℚ) / d < 2 ^ (-1075 : Int))
    (negative : Bool) : ofFraction negative n d = .finite negative 0 minExponent := by
  have hlog : Int.log 2 ((n : ℚ) / d) < -1075 :=
    (Int.lt_zpow_iff_log_lt Nat.one_lt_two (by positivity)).mp h
  have hexponent : fittingExponent n d = minExponent := by
    rw [fittingExponent_eq hn hd, max_eq_right]
    rw [minExponent]
    omega
  have hmantissa : roundDiv (scale n d (-minExponent)).1 (scale n d (-minExponent)).2 = 0 := by
    refine roundDiv_eq_zero (den_scale_pos hd n _) ?_
    rw [ratio_scale]
    calc (n : ℚ) / d * 2 ^ (-minExponent)
        < 2 ^ (-1075 : Int) * 2 ^ (-minExponent) := by gcongr
      _ = 1 / 2 := by
          rw [← zpow_add₀ two_ne_zero]
          norm_num [minExponent]
  rw [ofFraction_of_exponent hn negative hexponent hmantissa]
  rfl

/-- Scaled by its exponent, a fraction is below the bound of mantissas, and of full width unless
its exponent is the least one. -/
theorem scaled_bounds (hn : 0 < n) (hd : 0 < d) (he : fittingExponent n d = e) :
    (n : ℚ) / d * 2 ^ (-e) < mantissaBound ∧
      (e = minExponent ∨ 2 ^ 52 ≤ (n : ℚ) / d * 2 ^ (-e)) := by
  have hlog := (fittingExponent_eq hn hd).symm.trans he
  have hpos : (0 : ℚ) < n / d := by positivity
  constructor
  · have hupper : (n : ℚ) / d < 2 ^ (53 + e) :=
      (Int.lt_zpow_iff_log_lt Nat.one_lt_two hpos).mpr (by omega)
    rw [zpow_add₀ two_ne_zero, ← mantissaBound_eq] at hupper
    rwa [zpow_neg, ← div_eq_mul_inv, div_lt_iff₀ (by positivity)]
  · refine or_iff_not_imp_left.mpr fun hne => ?_
    have hlower : (2 : ℚ) ^ (52 + e) ≤ n / d :=
      (Int.zpow_le_iff_le_log Nat.one_lt_two hpos).mpr (by omega)
    rw [zpow_add₀ two_ne_zero] at hlower
    rw [zpow_neg, ← div_eq_mul_inv, le_div_iff₀ (by positivity)]
    exact_mod_cast hlower

theorem isBinary64_ofFraction (negative : Bool) (n : Nat) (hd : 0 < d) :
    (ofFraction negative n d).IsBinary64 := by
  rcases Nat.eq_zero_or_pos n with rfl | hn
  · exact ⟨by decide, by decide, by decide, .inl rfl⟩
  generalize he : fittingExponent n d = e
  generalize hm : roundDiv (scale n d (-e)).1 (scale n d (-e)).2 = m
  have hmin : minExponent ≤ e := he ▸ le_max_right _ _
  have hden := den_scale_pos hd n (-e)
  obtain ⟨hupper, hlower⟩ := scaled_bounds hn hd he
  rw [← ratio_scale] at hupper hlower
  have hbound : m ≤ mantissaBound := hm ▸ roundDiv_le hden hupper
  have hwidth : e = minExponent ∨ 2 ^ 52 ≤ m :=
    hlower.imp_right fun h => hm ▸ le_roundDiv hden (by exact_mod_cast h)
  rw [ofFraction_of_exponent hn negative he hm]
  have hhalf : mantissaBound / 2 = 2 ^ 52 := by decide
  by_cases hcarry : m = mantissaBound
  · simp only [beq_iff_eq, if_pos hcarry]
    split
    · trivial
    · next hmax => exact ⟨by rw [hcarry]; decide, by omega, not_lt.mp hmax, .inr (by omega)⟩
  · simp only [beq_iff_eq, if_neg hcarry]
    split
    · trivial
    · next hmax => exact ⟨by omega, hmin, not_lt.mp hmax, hwidth⟩

/-! ## Decimals -/

theorem isBinary64_ofDecimal (negative : Bool) (digits : Nat) (exponent : Int) :
    (ofDecimal negative digits exponent).IsBinary64 := by
  have hzero : (finite negative 0 minExponent).IsBinary64 :=
    ⟨by decide, by decide, by decide, .inl rfl⟩
  unfold ofDecimal
  split_ifs
  · exact hzero
  · trivial
  · exact hzero
  · exact isBinary64_ofFraction _ _ Nat.one_pos
  · exact isBinary64_ofFraction _ _ (Nat.pow_pos (by decide))

theorem two_pow_lt_ten_pow : (2 : ℚ) ^ 1075 < 10 ^ 401 :=
  calc (2 : ℚ) ^ 1075 < 2 ^ (3 * 401) := pow_lt_pow_right₀ one_lt_two (by norm_num)
    _ = (2 ^ 3) ^ 401 := pow_mul 2 3 401
    _ ≤ 10 ^ 401 := by
        gcongr
        norm_num

/-- The double nearest to a decimal is the one nearest to any fraction of its value. -/
theorem ofDecimal_eq_ofFraction {digits : Nat} {exponent : Int} (hdigits : 0 < digits) (hd : 0 < d)
    (hvalue : (n : ℚ) / d = digits * 10 ^ exponent) (negative : Bool) :
    ofDecimal negative digits exponent = ofFraction negative n d := by
  have hone : (1 : ℚ) ≤ digits := by exact_mod_cast hdigits
  have hn : 0 < n := by
    have hpos : (0 : ℚ) < n / d := hvalue ▸ by positivity
    exact_mod_cast (div_pos_iff_of_pos_right (by exact_mod_cast hd)).mp hpos
  rw [ofDecimal, if_neg (by simpa using hdigits.ne')]
  split_ifs with hlarge hsmall hwhole
  · refine (ofFraction_of_large hd ?_ negative).symm
    rw [hvalue]
    calc (2 : ℚ) ^ (1024 : Int) ≤ 2 ^ (1075 : Int) := by
          gcongr
          · norm_num
          · norm_num
      _ ≤ 1 * 10 ^ (401 : Int) := by
          rw [one_mul]
          exact_mod_cast two_pow_lt_ten_pow.le
      _ ≤ digits * 10 ^ exponent := by
          gcongr
          · norm_num
          · omega
  · refine (ofFraction_of_small hn hd ?_ negative).symm
    rw [hvalue]
    have hlog : (digits : ℚ) < 2 ^ (digits.log2 + 1) := by exact_mod_cast Nat.lt_log2_self
    calc (digits : ℚ) * 10 ^ exponent
        ≤ 2 ^ (digits.log2 + 1) * 10 ^ (-(402 + digits.log2 : Int)) := by
          gcongr
          · norm_num
          · omega
      _ ≤ 10 ^ (digits.log2 + 1) * 10 ^ (-(402 + digits.log2 : Int)) := by
          gcongr
          norm_num
      _ = 10 ^ (-401 : Int) := by
          rw [← zpow_natCast, ← zpow_add₀ (by norm_num)]
          congr 1
          push_cast
          ring
      _ < 2 ^ (-1075 : Int) := by
          rw [zpow_neg, zpow_neg]
          gcongr
          exact_mod_cast two_pow_lt_ten_pow
  · obtain ⟨k, rfl⟩ := Int.eq_ofNat_of_zero_le hwhole
    refine ofFraction_congr Nat.one_pos hd ?_ negative
    rw [hvalue]
    simp
  · obtain ⟨k, hk⟩ := Int.eq_ofNat_of_zero_le (show 0 ≤ -exponent by omega)
    obtain rfl : exponent = -(k : Int) := by omega
    refine ofFraction_congr (Nat.pow_pos (by decide)) hd ?_ negative
    rw [hvalue]
    simp [div_eq_mul_inv]

theorem exists_fraction (digits : Nat) (exponent : Int) :
    ∃ n d : Nat, 0 < d ∧ (n : ℚ) / d = digits * 10 ^ exponent := by
  rcases le_total 0 exponent with he | he
  · obtain ⟨k, rfl⟩ := Int.eq_ofNat_of_zero_le he
    exact ⟨digits * 10 ^ k, 1, Nat.one_pos, by simp⟩
  · obtain ⟨k, hk⟩ := Int.eq_ofNat_of_zero_le (show 0 ≤ -exponent by omega)
    obtain rfl : exponent = -(k : Int) := by omega
    exact ⟨digits, 10 ^ k, Nat.pow_pos (by decide), by simp [div_eq_mul_inv]⟩

/-- A zero behind the digits can be counted in the exponent. -/
theorem ofDecimal_mul_pow (negative : Bool) {digits : Nat} (hdigits : 0 < digits) (k : Nat)
    (exponent : Int) :
    ofDecimal negative (digits * 10 ^ k) exponent = ofDecimal negative digits (exponent + k) := by
  obtain ⟨n, d, hd, hvalue⟩ := exists_fraction digits (exponent + k)
  rw [ofDecimal_eq_ofFraction hdigits hd hvalue]
  refine ofDecimal_eq_ofFraction (by positivity) hd ?_ negative
  rw [hvalue, zpow_add₀ (by norm_num), zpow_natCast]
  push_cast
  ring

end Scaffold.Double
