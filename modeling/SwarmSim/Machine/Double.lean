import Mathlib.Data.Int.Log
import Mathlib.Tactic

/-! The numbers of a `double`: 53 binary digits, and every result the nearest of them. Numbers too
small or too large for the exponent are left out. -/

namespace SwarmSim.Machine

/-- The nearest integer, and of two the even one. -/
def roundEven (q : ℚ) : ℤ :=
  if q - ⌊q⌋ < 1 / 2 then ⌊q⌋
  else if 1 / 2 < q - ⌊q⌋ then ⌊q⌋ + 1
  else if ⌊q⌋ % 2 = 0 then ⌊q⌋
  else ⌊q⌋ + 1

def lastPlace (q : ℚ) : ℤ := Int.log 2 |q| - 52

def double (q : ℚ) : ℚ := roundEven (q / 2 ^ lastPlace q) * 2 ^ lastPlace q

section

variable {q : ℚ} {e m : ℤ}

lemma abs_roundEven_sub_le (q : ℚ) : |(roundEven q : ℚ) - q| ≤ 1 / 2 := by
  have hlo := Int.floor_le q
  have hhi := Int.lt_floor_add_one q
  rw [roundEven, abs_le]
  split_ifs
  · constructor <;> linarith
  · push_cast
    constructor <;> linarith
  · constructor <;> linarith
  · push_cast
    constructor <;> linarith

lemma roundEven_eq (h : |q - m| < 1 / 2) : roundEven q = m := by
  have hround := abs_roundEven_sub_le q
  have hlt : |((roundEven q - m : ℤ) : ℚ)| < 1 := by
    push_cast
    calc |(roundEven q : ℚ) - m| = |((roundEven q : ℚ) - q) + (q - m)| := by ring_nf
      _ ≤ |(roundEven q : ℚ) - q| + |q - m| := abs_add_le _ _
      _ < 1 := by linarith
  rw [← Int.cast_abs] at hlt
  have hzero : |roundEven q - m| < 1 := by exact_mod_cast hlt
  exact sub_eq_zero.mp (Int.abs_lt_one_iff.mp hzero)

lemma abs_double_sub_le (q : ℚ) : |double q - q| ≤ |q| / 2 ^ 53 := by
  have hu : (0 : ℚ) < 2 ^ lastPlace q := by positivity
  by_cases hq : q = 0
  · subst hq
    norm_num [double, roundEven]
  have hplace : (2 : ℚ) ^ lastPlace q * 2 ^ 52 ≤ |q| := by
    have hlog := @Int.zpow_log_le_self ℚ _ _ _ _ 2 |q| (by norm_num) (abs_pos.mpr hq)
    rw [lastPlace, zpow_sub₀ two_ne_zero]
    norm_num at hlog ⊢
    exact hlog
  calc |double q - q|
      = |(roundEven (q / 2 ^ lastPlace q) - q / 2 ^ lastPlace q : ℚ)| * 2 ^ lastPlace q := by
        rw [← abs_of_pos hu, ← abs_mul, abs_of_pos hu, sub_mul, div_mul_cancel₀ _ hu.ne', double]
    _ ≤ 1 / 2 * 2 ^ lastPlace q := mul_le_mul_of_nonneg_right (abs_roundEven_sub_le _) hu.le
    _ ≤ |q| / 2 ^ 53 := by linarith

lemma double_eq_zero : double q = 0 ↔ q = 0 := by
  have h := abs_double_sub_le q
  constructor
  · intro hd
    rw [hd, zero_sub, abs_neg] at h
    by_contra hq
    have hpos : 0 < |q| := abs_pos.mpr hq
    linarith
  · rintro rfl
    simpa using h

lemma double_ne {q' : ℚ} (hq : 0 ≤ q) (h : q < q') (hfar : q + q' < 2 ^ 53 * (q' - q)) :
    double q ≠ double q' := by
  intro he
  have hlo := abs_le.mp (abs_double_sub_le q)
  have hhi := abs_le.mp (abs_double_sub_le q')
  rw [abs_of_nonneg hq] at hlo
  rw [abs_of_nonneg (hq.trans h.le), ← he] at hhi
  linarith [hlo.2, hhi.1]

lemma double_eq (hlo : 2 ^ (e + 52) ≤ q) (hhi : q < 2 ^ (e + 53)) (hm : |q / 2 ^ e - m| < 1 / 2) :
    double q = m * 2 ^ e := by
  have hq : 0 < q := lt_of_lt_of_le (by positivity) hlo
  have hlog : Int.log 2 |q| = e + 52 := by
    rw [abs_of_pos hq]
    apply le_antisymm
    · have h := (@Int.lt_zpow_iff_log_lt ℚ _ _ _ _ 2 (by norm_num) (e + 53) q hq).mp hhi
      omega
    · exact (@Int.zpow_le_iff_le_log ℚ _ _ _ _ 2 (by norm_num) (e + 52) q hq).mp hlo
  have hplace : lastPlace q = e := by rw [lastPlace, hlog, add_sub_cancel_right]
  rw [double, hplace, roundEven_eq hm]

lemma double_natCast {n : ℕ} (h : n < 2 ^ 53) : double n = n := by
  by_cases hn : n = 0
  · subst hn
    exact double_eq_zero.mpr Nat.cast_zero
  have hlog : Nat.log 2 n ≤ 52 := Nat.lt_succ_iff.mp (Nat.log_lt_of_lt_pow hn h)
  have hlo : 2 ^ Nat.log 2 n ≤ n := Nat.pow_log_le_self 2 hn
  have hhi : n < 2 ^ (Nat.log 2 n + 1) := Nat.lt_pow_succ_log_self (by norm_num) n
  have hplace : (2 : ℚ) ^ ((Nat.log 2 n : ℤ) - 52) * 2 ^ (52 - Nat.log 2 n) = 1 := by
    rw [← zpow_natCast, ← zpow_add₀ two_ne_zero, Nat.cast_sub hlog]
    simp
  have hdigits : (n : ℚ) / 2 ^ ((Nat.log 2 n : ℤ) - 52) = n * 2 ^ (52 - Nat.log 2 n) := by
    rw [div_eq_iff (by positivity), mul_assoc, mul_comm (2 ^ (52 - Nat.log 2 n) : ℚ), hplace, mul_one]
  rw [@double_eq n ((Nat.log 2 n : ℤ) - 52) (n * 2 ^ (52 - Nat.log 2 n) : ℕ)]
  · push_cast
    rw [mul_assoc, mul_comm (2 ^ (52 - Nat.log 2 n) : ℚ), hplace, mul_one]
  · rw [sub_add_cancel, zpow_natCast]
    exact_mod_cast hlo
  · rw [show (Nat.log 2 n : ℤ) - 52 + 53 = (Nat.log 2 n + 1 : ℕ) by push_cast; ring, zpow_natCast]
    exact_mod_cast hhi
  · rw [hdigits]
    push_cast
    norm_num

end

end SwarmSim.Machine
