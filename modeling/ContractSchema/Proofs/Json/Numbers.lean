import ContractSchema.Json.Number
import Mathlib.Algebra.Order.Field.Rat
import Mathlib.Tactic.Ring

/-!
# The values of JSON numbers

A JSON number is an integer or a double, and either stands for a rational number
(`ContractSchema.Json.Number.value`). Two questions are asked of numbers by schemas, which of
two is less and whether one has a fraction. They are answered by arithmetic on integers, and
the answers are those for the values (`ContractSchema.Json.Number.less_iff`,
`ContractSchema.Json.Number.isIntegral_iff`), so that the form of a number does not matter.
-/

namespace ContractSchema

/-- **The value of a double.** -/
def Double.value (x : Double) : ℚ :=
  (if x.negative then -1 else 1) * x.significand * (2 : ℚ) ^ x.exponent

namespace Json.Number

/-- **The value of a number.** -/
def value : Number → ℚ
  | .natural n => n.toNat
  | .negative n => -(n.val + 1)
  | .double x => x.value

/-! ### Fractions -/

theorem ratio_pos (n : Number) : 0 < n.ratio.2 := by
  cases n with
  | natural n => exact Nat.one_pos
  | negative n => exact Nat.one_pos
  | double x => exact Nat.pow_pos (by decide)

/-- The power of two of a double, as a fraction of two others. -/
theorem two_zpow_eq_div (exponent : ℤ) :
    (2 : ℚ) ^ exponent = (2 : ℚ) ^ exponent.toNat / (2 : ℚ) ^ (-exponent).toNat := by
  have hsplit : exponent = exponent.toNat - (-exponent).toNat := by omega
  calc (2 : ℚ) ^ exponent = (2 : ℚ) ^ ((exponent.toNat : ℤ) - (-exponent).toNat) := by rw [← hsplit]
    _ = (2 : ℚ) ^ exponent.toNat / (2 : ℚ) ^ (-exponent).toNat := by
      rw [zpow_sub₀ two_ne_zero, zpow_natCast, zpow_natCast]

/-- **The fraction of a number has its value.** -/
theorem value_eq_div (n : Number) : n.value = n.ratio.1 / n.ratio.2 := by
  cases n with
  | natural n => simp [value, ratio]
  | negative n => simp [value, ratio]
  | double x =>
    have hpow : ∀ k : ℕ, ((Nat.pow 2 k : ℕ) : ℚ) = (2 : ℚ) ^ k := fun k => by
      rw [Nat.pow_eq, Nat.cast_pow, Nat.cast_ofNat]
    simp only [value, Double.value, ratio, Double.ratio, two_zpow_eq_div, hpow]
    split
    all_goals
      push_cast
      rw [hpow]
      ring

/-- Numbers are compared by their values. -/
theorem less_iff {m n : Number} : m.less n = true ↔ m.value < n.value := by
  have hm : (0 : ℚ) < m.ratio.2 := Nat.cast_pos.mpr m.ratio_pos
  have hn : (0 : ℚ) < n.ratio.2 := Nat.cast_pos.mpr n.ratio_pos
  rw [less, decide_eq_true_iff, value_eq_div, value_eq_div, div_lt_div_iff₀ hm hn]
  exact_mod_cast Iff.rfl

theorem isIntegral_iff {n : Number} : n.isIntegral = true ↔ ∃ z : ℤ, n.value = z := by
  have hn : (n.ratio.2 : ℚ) ≠ 0 := Nat.cast_ne_zero.mpr (Nat.ne_of_gt n.ratio_pos)
  have hvalue : (∃ z : ℤ, n.value = z) ↔ (n.ratio.2 : ℤ) ∣ n.ratio.1 := by
    refine exists_congr fun z => ?_
    rw [value_eq_div, div_eq_iff hn, mul_comm]
    exact_mod_cast Iff.rfl
  rw [hvalue]
  cases n with
  | natural n => simp [isIntegral, ratio]
  | negative n => simp [isIntegral, ratio]
  | double x =>
    have hdvd : (x.ratio.2 : ℤ) ∣ (if x.negative then -(x.ratio.1 : ℤ) else x.ratio.1) ↔
        x.ratio.2 ∣ x.ratio.1 := by
      split
      · rw [Int.dvd_neg, Int.natCast_dvd_natCast]
      · rw [Int.natCast_dvd_natCast]
    rw [isIntegral, Double.isIntegral, beq_iff_eq, ← Nat.dvd_iff_mod_eq_zero]
    exact hdvd.symm

/-- Whether a number is a natural number with an upper bound. -/
theorem isIntegral_between_iff {n : Number} {maximum : ℕ} :
    (n.isIntegral = true ∧ 0 ≤ n.value ∧ n.value ≤ maximum) ↔
      ∃ k : ℕ, k ≤ maximum ∧ n.value = k := by
  rw [isIntegral_iff]
  constructor
  · rintro ⟨⟨z, hz⟩, hzero, hmaximum⟩
    rw [hz] at hzero hmaximum
    have hnonneg : 0 ≤ z := by exact_mod_cast hzero
    obtain ⟨k, rfl⟩ := Int.eq_ofNat_of_zero_le hnonneg
    refine ⟨k, ?_, hz⟩
    exact_mod_cast hmaximum
  · rintro ⟨k, hk, hvalue⟩
    rw [hvalue]
    exact ⟨⟨k, (Int.cast_natCast k).symm⟩, Nat.cast_nonneg k, Nat.cast_le.mpr hk⟩

end Json.Number

end ContractSchema
