import Mathlib.Algebra.Order.Field.Rat
import Mathlib.Algebra.Order.Ring.Rat
import Mathlib.Order.Monotone.Basic
import Mathlib.Tactic.Positivity
import Mathlib.Tactic.Ring
import CompositeApps.Number.Binary64

/-!
The numbers that format values stand for. Comparing the bits of two finite values compares these
numbers, so a bound that is checked on the bits is a bound on the number.
-/

namespace CompositeApps.Binary64

def value (x : Binary64) : ℚ :=
  if x.isNegative then -(x.significand * 2 ^ x.exponent) else x.significand * 2 ^ x.exponent

def units (magnitude : Nat) : Nat :=
  if magnitude < 0x10000000000000 then magnitude
  else (magnitude % 0x10000000000000 + 0x10000000000000) * 2 ^ (magnitude / 0x10000000000000 - 1)

theorem units_lt_succ (m : Nat) : units m < units (m + 1) := by
  unfold units
  by_cases hsmall : m + 1 < 0x10000000000000
  · rw [if_pos (by omega), if_pos hsmall]
    omega
  · rw [if_neg hsmall]
    by_cases hlast : m < 0x10000000000000
    · -- the step from the largest number without a leading one
      have hnext : m + 1 = 0x10000000000000 := by omega
      rw [if_pos hlast, hnext]
      norm_num
      omega
    · rw [if_neg hlast]
      obtain ⟨e, he⟩ : ∃ e, m / 0x10000000000000 = e + 1 := ⟨m / 0x10000000000000 - 1, by omega⟩
      have hpos : 0 < 2 ^ e := Nat.two_pow_pos e
      by_cases hcarry : m % 0x10000000000000 = 0xFFFFFFFFFFFFF
      · -- all digits are ones, so the exponent goes up
        have hdiv : (m + 1) / 0x10000000000000 = e + 2 := by omega
        have hmod : (m + 1) % 0x10000000000000 = 0 := by omega
        have hexponent : e + 2 - 1 = e + 1 := by omega
        rw [he, hdiv, hmod, hcarry, Nat.add_sub_cancel, hexponent, Nat.pow_succ]
        omega
      · have hdiv : (m + 1) / 0x10000000000000 = e + 1 := by omega
        have hmod : (m + 1) % 0x10000000000000 = m % 0x10000000000000 + 1 := by omega
        rw [he, hdiv, hmod]
        exact Nat.mul_lt_mul_of_pos_right (by omega) hpos

theorem units_strictMono : StrictMono units :=
  strictMono_nat_of_lt_succ units_lt_succ

def leastPositive : ℚ :=
  2 ^ (-1074 : ℤ)

theorem leastPositive_pos : 0 < leastPositive :=
  zpow_pos (by norm_num) _

theorem significand_mul_eq (x : Binary64) :
    (x.significand : ℚ) * 2 ^ x.exponent = units x.magnitude * leastPositive := by
  by_cases hsmall : x.magnitude < 0x10000000000000
  · rw [significand, exponent, units, if_pos hsmall, if_pos hsmall, if_pos hsmall, leastPositive]
  · have hexponent : x.exponent = ((x.magnitude / 0x10000000000000 - 1 : Nat) : ℤ) + (-1074) := by
      rw [exponent, if_neg hsmall]
      omega
    have hunit : (2 : ℚ) ^ (-1074 : ℤ) = leastPositive := rfl
    rw [hexponent, zpow_add₀ (by norm_num), zpow_natCast, hunit, significand, units, if_neg hsmall,
      if_neg hsmall]
    push_cast
    ring

def signedUnits (x : Binary64) : ℤ :=
  if x.isNegative then -units x.magnitude else units x.magnitude

theorem value_eq (x : Binary64) : x.value = x.signedUnits * leastPositive := by
  unfold value signedUnits
  rw [significand_mul_eq]
  cases x.isNegative <;> simp

theorem orderKey_le_iff_signedUnits (x y : Binary64) :
    x.orderKey ≤ y.orderKey ↔ x.signedUnits ≤ y.signedUnits := by
  have hle := units_strictMono.le_iff_le (a := x.magnitude) (b := y.magnitude)
  have hge := units_strictMono.le_iff_le (a := y.magnitude) (b := x.magnitude)
  have hx := units_strictMono.le_iff_le (a := x.magnitude) (b := 0)
  have hy := units_strictMono.le_iff_le (a := y.magnitude) (b := 0)
  have hzero : units 0 = 0 := by decide
  unfold orderKey signedUnits
  cases x.isNegative <;> cases y.isNegative <;>
    simp only [if_true, if_false, Bool.false_eq_true] <;> omega

/-- The bits are ordered as the numbers are. -/
theorem orderKey_le_iff (x y : Binary64) : x.orderKey ≤ y.orderKey ↔ x.value ≤ y.value := by
  rw [value_eq, value_eq, mul_le_mul_iff_left₀ leastPositive_pos, Int.cast_le,
    orderKey_le_iff_signedUnits]

theorem isNaN_of_isFinite {x : Binary64} (h : x.isFinite = true) : x.isNaN = false := by
  simp only [isFinite, isNaN, decide_eq_true_eq, decide_eq_false_iff_not] at h ⊢
  omega

/-- Finite values compare as their numbers do. -/
theorem le_iff_value_le {x y : Binary64} (hx : x.isFinite = true) (hy : y.isFinite = true) :
    x.le y = true ↔ x.value ≤ y.value := by
  simp [le, isNaN_of_isFinite hx, isNaN_of_isFinite hy, orderKey_le_iff]

theorem natAbs_orderKey (x : Binary64) : x.orderKey.natAbs = x.magnitude := by
  unfold orderKey
  split <;> omega

/-- What lies between finite values is finite: neither a NaN nor an infinity. -/
theorem isFinite_of_le_of_le {x low high : Binary64} (hlow : low.isFinite = true)
    (hhigh : high.isFinite = true) (habove : low.le x = true) (hbelow : x.le high = true) :
    x.isFinite = true := by
  simp only [le, Bool.and_eq_true, Bool.not_eq_true', decide_eq_true_eq] at habove hbelow
  obtain ⟨-, habove⟩ := habove
  obtain ⟨-, hbelow⟩ := hbelow
  have hx := natAbs_orderKey x
  have hl := natAbs_orderKey low
  have hh := natAbs_orderKey high
  simp only [isFinite, decide_eq_true_eq] at *
  omega

theorem value_zero : zero.value = 0 := by
  have hsignificand : zero.significand = 0 := by decide +kernel
  simp [value, hsignificand]

theorem value_hundred : (ofNat 100).value = 100 := by
  have hsign : (ofNat 100).isNegative = false := by decide +kernel
  have hsignificand : (ofNat 100).significand = 100 * 2 ^ 46 := by decide +kernel
  have hexponent : (ofNat 100).exponent = -46 := by decide +kernel
  rw [value, hsign, hsignificand, hexponent]
  norm_num

end CompositeApps.Binary64
