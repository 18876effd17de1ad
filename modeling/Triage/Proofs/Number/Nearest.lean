/-
This file says what it means to round to a double. A value that is not negative is measured in units
that are as small as a mantissa of 53 bits allows, but no smaller than the smallest double, and the
nearest whole number of units is taken; from `2 ^ 1024` on it is infinite.

Rounding leaves doubles as they are and keeps the order of values. So whatever bounds a value bounds
what it is rounded to, as long as the bound is a double itself, and this is all that is needed to
follow a value through many operations.
-/

import Mathlib.Algebra.Order.Monoid.Unbundled.WithTop
import Mathlib.Data.Int.Log
import Mathlib.Data.Rat.Floor
import Mathlib.Tactic.Linarith
import Mathlib.Tactic.NormNum
import Mathlib.Tactic.Ring

namespace Triage.Number

/-! ### Powers of two -/

theorem two_zpow_pos (exponent : Int) : (0 : ℚ) < 2 ^ exponent :=
  zpow_pos two_pos exponent

theorem two_pow_mul_zpow (places : Nat) (exponent : Int) :
    (2 ^ places * 2 ^ exponent : ℚ) = 2 ^ (places + exponent) := by
  rw [zpow_add₀ two_ne_zero, zpow_natCast]

/-! ### The nearest whole number -/

/-- The whole number nearest to a value, and of two the even one. -/
def nearest (value : ℚ) : Int :=
  if Int.fract value < 1 / 2 then ⌊value⌋
  else if 1 / 2 < Int.fract value then ⌊value⌋ + 1
  else ⌊value⌋ + ⌊value⌋ % 2

@[simp]
theorem nearest_intCast (whole : Int) : nearest whole = whole := by
  simp [nearest]

theorem nearest_bounds (value : ℚ) : ⌊value⌋ ≤ nearest value ∧ nearest value ≤ ⌊value⌋ + 1 := by
  unfold nearest
  split_ifs <;> omega

theorem nearest_mono {low high : ℚ} (ordered : low ≤ high) : nearest low ≤ nearest high := by
  obtain less | same := (Int.floor_mono ordered).lt_or_eq
  · have := (nearest_bounds low).2
    have := (nearest_bounds high).1
    omega
  · -- Above the same whole number the order is that of the fractions.
    have fractions : Int.fract low ≤ Int.fract high := by
      unfold Int.fract
      rw [same]
      linarith
    unfold nearest
    rw [same]
    split_ifs <;> first | omega | linarith

theorem le_nearest {whole : Int} {value : ℚ} (below : whole ≤ value) : whole ≤ nearest value := by
  simpa using nearest_mono below

theorem nearest_le {whole : Int} {value : ℚ} (above : value ≤ whole) : nearest value ≤ whole := by
  simpa using nearest_mono above

theorem nearest_half : nearest (1 / 2) = 0 := by
  decide +kernel

/-- What is at most a half is nearest to zero. -/
theorem nearest_pos_iff {value : ℚ} : 0 < nearest value ↔ 1 / 2 < value := by
  constructor
  · intro positive
    by_contra atMost
    have none := nearest_mono (not_lt.mp atMost)
    rw [nearest_half] at none
    exact none.not_gt positive
  · intro above
    obtain small | large := lt_or_ge value 1
    · have floor : ⌊value⌋ = 0 := Int.floor_eq_zero_iff.mpr ⟨by linarith, small⟩
      unfold nearest
      rw [Int.fract, floor, Int.cast_zero, sub_zero, if_neg above.not_gt, if_pos above]
      decide
    · exact Int.lt_of_lt_of_le Int.zero_lt_one (le_nearest (by exact_mod_cast large))

/-! ### Doubles -/

/-- A value is that of a finite double that is not negative. -/
def IsDouble (value : ℚ) : Prop :=
  ∃ (mantissa : Nat) (exponent : Int), mantissa < 2 ^ 53 ∧ -1074 ≤ exponent ∧ exponent ≤ 971 ∧
    value = mantissa * 2 ^ exponent

theorem isDouble_natCast {count : Nat} (small : count < 2 ^ 53) : IsDouble count :=
  ⟨count, 0, small, by decide, by decide, by simp⟩

theorem isDouble_zero : IsDouble 0 :=
  ⟨0, 0, by decide, by decide, by decide, by simp⟩

theorem isDouble_zpow {exponent : Int} (least : -1074 ≤ exponent) (greatest : exponent ≤ 971) :
    IsDouble (2 ^ exponent) :=
  ⟨1, exponent, by decide, least, greatest, by simp⟩

theorem IsDouble.nonneg {value : ℚ} (isDouble : IsDouble value) : 0 ≤ value := by
  obtain ⟨mantissa, exponent, -, -, -, rfl⟩ := isDouble
  exact mul_nonneg mantissa.cast_nonneg (two_zpow_pos exponent).le

/-- A mantissa of 53 bits keeps a value below the next power of two. -/
theorem scaled_lt {mantissa : Nat} (narrow : mantissa < 2 ^ 53) (exponent : Int) :
    (mantissa * 2 ^ exponent : ℚ) < 2 ^ (53 + exponent) := by
  rw [← Nat.cast_ofNat (R := Int), ← two_pow_mul_zpow]
  exact mul_lt_mul_of_pos_right (by exact_mod_cast narrow) (two_zpow_pos exponent)

theorem IsDouble.lt {value : ℚ} (isDouble : IsDouble value) : value < 2 ^ 1024 := by
  obtain ⟨mantissa, exponent, narrow, -, greatest, rfl⟩ := isDouble
  calc (mantissa * 2 ^ exponent : ℚ)
    _ < 2 ^ (53 + exponent) := scaled_lt narrow exponent
    _ ≤ 2 ^ (1024 : Int) := zpow_le_zpow_right₀ one_le_two (by omega)
    _ = 2 ^ 1024 := zpow_natCast 2 1024

/-- Between a power of two and the doubles below it there is a gap, that of the units in which the
doubles just below it are measured. -/
theorem IsDouble.le_two_zpow_sub {value : ℚ} (isDouble : IsDouble value) {unit : Int}
    (below : value < 2 ^ (53 + unit)) : value ≤ 2 ^ (53 + unit) - 2 ^ unit := by
  obtain ⟨mantissa, exponent, narrow, -, -, rfl⟩ := isDouble
  have greatest : (2 ^ (53 + unit) - 2 ^ unit : ℚ) = (2 ^ 53 - 1 : Nat) * 2 ^ unit := by
    rw [← Nat.cast_ofNat (R := Int), ← two_pow_mul_zpow]
    push_cast
    ring
  rw [greatest]
  obtain finer | coarser := le_total exponent unit
  · have most : (mantissa : ℚ) ≤ (2 ^ 53 - 1 : Nat) := by
      exact_mod_cast Nat.le_sub_one_of_lt narrow
    exact mul_le_mul most (zpow_le_zpow_right₀ one_le_two finer) (two_zpow_pos exponent).le
      (Nat.cast_nonneg _)
  · -- A value of coarser units is a whole number of these units, too.
    obtain ⟨places, rfl⟩ := Int.le.dest coarser
    have whole : (mantissa * 2 ^ (unit + places) : ℚ) =
        (mantissa * 2 ^ places : Nat) * 2 ^ unit := by
      rw [zpow_add₀ two_ne_zero, zpow_natCast]
      push_cast
      ring
    rw [whole] at below ⊢
    rw [← Nat.cast_ofNat (R := Int), ← two_pow_mul_zpow, mul_lt_mul_iff_left₀ (two_zpow_pos _)]
      at below
    refine mul_le_mul_of_nonneg_right ?_ (two_zpow_pos unit).le
    exact_mod_cast Nat.le_sub_one_of_lt (by exact_mod_cast below)

/-! ### Rounding -/

/-- The exponent of the units in which a value is measured. -/
def unitExponent (value : ℚ) : Int :=
  max (Int.log 2 value - 52) (-1074)

/-- A value as a double holds it, which has a limit. -/
def held (value : ℚ) : WithTop ℚ :=
  if value < 2 ^ 1024 then value else ⊤

/-- The double that a value is rounded to. -/
def rounded (value : ℚ) : WithTop ℚ :=
  held (nearest (value / 2 ^ unitExponent value) * 2 ^ unitExponent value)

theorem held_mono {low high : ℚ} (ordered : low ≤ high) : held low ≤ held high := by
  unfold held
  split
  · split
    · exact WithTop.coe_le_coe.mpr ordered
    · exact le_top
  · rename_i large
    rw [if_neg fun small => large (ordered.trans_lt small)]

theorem unitExponent_mono {low high : ℚ} (positive : 0 < low) (ordered : low ≤ high) :
    unitExponent low ≤ unitExponent high := by
  have := Int.log_mono_right (b := 2) positive ordered
  unfold unitExponent
  omega

/-- A value is below `2 ^ 53` of its units. -/
theorem units_le (value : ℚ) : value / 2 ^ unitExponent value ≤ (2 ^ 53 : Int) := by
  have below : value < 2 ^ (53 + unitExponent value) :=
    (Int.lt_zpow_succ_log_self Nat.one_lt_two value).trans_le
      (zpow_le_zpow_right₀ one_le_two (by unfold unitExponent; omega))
  rw [div_le_iff₀ (two_zpow_pos _)]
  rw [← Nat.cast_ofNat (R := Int), ← two_pow_mul_zpow] at below
  exact_mod_cast below.le

/-- Unless its units are the smallest ones, a value has at least `2 ^ 52` of them. -/
theorem le_units {value : ℚ} (positive : 0 < value) (large : -1074 < unitExponent value) :
    ((2 ^ 52 : Int) : ℚ) ≤ value / 2 ^ unitExponent value := by
  have exponent : 52 + unitExponent value = Int.log 2 value := by
    unfold unitExponent at *
    omega
  have above : (2 ^ (52 + unitExponent value) : ℚ) ≤ value := by
    rw [exponent]
    exact Int.zpow_log_le_self Nat.one_lt_two positive
  rw [le_div_iff₀ (two_zpow_pos _)]
  rw [← Nat.cast_ofNat (R := Int), ← two_pow_mul_zpow] at above
  exact_mod_cast above

theorem nearest_units_mono {low high : ℚ} (positive : 0 < low) (ordered : low ≤ high) :
    (nearest (low / 2 ^ unitExponent low) * 2 ^ unitExponent low : ℚ) ≤
      nearest (high / 2 ^ unitExponent high) * 2 ^ unitExponent high := by
  obtain less | same := (unitExponent_mono positive ordered).lt_or_eq
  · -- A power of two stands between values that are measured in different units.
    have least : -1074 ≤ unitExponent low := le_max_right _ _
    have small : nearest (low / 2 ^ unitExponent low) ≤ 2 ^ 53 := nearest_le (units_le low)
    have large : 2 ^ 52 ≤ nearest (high / 2 ^ unitExponent high) :=
      le_nearest (le_units (positive.trans_le ordered) (least.trans_lt less))
    calc (nearest (low / 2 ^ unitExponent low) * 2 ^ unitExponent low : ℚ)
      _ ≤ 2 ^ 53 * 2 ^ unitExponent low := by
        exact mul_le_mul_of_nonneg_right (by exact_mod_cast small) (two_zpow_pos _).le
      _ = 2 ^ ((53 : Nat) + unitExponent low) := two_pow_mul_zpow 53 _
      _ ≤ 2 ^ ((52 : Nat) + unitExponent high) := zpow_le_zpow_right₀ one_le_two (by omega)
      _ = 2 ^ 52 * 2 ^ unitExponent high := (two_pow_mul_zpow 52 _).symm
      _ ≤ nearest (high / 2 ^ unitExponent high) * 2 ^ unitExponent high := by
        exact mul_le_mul_of_nonneg_right (by exact_mod_cast large) (two_zpow_pos _).le
  · rw [same]
    have units := nearest_mono
      (div_le_div_of_nonneg_right ordered (two_zpow_pos (unitExponent high)).le)
    exact mul_le_mul_of_nonneg_right (by exact_mod_cast units) (two_zpow_pos _).le

@[simp]
theorem rounded_zero : rounded 0 = 0 := by
  have none : nearest 0 = 0 := nearest_intCast 0
  unfold rounded
  rw [zero_div, none, Int.cast_zero, zero_mul]
  exact if_pos (by positivity)

theorem rounded_mono {low high : ℚ} (nonneg : 0 ≤ low) (ordered : low ≤ high) :
    rounded low ≤ rounded high := by
  obtain positive | rfl := nonneg.lt_or_eq
  · exact held_mono (nearest_units_mono positive ordered)
  · have whole : 0 ≤ nearest (high / 2 ^ unitExponent high) :=
      le_nearest (by exact_mod_cast div_nonneg ordered (two_zpow_pos _).le)
    rw [rounded_zero]
    refine le_trans (le_of_eq ?_)
      (held_mono (mul_nonneg (by exact_mod_cast whole) (two_zpow_pos _).le))
    exact (if_pos (by positivity)).symm

/-- A double is a whole number of its units. -/
theorem rounded_of_isDouble {value : ℚ} (isDouble : IsDouble value) : rounded value = value := by
  obtain rfl | positive := isDouble.nonneg.eq_or_lt
  · exact rounded_zero
  · have small := isDouble.lt
    obtain ⟨mantissa, exponent, narrow, least, -, same⟩ := isDouble
    have log : Int.log 2 value < 53 + exponent :=
      (Int.lt_zpow_iff_log_lt Nat.one_lt_two positive).mp (same ▸ scaled_lt narrow exponent)
    obtain ⟨places, finer⟩ := Int.le.dest (show unitExponent value ≤ exponent by
      unfold unitExponent
      omega)
    have units : value / 2 ^ unitExponent value = (mantissa * 2 ^ places : Int) := by
      rw [div_eq_iff (two_zpow_pos _).ne']
      conv_lhs => rw [same, ← finer, zpow_add₀ two_ne_zero, zpow_natCast]
      push_cast
      ring
    unfold rounded
    rw [units, nearest_intCast, ← units, div_mul_cancel₀ _ (two_zpow_pos _).ne']
    exact if_pos small

theorem IsDouble.le_rounded {double value : ℚ} (isDouble : IsDouble double)
    (below : double ≤ value) : double ≤ rounded value := by
  rw [← rounded_of_isDouble isDouble]
  exact rounded_mono isDouble.nonneg below

theorem IsDouble.rounded_le {double value : ℚ} (isDouble : IsDouble double) (nonneg : 0 ≤ value)
    (above : value ≤ double) : rounded value ≤ double := by
  rw [← rounded_of_isDouble isDouble]
  exact rounded_mono nonneg above

/-- A value between two doubles is rounded to one between them, and is not infinite then. -/
theorem exists_rounded_eq {low high value : ℚ} (lowDouble : IsDouble low)
    (highDouble : IsDouble high) (above : low ≤ value) (below : value ≤ high) :
    ∃ size : ℚ, rounded value = size ∧ low ≤ size ∧ size ≤ high := by
  have least := lowDouble.le_rounded above
  have greatest := highDouble.rounded_le (lowDouble.nonneg.trans above) below
  obtain ⟨size, same⟩ :=
    WithTop.ne_top_iff_exists.mp (ne_top_of_le_ne_top WithTop.coe_ne_top greatest)
  rw [← same] at least greatest
  exact ⟨size, same.symm, WithTop.coe_le_coe.mp least, WithTop.coe_le_coe.mp greatest⟩

end Triage.Number
