/-
This file proves that only finite doubles are read. A written number becomes a double by scaling its
digits with a power of ten. A product that is infinite is given up, and a quotient cannot become
infinite, as no power of ten that is used is below one. A whole number of 64 bits is far within range.
-/

import Triage.Number.Scaled
import Triage.Proofs.Number.Comparison

namespace Triage.Number

open Float.Model Float.Model.UnpackedFloat

/-! ### Finite doubles -/

/-- A double is finite and not negative. -/
def HasFiniteSize (value : Float) : Prop :=
  ∃ size : ℚ, HasSize value size

variable {value : Float}

theorem HasFiniteSize.isFinite (sized : HasFiniteSize value) : value.isFinite = true := by
  obtain ⟨size, sized⟩ := sized
  show value.toModel.unpack.isFinite = true
  obtain ⟨_, unpacked, -⟩ | ⟨_, _, _, unpacked, -⟩ := sized.cases_coe <;>
  · rw [unpacked]
    rfl

theorem HasFiniteSize.isFinite_neg (sized : HasFiniteSize value) : (-value).isFinite = true := by
  obtain ⟨size, sized⟩ := sized
  show (Float.Model.pack value.toModel.unpack.neg).unpack.isFinite = true
  obtain ⟨sign, unpacked, -⟩ | ⟨_, _, _, unpacked, ⟨canonical, finite⟩, -⟩ := sized.cases_coe
  · rw [unpacked]
    cases sign <;> rfl
  · rw [unpacked]
    show (Float.Model.pack (.finite (-.positive) _ _ _)).unpack.isFinite = true
    rw [unpack_pack canonical, if_pos finite]
    rfl

/-- What has a size is finite unless it is infinite. -/
theorem HasSize.hasFiniteSize {size : WithTop ℚ} (sized : HasSize value size)
    (finite : value.isInf = false) : HasFiniteSize value := by
  obtain ⟨_, _, rfl⟩ | ⟨_, _, _, _, _, rfl⟩ | ⟨unpacked, _⟩ := sized.cases
  · exact ⟨0, sized⟩
  · exact ⟨_, sized⟩
  · have infinite : value.isInf = true := by
      show value.toModel.unpack.isInf = true
      rw [unpacked]
      rfl
    exact absurd finite (infinite ▸ Bool.noConfusion)

/-- A finite double above zero has a value above zero. -/
theorem exists_hasSize_of_finite {value : Float} (finite : value.isFinite = true)
    (positive : ¬ value ≤ 0) : ∃ size : ℚ, HasSize value size ∧ 0 < size := by
  have classes : value.isNaN = false ∧ value.isInf = false := by
    show value.toModel.unpack.isNaN = false ∧ value.toModel.unpack.isInf = false
    change value.toModel.unpack.isFinite = true at finite
    cases unpacked : value.toModel.unpack with
    | notANumber | infinity => rw [unpacked] at finite; exact nomatch finite
    | zero | finite => exact ⟨rfl, rfl⟩
  have above : 0 < value :=
    not_not.mp fun notAbove => positive (le_of_not_lt rfl classes.1 notAbove)
  obtain ⟨_, sized⟩ := exists_hasSize_of_pos above
  obtain ⟨size, sized⟩ := sized.hasFiniteSize classes.2
  exact ⟨size, sized, WithTop.coe_pos.mp (sized.pos_iff.mp above)⟩

/-! ### Whole numbers -/

theorem hasFiniteSize_ofNat {count : Nat} (countable : count < UInt64.size) :
    HasFiniteSize (Float.ofNat count) := by
  obtain ⟨size, sized, -⟩ := (hasSize_ofNat count).exists_between isDouble_zero
    (isDouble_zpow (show (-1074 : Int) ≤ 64 by decide) (by decide)) count.cast_nonneg
    (by exact_mod_cast countable.le)
  exact ⟨size, sized⟩

/-- The share of a count in a total is at most one. -/
theorem exists_hasSize_share {count total : Nat} (some : 0 < total) (within : count ≤ total)
    (countable : total < UInt64.size) :
    ∃ size : ℚ, HasSize (Float.ofNat count / Float.ofNat total) size ∧ size ≤ 1 := by
  obtain rfl | positive := count.eq_zero_or_pos
  · obtain ⟨whole, wholeSized, one_le_whole, -⟩ := exists_hasSize_count some countable
    have noneSized := hasSize_ofNat 0
    rw [Nat.cast_zero, rounded_zero] at noneSized
    have sized := noneSized.div wholeSized (one_pos.trans_le one_le_whole).ne'
    rw [zero_div, rounded_zero] at sized
    exact ⟨0, sized, zero_le_one⟩
  · obtain ⟨size, sized, -, below⟩ := exists_hasSize_ratio positive within countable
    exact ⟨size, sized, below⟩

theorem isFinite_doubleOfInt {number : Int} (held : number.natAbs < UInt64.size) :
    (doubleOfInt number).isFinite = true := by
  cases number with
  | ofNat count => exact (hasFiniteSize_ofNat held).isFinite
  | negSucc count => exact (hasFiniteSize_ofNat held).isFinite_neg

/-! ### Powers of ten -/

/-- A power of ten that is not looked up is computed from a long mantissa. -/
theorem powerOfTen_eq {power : Nat} (large : 22 < power) (small : power ≤ largestPower) :
    powerOfTen power =
      packed (roundWithAccuracy .binary64 .positive (2 ^ 53 * 10 ^ power) (-53) .exact) := by
  unfold largestPower at small
  have slow : powerOfTen power = packed (UnpackedFloat.ofScientific .binary64 1 power) :=
    dif_neg fun fast => absurd fast.2 (Nat.not_le.mpr large)
  have limit : ¬ (2 ^ Format.binary64.exponentBits : Int) < power := by
    show ¬ (2048 : Int) < power
    omega
  have within : ¬ (power : Int) < -(2 ^ Format.binary64.exponentBits + Nat.log2 1) := by
    show ¬ (power : Int) < -2048
    omega
  rw [slow]
  unfold UnpackedFloat.ofScientific
  rw [dif_neg one_ne_zero, if_neg limit, if_neg within, if_pos (Int.natCast_nonneg power)]
  rfl

/-- It is correctly rounded then. -/
theorem hasSize_powerOfTen {power : Nat} (large : 22 < power) (small : power ≤ largestPower) :
    HasSize (powerOfTen power) (rounded (10 ^ power)) := by
  have positive : 0 < 2 ^ 53 * 10 ^ power := by positivity
  have long : 52 ≤ (2 ^ 53 * 10 ^ power).log2 := by
    have some := Nat.one_le_pow power 10 (by decide)
    exact (Nat.le_log2 positive.ne').mpr (by omega)
  have value : ((2 ^ 53 * 10 ^ power : Nat) * 2 ^ (-53 : Int) : ℚ) = 10 ^ power := by
    rw [zpow_neg, zpow_ofNat, Nat.cast_mul, Nat.cast_pow, Nat.cast_pow, Nat.cast_ofNat,
      Nat.cast_ofNat, mul_right_comm, mul_inv_cancel₀ (by positivity), one_mul]
  rw [powerOfTen_eq large small, ← value]
  exact hasSize_roundWithAccuracy_exact positive (.inl long)

theorem isDouble_greatest : IsDouble ((2 ^ 53 - 1 : Nat) * 2 ^ (971 : Int)) :=
  ⟨_, _, by decide, by decide, by decide, rfl⟩

theorem power_le_greatest {power : Nat} (small : power ≤ largestPower) :
    (10 ^ power : ℚ) ≤ (2 ^ 53 - 1 : Nat) * 2 ^ (971 : Int) := by
  have below : 10 ^ largestPower ≤ (2 ^ 53 - 1) * 2 ^ 971 := by decide +kernel
  calc (10 ^ power : ℚ)
    _ ≤ 10 ^ largestPower := pow_le_pow_right₀ (by norm_num) small
    _ ≤ (2 ^ 53 - 1 : Nat) * 2 ^ 971 := by exact_mod_cast below
    _ = (2 ^ 53 - 1 : Nat) * 2 ^ (971 : Int) := by rw [zpow_ofNat]

/-- The powers of ten that are used are finite and at least one. -/
theorem exists_hasSize_powerOfTen {power : Nat} (small : power ≤ largestPower) :
    ∃ size : ℚ, HasSize (powerOfTen power) size ∧ 1 ≤ size := by
  by_cases large : 22 < power
  · obtain ⟨size, sized, above, -⟩ := (hasSize_powerOfTen large small).exists_between isDouble_one
      isDouble_greatest (one_le_pow₀ (by norm_num)) (power_le_greatest small)
    exact ⟨size, sized, above⟩
  · have lookedUp : ∀ power < 23, (powerOfTen power).isInf = false ∧ 0 < powerOfTen power ∧
        ¬ powerOfTen power < 1 := by
      decide +kernel
    obtain ⟨finite, positive, notBelow⟩ := lookedUp power (by omega)
    obtain ⟨_, sized⟩ := exists_hasSize_of_pos positive
    obtain ⟨size, sized⟩ := sized.hasFiniteSize finite
    rw [sized.lt_iff hasSize_literal_one, WithTop.coe_lt_coe, not_lt] at notBelow
    exact ⟨size, sized, notBelow⟩

/-! ### Scaling -/

theorem HasFiniteSize.div_powerOfTen {number : Float} (sized : HasFiniteSize number) {power : Nat}
    (small : power ≤ largestPower) : HasFiniteSize (number / powerOfTen power) := by
  obtain ⟨size, sized⟩ := sized
  obtain ⟨divisor, divisorSized, above⟩ := exists_hasSize_powerOfTen small
  have positive : 0 < divisor := one_pos.trans_le above
  have nonneg := sized.isDouble.nonneg
  obtain ⟨quotient, quotientSized, -⟩ := (sized.div divisorSized positive.ne').exists_between
    isDouble_zero sized.isDouble (div_nonneg nonneg positive.le) (div_le_self nonneg above)
  exact ⟨quotient, quotientSized⟩

theorem HasFiniteSize.scale {steps : Nat} {number scaled : Float} {exponent : Int}
    (sized : HasFiniteSize number) (reads : Number.scale steps number exponent = some scaled) :
    HasFiniteSize scaled := by
  induction steps generalizing number exponent with
  | zero => exact nomatch reads
  | succ steps inductionHypothesis =>
    rw [Number.scale] at reads
    dsimp only at reads
    split_ifs at reads with small upwards infinite zero
    · obtain ⟨size, sized⟩ := sized
      obtain ⟨factor, factorSized, -⟩ := exists_hasSize_powerOfTen small
      obtain rfl := Option.some.inj reads
      exact (sized.mul factorSized).hasFiniteSize (Bool.eq_false_iff.mpr infinite)
    · obtain rfl := Option.some.inj reads
      exact sized.div_powerOfTen small
    · obtain rfl := Option.some.inj reads
      exact sized
    · exact inductionHypothesis (sized.div_powerOfTen le_rfl) reads

theorem hasFiniteSize_of_readScaled {significand : Nat} {exponent : Int} {number : Float}
    (countable : significand < UInt64.size) (reads : readScaled significand exponent = some number) :
    HasFiniteSize number :=
  (hasFiniteSize_ofNat countable).scale reads

end Triage.Number
