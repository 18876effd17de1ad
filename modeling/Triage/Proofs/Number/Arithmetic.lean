/-
This file proves that the operations on doubles that are not negative are correctly rounded: the
size of what comes out is the exact result, rounded to the nearest double. The order of doubles is
that of their sizes.
-/

import Triage.Proofs.Number.Order
import Triage.Proofs.Number.Rounding

namespace Triage.Number

open Float.Model Float.Model.UnpackedFloat

/-! ### Doubles that have a size -/

/-- A double with a size is zero, finite and positive, or the positive infinity. -/
theorem HasSize.cases {value : Float} {size : WithTop ℚ} (sized : HasSize value size) :
    (∃ sign, value.toModel.unpack = .zero sign ∧ size = 0) ∨
      (∃ mantissa exponent positive,
        value.toModel.unpack = .finite .positive mantissa exponent positive ∧
          (IsCanonical mantissa exponent ∧ exponent ≤ 971) ∧
          size = (mantissa * 2 ^ exponent : ℚ)) ∨
      value.toModel.unpack = .infinity .positive ∧ size = ⊤ := by
  unfold HasSize at sized
  cases unpacked : value.toModel.unpack with
  | notANumber => rw [unpacked] at sized; exact nomatch sized
  | zero sign =>
    rw [unpacked] at sized
    exact .inl ⟨sign, rfl, (Option.some.inj sized).symm⟩
  | infinity sign =>
    rw [unpacked] at sized
    cases sign with
    | negative => exact nomatch sized
    | positive => exact .inr (.inr ⟨rfl, (Option.some.inj sized).symm⟩)
  | finite sign mantissa exponent positive =>
    rw [unpacked] at sized
    cases sign with
    | negative => exact nomatch sized
    | positive =>
      exact .inr (.inl ⟨mantissa, exponent, positive, rfl, isCanonical_of_unpack unpacked,
        (Option.some.inj sized).symm⟩)

theorem HasSize.cases_coe {value : Float} {size : ℚ} (sized : HasSize value size) :
    (∃ sign, value.toModel.unpack = .zero sign ∧ size = 0) ∨
      ∃ mantissa exponent positive,
        value.toModel.unpack = .finite .positive mantissa exponent positive ∧
          (IsCanonical mantissa exponent ∧ exponent ≤ 971) ∧ size = mantissa * 2 ^ exponent := by
  obtain ⟨sign, unpacked, same⟩ | ⟨mantissa, exponent, positive, unpacked, canonical, same⟩ |
    ⟨_, same⟩ := sized.cases
  · exact .inl ⟨sign, unpacked, WithTop.coe_eq_zero.mp same⟩
  · exact .inr ⟨mantissa, exponent, positive, unpacked, canonical, WithTop.coe_inj.mp same⟩
  · exact absurd same (WithTop.coe_ne_top)

/-- What is unpacked and packed again has its size. -/
theorem HasSize.packed_unpack {value : Float} {size : WithTop ℚ} (sized : HasSize value size) :
    HasSize (packed value.toModel.unpack) size := by
  obtain ⟨sign, unpacked, rfl⟩ | ⟨mantissa, exponent, positive, unpacked, ⟨canonical, finite⟩, rfl⟩ |
    ⟨unpacked, rfl⟩ := sized.cases
  · rw [unpacked]
    exact hasSize_zero sign
  · show unpackedSize? (Float.Model.pack _).unpack = _
    rw [unpacked, unpack_pack canonical, if_pos finite]
    rfl
  · rw [unpacked]
    exact hasSize_infinity

theorem HasSize.isDouble {value : Float} {size : ℚ} (sized : HasSize value size) :
    IsDouble size := by
  obtain ⟨_, _, rfl⟩ | ⟨mantissa, exponent, _, _, ⟨canonical, finite⟩, rfl⟩ := sized.cases_coe
  · exact isDouble_zero
  · exact ⟨mantissa, exponent, canonical.narrow, canonical.least, finite, rfl⟩

theorem HasSize.eq {value : Float} {size other : WithTop ℚ} (sized : HasSize value size)
    (otherSized : HasSize value other) : size = other :=
  Option.some.inj (sized.symm.trans otherSized)

/-- What is rounded between two doubles stays between them, and so it is finite. -/
theorem HasSize.exists_between {value : Float} {exact low high : ℚ}
    (sized : HasSize value (rounded exact)) (lowDouble : IsDouble low) (highDouble : IsDouble high)
    (above : low ≤ exact) (below : exact ≤ high) :
    ∃ size : ℚ, HasSize value size ∧ low ≤ size ∧ size ≤ high := by
  obtain ⟨size, same, bounds⟩ := exists_rounded_eq lowDouble highDouble above below
  exact ⟨size, same ▸ sized, bounds⟩

/-! ### Products -/

variable {first second : Float} {firstSize secondSize : ℚ}

theorem log2_mul_le {first second : Nat} (positive : 0 < second) (full : 2 ^ 52 ≤ first) :
    52 ≤ (first * second).log2 :=
  (Nat.le_log2 (by positivity)).mpr (full.trans (Nat.le_mul_of_pos_right first positive))

theorem HasSize.mul (firstSized : HasSize first firstSize)
    (secondSized : HasSize second secondSize) :
    HasSize (first * second) (rounded (firstSize * secondSize)) := by
  show HasSize (packed (UnpackedFloat.mul .binary64 first.toModel.unpack second.toModel.unpack)) _
  obtain ⟨sign, unpacked, rfl⟩ | ⟨mantissa, exponent, positive, unpacked, ⟨canonical, _⟩, rfl⟩ :=
    firstSized.cases_coe <;>
  obtain ⟨otherSign, otherUnpacked, rfl⟩ |
    ⟨otherMantissa, otherExponent, otherPositive, otherUnpacked, ⟨otherCanonical, _⟩, rfl⟩ :=
    secondSized.cases_coe <;>
  rw [unpacked, otherUnpacked]
  · rw [zero_mul, rounded_zero]
    exact hasSize_zero _
  · rw [zero_mul, rounded_zero]
    exact hasSize_zero _
  · rw [mul_zero, rounded_zero]
    exact hasSize_zero _
  · have product : (mantissa * 2 ^ exponent * (otherMantissa * 2 ^ otherExponent) : ℚ) =
        (mantissa * otherMantissa : Nat) * 2 ^ (exponent + otherExponent) := by
      rw [zpow_add₀ two_ne_zero]
      push_cast
      ring
    -- One mantissa with all its bits is enough, and without one both exponents are the least.
    have ready : 52 ≤ (mantissa * otherMantissa).log2 ∨ exponent + otherExponent ≤ -1074 := by
      obtain full | least := canonical.full
      · exact .inl (log2_mul_le otherPositive full)
      · obtain full | otherLeast := otherCanonical.full
        · exact .inl (mul_comm otherMantissa mantissa ▸ log2_mul_le positive full)
        · exact .inr (by omega)
    rw [product]
    exact hasSize_roundWithAccuracy_exact (Nat.mul_pos positive otherPositive) ready

/-! ### Quotients -/

/-- The rest of a division says on which side of a half the quotient is. -/
theorem represents_quotient (dividend : Nat) {divisor : Nat} (positive : 0 < divisor) :
    Represents (.ofMantissaAndAccuracy (dividend / divisor)
      (accuracyOfFraction (dividend % divisor) divisor)) (dividend / divisor) := by
  have parts : (dividend : ℚ) =
      divisor * (dividend / divisor : Nat) + (dividend % divisor : Nat) := by
    exact_mod_cast (Nat.div_add_mod dividend divisor).symm
  have above : (0 : ℚ) < divisor := by exact_mod_cast positive
  have below : ((dividend % divisor : Nat) : ℚ) < divisor := by
    exact_mod_cast Nat.mod_lt dividend positive
  have quotient : (dividend / divisor : ℚ) =
      (dividend / divisor : Nat) + (dividend % divisor : Nat) / divisor := by
    rw [parts]
    field_simp
  rw [quotient]
  generalize dividend % divisor = rest at below
  unfold accuracyOfFraction
  split
  · rename_i none
    rw [none, Nat.cast_zero, zero_div, add_zero]
    rfl
  · rename_i some
    have some : (0 : ℚ) < rest := by exact_mod_cast Nat.pos_of_ne_zero some
    cases order : compare (2 * rest) divisor with
    | lt =>
      have less : (2 * rest : ℚ) < divisor := by exact_mod_cast Nat.compare_eq_lt.mp order
      refine ⟨by linarith [div_pos some above], ?_⟩
      have : (rest / divisor : ℚ) < 1 / 2 := by rw [div_lt_div_iff₀ above two_pos]; linarith
      linarith
    | eq =>
      have same : (2 * rest : ℚ) = divisor := by exact_mod_cast Nat.compare_eq_eq.mp order
      have : (rest / divisor : ℚ) = 1 / 2 := by rw [div_eq_div_iff above.ne' two_ne_zero]; linarith
      show _ = _
      linarith
    | gt =>
      have greater : (divisor : ℚ) < 2 * rest := by exact_mod_cast Nat.compare_eq_gt.mp order
      have : (1 / 2 : ℚ) < rest / divisor := by rw [div_lt_div_iff₀ two_pos above]; linarith
      have : (rest / divisor : ℚ) < 1 := by rw [div_lt_one above]; exact below
      exact ⟨by linarith, by linarith⟩

/-- The dividend is shifted so far to the left that the quotient is long enough. -/
theorem exists_divCore_eq {mantissa otherMantissa : Nat} (positive : 0 < mantissa)
    (otherPositive : 0 < otherMantissa) (exponent otherExponent : Int) :
    ∃ shift : Nat,
      divCore .binary64 mantissa exponent otherMantissa otherExponent =
          (mantissa <<< shift / otherMantissa, exponent - otherExponent - shift,
            accuracyOfFraction (mantissa <<< shift % otherMantissa) otherMantissa) ∧
        (52 ≤ (mantissa <<< shift / otherMantissa).log2 ∨
          exponent - otherExponent - shift ≤ -1074) := by
  have target : Format.binary64.targetExponent
      (totalExponent mantissa exponent - totalExponent otherMantissa otherExponent) =
      max (mantissa.log2 + exponent - otherMantissa.log2 - otherExponent - 53) (-1074) := by
    show max ((mantissa.log2 : Int) + 1 + exponent - (otherMantissa.log2 + 1 + otherExponent) - 53)
      (-1074) = _
    omega
  obtain ⟨shift, reached⟩ := Int.le.dest (min_le_left (exponent - otherExponent)
    (max (mantissa.log2 + exponent - otherMantissa.log2 - otherExponent - 53) (-1074)))
  refine ⟨shift, ?_, ?_⟩
  · have count : (exponent - otherExponent - min (exponent - otherExponent)
        (max (mantissa.log2 + exponent - otherMantissa.log2 - otherExponent - 53)
          (-1074))).toNat = shift := by omega
    unfold divCore
    simp only [target, count]
    congr 2
    omega
  · refine or_iff_not_imp_right.mpr fun large => ?_
    have long : 53 + otherMantissa.log2 ≤ mantissa.log2 + shift := by omega
    have enough : 2 ^ 52 * otherMantissa ≤ mantissa <<< shift :=
      calc 2 ^ 52 * otherMantissa
        _ ≤ 2 ^ 52 * 2 ^ (otherMantissa.log2 + 1) := by
          exact Nat.mul_le_mul_left _ Nat.lt_log2_self.le
        _ = 2 ^ (53 + otherMantissa.log2) := by rw [← pow_add]; congr 1; omega
        _ ≤ 2 ^ (mantissa.log2 + shift) := Nat.pow_le_pow_right two_pos long
        _ = 2 ^ mantissa.log2 * 2 ^ shift := pow_add 2 _ _
        _ ≤ mantissa * 2 ^ shift := Nat.mul_le_mul_right _ (Nat.log2_self_le positive.ne')
        _ = mantissa <<< shift := (Nat.shiftLeft_eq mantissa shift).symm
    have quotient := (Nat.le_div_iff_mul_le otherPositive).mpr enough
    exact (Nat.le_log2 (by omega)).mpr quotient

theorem HasSize.div (firstSized : HasSize first firstSize)
    (secondSized : HasSize second secondSize) (nonzero : secondSize ≠ 0) :
    HasSize (first / second) (rounded (firstSize / secondSize)) := by
  show HasSize (packed (UnpackedFloat.div .binary64 first.toModel.unpack second.toModel.unpack)) _
  obtain ⟨otherSign, -, rfl⟩ |
    ⟨otherMantissa, otherExponent, otherPositive, otherUnpacked, ⟨otherCanonical, _⟩, rfl⟩ :=
    secondSized.cases_coe
  · exact absurd rfl nonzero
  rw [otherUnpacked]
  obtain ⟨sign, unpacked, rfl⟩ | ⟨mantissa, exponent, positive, unpacked, ⟨canonical, _⟩, rfl⟩ :=
    firstSized.cases_coe <;>
  rw [unpacked]
  · rw [zero_div, rounded_zero]
    exact hasSize_zero _
  · obtain ⟨shift, core, ready⟩ :=
      exists_divCore_eq positive otherPositive exponent otherExponent
    have quotient : (mantissa * 2 ^ exponent / (otherMantissa * 2 ^ otherExponent) : ℚ) =
        (mantissa <<< shift : Nat) / otherMantissa * 2 ^ (exponent - otherExponent - shift) := by
      rw [Nat.shiftLeft_eq, zpow_sub₀ two_ne_zero, zpow_sub₀ two_ne_zero, zpow_natCast]
      push_cast
      field_simp
    have above : (0 : ℚ) < (mantissa <<< shift : Nat) / otherMantissa :=
      div_pos (by exact_mod_cast Nat.shiftLeft_pos_iff.mpr positive) (by exact_mod_cast otherPositive)
    dsimp only [UnpackedFloat.div]
    rw [core, quotient]
    exact hasSize_roundWithAccuracy (represents_quotient _ otherPositive) above ready

/-! ### Sums -/

theorem decreaseExponent_value (mantissa : Nat) {exponent least : Int} (below : least ≤ exponent) :
    (mantissa * 2 ^ exponent : ℚ) = (decreaseExponent mantissa exponent least).1 * 2 ^ least := by
  obtain ⟨shift, rfl⟩ := Int.le.dest below
  have count : (least + shift - least).toNat = shift := by omega
  unfold decreaseExponent
  simp only [count]
  rw [Nat.shiftLeft_eq, zpow_add₀ two_ne_zero, zpow_natCast]
  push_cast
  ring

theorem decreaseExponent_pos {mantissa : Nat} (positive : 0 < mantissa) (exponent least : Int) :
    0 < (decreaseExponent mantissa exponent least).1 :=
  Nat.shiftLeft_pos_iff.mpr positive

theorem hasSize_normalize {mantissa : Nat} (positive : 0 < mantissa) (exponent : Int) (sign : Sign) :
    HasSize (packed (UnpackedFloat.normalize .binary64 mantissa exponent sign))
      (rounded (mantissa * 2 ^ exponent)) := by
  unfold UnpackedFloat.normalize
  rw [Int.compare_eq_gt.mpr (by omega)]
  exact hasSize_round positive exponent

theorem HasSize.add (firstSized : HasSize first firstSize)
    (secondSized : HasSize second secondSize) :
    HasSize (first + second) (rounded (firstSize + secondSize)) := by
  have same := rounded_of_isDouble firstSized.isDouble
  have otherSame := rounded_of_isDouble secondSized.isDouble
  have whole := firstSized.packed_unpack
  have otherWhole := secondSized.packed_unpack
  show HasSize (packed (UnpackedFloat.add .binary64 first.toModel.unpack second.toModel.unpack)) _
  obtain ⟨sign, unpacked, rfl⟩ | ⟨mantissa, exponent, positive, unpacked, ⟨canonical, _⟩, rfl⟩ :=
    firstSized.cases_coe <;>
  obtain ⟨otherSign, otherUnpacked, rfl⟩ |
    ⟨otherMantissa, otherExponent, otherPositive, otherUnpacked, ⟨otherCanonical, _⟩, rfl⟩ :=
    secondSized.cases_coe <;>
  rw [unpacked] at whole ⊢ <;> rw [otherUnpacked] at otherWhole ⊢
  · rw [add_zero, rounded_zero]
    cases sign <;> cases otherSign <;> exact hasSize_zero _
  · rw [zero_add, otherSame]
    exact otherWhole
  · rw [add_zero, same]
    exact whole
  · have sum : (mantissa * 2 ^ exponent + otherMantissa * 2 ^ otherExponent : ℚ) =
        ((decreaseExponent mantissa exponent (min exponent otherExponent)).1 +
          (decreaseExponent otherMantissa otherExponent (min exponent otherExponent)).1 : Nat) *
          2 ^ min exponent otherExponent := by
      rw [decreaseExponent_value mantissa (min_le_left exponent otherExponent),
        decreaseExponent_value otherMantissa (min_le_right exponent otherExponent)]
      push_cast
      ring
    rw [sum]
    exact hasSize_normalize (Nat.add_pos_left (decreaseExponent_pos positive _ _) _) _ _

theorem HasSize.top_add {secondSize : WithTop ℚ} (firstSized : HasSize first ⊤)
    (secondSized : HasSize second secondSize) : HasSize (first + second) ⊤ := by
  show HasSize (packed (UnpackedFloat.add .binary64 first.toModel.unpack second.toModel.unpack)) _
  obtain ⟨_, _, none⟩ | ⟨_, _, _, _, _, finite⟩ | ⟨unpacked, -⟩ := firstSized.cases
  · exact nomatch none
  · exact nomatch finite
  rw [unpacked]
  obtain ⟨_, otherUnpacked, -⟩ | ⟨_, _, _, otherUnpacked, -, -⟩ | ⟨otherUnpacked, -⟩ :=
    secondSized.cases <;>
  rw [otherUnpacked] <;> exact hasSize_infinity

theorem HasSize.add_top {firstSize : WithTop ℚ} (firstSized : HasSize first firstSize)
    (secondSized : HasSize second ⊤) : HasSize (first + second) ⊤ := by
  show HasSize (packed (UnpackedFloat.add .binary64 first.toModel.unpack second.toModel.unpack)) _
  obtain ⟨_, _, none⟩ | ⟨_, _, _, _, _, finite⟩ | ⟨otherUnpacked, -⟩ := secondSized.cases
  · exact nomatch none
  · exact nomatch finite
  rw [otherUnpacked]
  obtain ⟨_, unpacked, -⟩ | ⟨_, _, _, unpacked, -, -⟩ | ⟨unpacked, -⟩ := firstSized.cases <;>
  rw [unpacked] <;> exact hasSize_infinity

/-- A sum is at least as great as what is added, also when it is infinite. -/
theorem HasSize.exists_add {firstSize secondSize : WithTop ℚ} (firstSized : HasSize first firstSize)
    (secondSized : HasSize second secondSize) :
    ∃ sum, HasSize (first + second) sum ∧ firstSize ≤ sum ∧ secondSize ≤ sum := by
  induction firstSize with
  | top => exact ⟨⊤, firstSized.top_add secondSized, le_top, le_top⟩
  | coe firstSize =>
    induction secondSize with
    | top => exact ⟨⊤, firstSized.add_top secondSized, le_top, le_top⟩
    | coe secondSize =>
      have isDouble := firstSized.isDouble
      have otherIsDouble := secondSized.isDouble
      exact ⟨_, firstSized.add secondSized,
        isDouble.le_rounded (le_add_of_nonneg_right otherIsDouble.nonneg),
        otherIsDouble.le_rounded (le_add_of_nonneg_left isDouble.nonneg)⟩

/-! ### Whole numbers -/

theorem hasSize_one : HasSize (Float.ofBits 0x3FF0000000000000) (1 : ℚ) := by
  have value : ((2 ^ 52 : Nat) * 2 ^ (-52 : Int) : ℚ) = 1 := by norm_num
  rw [← value]
  rfl

theorem hasSize_toFloat (count : UInt64) : HasSize count.toFloat (rounded count.toNat) := by
  show HasSize (packed (UnpackedFloat.normalize .binary64 (count.toNat : Int) 0 .positive)) _
  obtain none | positive := count.toNat.eq_zero_or_pos
  · simp only [none, Nat.cast_zero, rounded_zero]
    exact hasSize_zero _
  · have sized := hasSize_normalize positive 0 .positive
    rwa [zpow_zero, mul_one] at sized

/-- A whole number that is too long for a mantissa is first shifted to the left. -/
theorem ofScientific_eq {count : Nat} (positive : 0 < count) :
    UnpackedFloat.ofScientific .binary64 count 0 =
      roundWithAccuracy .binary64 .positive (count <<< 53) (-53) .exact := by
  have limit : ¬ (0 : Int) < -(2 ^ 11 + count.log2) := by omega
  have product : UnpackedFloat.mul .binary64
      (.finite .positive (count <<< 53) (-53) (Nat.shiftLeft_pos_iff.mpr positive))
      (.finite .positive 1 0 one_pos) =
        roundWithAccuracy .binary64 .positive (count <<< 53 * 1) (-53) .exact := rfl
  unfold UnpackedFloat.ofScientific
  rw [dif_neg positive.ne', if_neg (by decide), if_neg limit, if_pos le_rfl]
  exact product.trans (by rw [mul_one])

/-- A whole number is converted to the nearest double. -/
theorem hasSize_ofNat (count : Nat) : HasSize (Float.ofNat count) (rounded count) := by
  by_cases small : count < 2 ^ 53
  · have fast : Float.ofNat count = count.toUInt64.toFloat * Float.ofBits 0x3FF0000000000000 :=
      dif_pos ⟨small, by decide⟩
    have exact := rounded_of_isDouble (isDouble_natCast small)
    have word : count.toUInt64.toNat = count := Nat.mod_eq_of_lt (by omega)
    have converted := hasSize_toFloat count.toUInt64
    rw [word, exact] at converted
    have sized := converted.mul hasSize_one
    rwa [mul_one, ← fast] at sized
  · have slow : Float.ofNat count = .ofModel (Float.Model.ofScientific count 0) :=
      dif_neg fun fast => small fast.1
    have positive : 0 < count := by omega
    have value : (count : ℚ) = (count <<< 53 : Nat) * 2 ^ (-53 : Int) := by
      rw [Nat.shiftLeft_eq, zpow_neg, zpow_ofNat, Nat.cast_mul, Nat.cast_pow, Nat.cast_ofNat,
        mul_assoc, mul_inv_cancel₀ (by positivity), mul_one]
    rw [slow, value]
    show HasSize (packed (UnpackedFloat.ofScientific .binary64 count 0)) _
    rw [ofScientific_eq positive]
    refine hasSize_roundWithAccuracy_exact (Nat.shiftLeft_pos_iff.mpr positive) ?_
    rw [log2_shiftLeft positive]
    omega

/-! ### Order -/

/-- The order of two doubles as they are packed is that of their values. -/
theorem scaled_lt_scaled {mantissa otherMantissa : Nat} {exponent otherExponent : Int}
    (canonical : IsCanonical mantissa exponent)
    (otherCanonical : IsCanonical otherMantissa otherExponent) :
    (mantissa * 2 ^ exponent : ℚ) < otherMantissa * 2 ^ otherExponent ↔
      exponent < otherExponent ∨ exponent = otherExponent ∧ mantissa < otherMantissa := by
  have before {mantissa otherMantissa : Nat} {exponent otherExponent : Int}
      (canonical : IsCanonical mantissa exponent)
      (otherCanonical : IsCanonical otherMantissa otherExponent) (less : exponent < otherExponent) :
      (mantissa * 2 ^ exponent : ℚ) < otherMantissa * 2 ^ otherExponent := by
    have least := canonical.least
    have full : 2 ^ 52 ≤ otherMantissa := otherCanonical.full.resolve_right (by omega)
    calc (mantissa * 2 ^ exponent : ℚ)
      _ < 2 ^ (53 + exponent) := scaled_lt canonical.narrow exponent
      _ ≤ 2 ^ ((52 : Nat) + otherExponent) := zpow_le_zpow_right₀ one_le_two (by omega)
      _ = 2 ^ 52 * 2 ^ otherExponent := (two_pow_mul_zpow 52 otherExponent).symm
      _ ≤ otherMantissa * 2 ^ otherExponent := by
        exact mul_le_mul_of_nonneg_right (by exact_mod_cast full) (two_zpow_pos _).le
  obtain less | rfl | greater := lt_trichotomy exponent otherExponent
  · exact iff_of_true (before canonical otherCanonical less) (.inl less)
  · rw [mul_lt_mul_iff_left₀ (two_zpow_pos exponent), Nat.cast_lt]
    omega
  · exact iff_of_false (before otherCanonical canonical greater).le.not_gt (by omega)

/-- Doubles are in the order of their sizes. -/
theorem HasSize.lt_iff {firstSize secondSize : WithTop ℚ} (firstSized : HasSize first firstSize)
    (secondSized : HasSize second secondSize) : first < second ↔ firstSize < secondSize := by
  have above {mantissa : Nat} (positive : 0 < mantissa) (exponent : Int) :
      (0 : WithTop ℚ) < (mantissa * 2 ^ exponent : ℚ) :=
    WithTop.coe_pos.mpr (mul_pos (Nat.cast_pos.mpr positive) (two_zpow_pos exponent))
  rw [Number.lt_iff, rank?, rank?]
  obtain ⟨_, unpacked, rfl⟩ | ⟨mantissa, exponent, positive, unpacked, ⟨canonical, _⟩, rfl⟩ |
    ⟨unpacked, rfl⟩ := firstSized.cases <;>
  obtain ⟨_, otherUnpacked, rfl⟩ |
    ⟨otherMantissa, otherExponent, otherPositive, otherUnpacked, ⟨otherCanonical, _⟩, rfl⟩ |
    ⟨otherUnpacked, rfl⟩ := secondSized.cases <;>
  rw [unpacked, otherUnpacked] <;> dsimp only [unpackedRank?] <;>
  simp only [ranked_some_iff, Rank.Below, true_and]
  · exact iff_of_false (by omega) (lt_irrefl _)
  · exact iff_of_true (by omega) (above otherPositive otherExponent)
  · exact iff_of_true (by omega) WithTop.top_pos
  · exact iff_of_false (by omega) (above positive exponent).le.not_gt
  · rw [WithTop.coe_lt_coe, scaled_lt_scaled canonical otherCanonical]
    omega
  · exact iff_of_true (by omega) (WithTop.coe_lt_top _)
  · exact iff_of_false (by omega) not_top_lt
  · exact iff_of_false (by omega) not_top_lt
  · exact iff_of_false (by omega) not_top_lt

theorem hasSize_zero_literal : HasSize 0 0 := rfl

theorem HasSize.pos_iff {value : Float} {size : WithTop ℚ} (sized : HasSize value size) :
    0 < value ↔ 0 < size :=
  hasSize_zero_literal.lt_iff sized

/-- Whatever is greater than zero has a size. -/
theorem exists_hasSize_of_pos {value : Float} (positive : 0 < value) :
    ∃ size, HasSize value size := by
  obtain ⟨low, high, lowRank, highRank, below⟩ := (Number.lt_iff 0 value).mp positive
  obtain rfl : (2, 0, 0) = low := Option.some.inj lowRank
  unfold rank? at highRank
  unfold HasSize
  cases unpacked : value.toModel.unpack with
  | notANumber => rw [unpacked] at highRank; exact nomatch highRank
  | zero sign => exact ⟨_, rfl⟩
  | infinity sign =>
    cases sign with
    | positive => exact ⟨_, rfl⟩
    | negative =>
      rw [unpacked] at highRank
      obtain rfl : (0, 0, 0) = high := Option.some.inj highRank
      unfold Rank.Below at below
      omega
  | finite sign mantissa exponent some =>
    cases sign with
    | positive => exact ⟨_, rfl⟩
    | negative =>
      rw [unpacked] at highRank
      obtain rfl : (1, -exponent, -(mantissa : Int)) = high := Option.some.inj highRank
      unfold Rank.Below at below
      omega

/-! ### Ratios -/

theorem isDouble_one : IsDouble 1 :=
  ⟨1, 0, by decide, by decide, by decide, by simp⟩

/-- A count that a machine word can hold is rounded to a finite double. -/
theorem exists_hasSize_count {count : Nat} (some : 0 < count) (countable : count < UInt64.size) :
    ∃ size : ℚ, HasSize (Float.ofNat count) size ∧ 1 ≤ size ∧ size ≤ 2 ^ (64 : Int) := by
  refine (hasSize_ofNat count).exists_between isDouble_one (isDouble_zpow (by decide) (by decide))
    ?_ ?_
  · exact_mod_cast some
  · exact_mod_cast countable.le

theorem hasSize_ofNat_mono {count total : Nat} {part whole : ℚ}
    (partSized : HasSize (Float.ofNat count) part) (wholeSized : HasSize (Float.ofNat total) whole)
    (within : count ≤ total) : part ≤ whole := by
  rw [← WithTop.coe_le_coe, partSized.eq (hasSize_ofNat count), wholeSized.eq (hasSize_ofNat total)]
  exact rounded_mono count.cast_nonneg (by exact_mod_cast within)

/-- The ratio of two counts is above zero and at most one. -/
theorem exists_hasSize_ratio {count total : Nat} (some : 0 < count) (within : count ≤ total)
    (countable : total < UInt64.size) :
    ∃ size : ℚ, HasSize (Float.ofNat count / Float.ofNat total) size ∧
      2 ^ (-64 : Int) ≤ size ∧ size ≤ 1 := by
  obtain ⟨part, partSized, one_le_part, -⟩ :=
    exists_hasSize_count some (within.trans_lt countable)
  obtain ⟨whole, wholeSized, one_le_whole, whole_le⟩ :=
    exists_hasSize_count (some.trans_le within) countable
  have ordered : part ≤ whole := hasSize_ofNat_mono partSized wholeSized within
  have positive : 0 < whole := one_pos.trans_le one_le_whole
  have above : (2 ^ (-64 : Int) : ℚ) ≤ part / whole := by
    rw [zpow_neg, le_div_iff₀ positive, inv_mul_le_iff₀ (two_zpow_pos 64)]
    exact whole_le.trans (le_mul_of_one_le_right (two_zpow_pos 64).le one_le_part)
  exact (partSized.div wholeSized positive.ne').exists_between
    (isDouble_zpow (by decide) (by decide)) isDouble_one above ((div_le_one positive).mpr ordered)

theorem hasSize_literal_one : HasSize 1 (1 : ℚ) := by
  have sized := hasSize_ofNat 1
  rwa [Nat.cast_one, rounded_of_isDouble isDouble_one] at sized

theorem hasSize_sixteenth : HasSize 0.0625 (2 ^ (-4 : Int) : ℚ) := by
  have value : ((2 ^ 52 : Nat) * 2 ^ (-56 : Int) : ℚ) = 2 ^ (-4 : Int) := by norm_num
  have unpacked : (0.0625 : Float).toModel.unpack =
      .finite .positive (2 ^ 52) (-56) (by decide) := by rfl
  rw [← value, HasSize, unpacked]
  rfl

/-- A part of a double that is not below a smaller double is not below it after rounding. -/
theorem HasSize.exists_weighted {value weight : Float} {size weightSize least : ℚ}
    (sized : HasSize value size) (weightSized : HasSize weight weightSize) (below : size ≤ 1)
    (isDouble : IsDouble least) (above : least ≤ size * weightSize) :
    ∃ part : ℚ, HasSize (value * weight) part ∧ least ≤ part ∧ part ≤ weightSize := by
  have limit : size * weightSize ≤ weightSize :=
    mul_le_of_le_one_left weightSized.isDouble.nonneg below
  exact (sized.mul weightSized).exists_between isDouble weightSized.isDouble above limit

/-- A ratio with a weight that is not too small is above zero and at most one, too. -/
theorem exists_hasSize_weighted {ratio weight : Float} {ratioSize : ℚ}
    (ratioSized : HasSize ratio ratioSize) (above : 2 ^ (-64 : Int) ≤ ratioSize)
    (below : ratioSize ≤ 1) (heavy : 0.0625 < weight) (light : weight < 1) :
    ∃ size : ℚ, HasSize (ratio * weight) size ∧ 2 ^ (-68 : Int) ≤ size ∧ size ≤ 1 := by
  have some := hasSize_sixteenth.pos_iff.mpr (WithTop.coe_pos.mpr (two_zpow_pos (-4)))
  obtain ⟨weightSize, weightSized⟩ := exists_hasSize_of_pos (lt_trans some heavy)
  have less := (weightSized.lt_iff hasSize_literal_one).mp light
  have greater := (hasSize_sixteenth.lt_iff weightSized).mp heavy
  obtain ⟨weightSize, rfl⟩ := WithTop.ne_top_iff_exists.mp less.ne_top
  rw [WithTop.coe_lt_coe] at less greater
  have product : (2 ^ (-68 : Int) : ℚ) ≤ ratioSize * weightSize :=
    calc (2 ^ (-68 : Int) : ℚ)
      _ = 2 ^ (-64 : Int) * 2 ^ (-4 : Int) := by rw [← zpow_add₀ two_ne_zero]; rfl
      _ ≤ ratioSize * weightSize := by
        exact mul_le_mul above greater.le (two_zpow_pos _).le ((two_zpow_pos _).le.trans above)
  obtain ⟨size, sized, least, most⟩ :=
    ratioSized.exists_weighted weightSized below (isDouble_zpow (by decide) (by decide)) product
  exact ⟨size, sized, least, most.trans less.le⟩

end Triage.Number
