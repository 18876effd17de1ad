/-
This file proves that taking a double apart loses nothing. The parts that are read from its stored bits
are those that it is unpacked to for arithmetic, so what is computed from the parts with whole numbers
can be compared with what is said about sizes. The bits can be computed from the parts again, so that
a size above zero belongs to one double only. A quotient of whole numbers that is rounded to even is
the whole number nearest to the value of the quotient.
-/

import Triage.Number.Rounding
import Triage.Proofs.Number.Arithmetic

namespace Triage.Number

open Float.Model Float.Model.UnpackedFloat

/-! ### Parts -/

/-- The parts of an unpacked double. -/
def unpackedShape : UnpackedFloat → Shape
  | .notANumber => .notANumber
  | .infinity sign => .infinite (sign == .negative)
  | .zero sign => .finite (sign == .negative) 0 (-1074)
  | .finite sign mantissa exponent _ => .finite (sign == .negative) mantissa exponent

theorem unpackedShape_assembled (sign : Sign) (field : BitVec 11) (fraction : BitVec 52) :
    unpackedShape (assembled sign field fraction) =
      if field.toNat + 1 = 2048 then
        if fraction.toNat = 0 then .infinite (sign == .negative) else .notANumber
      else if field.toNat = 0 then .finite (sign == .negative) fraction.toNat (-1074)
      else .finite (sign == .negative) (2 ^ 52 + fraction.toNat)
        (-1074 + (field.toNat - 1 : Nat)) := by
  have parts := assembles sign field fraction
  generalize assembled sign field fraction = unpacked at parts ⊢
  cases parts with
  | infinity last none =>
    rw [if_pos (congrArg Nat.succ last), if_pos none]
    rfl
  | notANumber last some =>
    rw [if_pos (congrArg Nat.succ last), if_neg some]
    rfl
  | zero first none =>
    rw [if_neg (by omega), if_pos first, none]
    rfl
  | least first positive =>
    rw [if_neg (by omega), if_pos first]
    rfl
  | full notFirst notLast positive =>
    have exponent : (field.toNat : Int) - 1075 = -1074 + (field.toNat - 1 : Nat) := by omega
    rw [if_neg (by omega), if_neg notFirst, ← exponent]
    rfl

/-- A double is taken apart into what it is unpacked to. -/
theorem shapeOf_eq (value : Float) : shapeOf value = unpackedShape value.toModel.unpack := by
  have fraction (bits : BitVec 64) :
      (@unpackMantissa .binary64 bits).toNat = bits.toNat % 2 ^ 52 := by
    simp [unpackMantissa]
  have field (bits : BitVec 64) :
      (@unpackExponent .binary64 bits).toNat = bits.toNat / 2 ^ 52 % 2048 := by
    simp [unpackExponent, Nat.shiftRight_eq_div_pow]
  have sign (bits : BitVec 64) : (Sign.ofBitVec (@unpackSign .binary64 bits) == .negative) =
      (bits.toNat / 2 ^ 52 / 2048 % 2 == 1) := by
    have bit : (@unpackSign .binary64 bits).toNat = bits.toNat / 2 ^ 52 / 2048 % 2 := by
      show (bits.extractLsb 63 63).toNat = _
      rw [BitVec.extractLsb_toNat, Nat.shiftRight_eq_div_pow, Nat.div_div_eq_div_mul]
      rfl
    rw [← bit]
    generalize @unpackSign .binary64 bits = marked
    obtain rfl | rfl := BitVec.eq_zero_or_eq_one marked <;> rfl
  unfold Float.Model.unpack
  rw [unpack_eq, unpackedShape_assembled, fraction, field, sign]
  rfl

/-- The parts of a finite double that is not negative have its value; only a zero can have a sign. -/
theorem shapeOf_cases {value : Float} {size : ℚ} (sized : HasSize value size) :
    shapeOf value = .finite true 0 (-1074) ∧ size = 0 ∨
      ∃ (mantissa : Nat) (exponent : Int), shapeOf value = .finite false mantissa exponent ∧
        size = mantissa * 2 ^ exponent := by
  rw [shapeOf_eq]
  obtain ⟨sign, unpacked, rfl⟩ | ⟨mantissa, exponent, positive, unpacked, -, rfl⟩ := sized.cases_coe
  · rw [unpacked]
    cases sign with
    | negative => exact .inl ⟨rfl, rfl⟩
    | positive => exact .inr ⟨0, -1074, rfl, by rw [Nat.cast_zero, zero_mul]⟩
  · rw [unpacked]
    exact .inr ⟨mantissa, exponent, rfl, rfl⟩

/-! ### Bits -/

/-- The bits of a finite double can be computed from its parts. A leading one, which is not stored, carries
over into the exponent field. -/
theorem bits_eq_of_shape {bits : Nat} {negative : Bool} {mantissa : Nat} {exponent : Int}
    (fits : bits < 2 ^ 64) (shape : double.shape bits = .finite negative mantissa exponent) :
    bits = negative.toNat * 2 ^ 63 + (exponent + 1074).toNat * 2 ^ 52 + mantissa := by
  have sign (count : Nat) : (count % 2 == 1).toNat = count % 2 := by
    obtain even | odd := Nat.mod_two_eq_zero_or_one count
    · rw [even]; rfl
    · rw [odd]; rfl
  have fractions : double.fractions = 2 ^ 52 := rfl
  unfold Format.shape at shape
  rw [fractions, show double.exponentValues = 2048 from rfl,
    show double.leastExponent = -1074 from rfl] at shape
  dsimp only at shape
  split_ifs at shape <;> injection shape with sameSign sameMantissa sameExponent <;>
    rw [← sameSign, sign] <;> omega

theorem eq_of_shapeOf_eq {value other : Float} {negative : Bool} {mantissa : Nat} {exponent : Int}
    (shape : shapeOf value = .finite negative mantissa exponent)
    (otherShape : shapeOf other = .finite negative mantissa exponent) : value = other := by
  obtain ⟨⟨bits, valid⟩⟩ := value
  obtain ⟨⟨otherBits, otherValid⟩⟩ := other
  have same : bits.toNat = otherBits.toNat :=
    (bits_eq_of_shape bits.toNat_lt shape).trans (bits_eq_of_shape otherBits.toNat_lt otherShape).symm
  obtain rfl := UInt64.toNat_inj.mp same
  rfl

/-- Doubles of the same size are the same, unless it is zero, which has a sign. -/
theorem HasSize.inj {value other : Float} {size : ℚ} (sized : HasSize value size)
    (otherSized : HasSize other size) (positive : 0 < size) : value = other := by
  have notBelow : ¬ value < other := fun below => lt_irrefl _ ((sized.lt_iff otherSized).mp below)
  have notAbove : ¬ other < value := fun above => lt_irrefl _ ((otherSized.lt_iff sized).mp above)
  obtain ⟨_, _, rfl⟩ | ⟨mantissa, exponent, _, unpacked, -⟩ := sized.cases_coe
  · exact absurd positive (lt_irrefl 0)
  obtain ⟨_, _, rfl⟩ | ⟨otherMantissa, otherExponent, _, otherUnpacked, -⟩ := otherSized.cases_coe
  · exact absurd positive (lt_irrefl 0)
  rw [Number.lt_iff, rank?, rank?, unpacked, otherUnpacked] at notBelow notAbove
  dsimp only [unpackedRank?] at notBelow notAbove
  simp only [ranked_some_iff, Rank.Below, true_and] at notBelow notAbove
  obtain ⟨rfl, rfl⟩ : exponent = otherExponent ∧ mantissa = otherMantissa := by omega
  exact eq_of_shapeOf_eq (by rw [shapeOf_eq, unpacked]; rfl)
    (by rw [shapeOf_eq, otherUnpacked]; rfl)

/-! ### Quotients -/

/-- A quotient is rounded to the nearest whole number, halves to even. -/
theorem roundDiv_toEven (numerator : Nat) {denominator : Nat} (positive : 0 < denominator) :
    (roundDiv .toEven numerator denominator : Int) = nearest (numerator / denominator : ℚ) := by
  have floor := Rat.floor_natCast_div_natCast numerator denominator
  have rest : Int.fract (numerator / denominator : ℚ) =
      (numerator % denominator : Nat) / denominator := Int.fract_div_natCast_eq_div_natCast_mod
  have whole : (0 : ℚ) < denominator := Nat.cast_pos.mpr positive
  have small := Nat.mod_lt numerator positive
  have low : Int.fract (numerator / denominator : ℚ) < 1 / 2 ↔
      numerator % denominator < denominator - numerator % denominator := by
    rw [rest, div_lt_div_iff₀ whole two_pos]
    norm_cast
    omega
  have high : 1 / 2 < Int.fract (numerator / denominator : ℚ) ↔
      denominator - numerator % denominator < numerator % denominator := by
    rw [rest, div_lt_div_iff₀ two_pos whole]
    norm_cast
    omega
  unfold nearest roundDiv Tie.goesUp
  simp only [low, high, floor]
  rw [← Int.natCast_ediv]
  generalize numerator / denominator = quotient
  generalize numerator % denominator = below
  generalize denominator - below = above
  obtain less | rfl | more := Nat.lt_trichotomy below above
  · rw [if_neg (by simp [less.ne, less.le]), if_pos less]
  · rw [if_pos rfl, if_neg (Nat.lt_irrefl _), if_neg (Nat.lt_irrefl _)]
    simp only [beq_iff_eq]
    split_ifs <;> omega
  · rw [if_pos (by simp [more.ne', more]), if_neg more.asymm, if_pos more]
    rfl

/-- The value of a mantissa with an exponent, as a quotient of whole numbers. -/
theorem ratio_value (count : Nat) (binary : Int) :
    0 < (ratio count binary 0).2 ∧
      ((ratio count binary 0).1 / (ratio count binary 0).2 : ℚ) = count * 2 ^ binary := by
  have powers : (2 ^ binary.toNat / 2 ^ (-binary).toNat : ℚ) = 2 ^ binary := by
    rw [← zpow_natCast, ← zpow_natCast, ← zpow_sub₀ two_ne_zero]
    congr 1
    omega
  show 0 < 2 ^ (-binary).toNat * 1 ∧
    ((count * 2 ^ binary.toNat * 1 : Nat) / (2 ^ (-binary).toNat * 1 : Nat) : ℚ) = _
  refine ⟨by positivity, ?_⟩
  rw [← powers]
  push_cast
  ring

end Triage.Number
