/-
This file proves that the arithmetic of doubles rounds as it should. An operation computes a mantissa
that may be too long, with two bits for what is left over, shifts it to the right until it fits and
goes to the nearest mantissa then. The two bits always know on which side of a half the rest is, so
that what comes out is the nearest whole number of units.

Packed into bits a double is unpacked again as it was, or as infinite when its exponent is too great.
-/

import Triage.Proofs.Number.Nearest

namespace Triage.Number

open Float.Model Float.Model.UnpackedFloat

/-! ### Mantissas with two more bits -/

/-- What a mantissa with its two bits knows of a value. -/
def Represents (extended : ExtendedMantissa) (value : ℚ) : Prop :=
  match extended with
  | ⟨mantissa, false, false⟩ => value = mantissa
  | ⟨mantissa, false, true⟩ => mantissa < value ∧ value < mantissa + 1 / 2
  | ⟨mantissa, true, false⟩ => value = mantissa + 1 / 2
  | ⟨mantissa, true, true⟩ => mantissa + 1 / 2 < value ∧ value < mantissa + 1

namespace Represents

variable {extended : ExtendedMantissa} {value : ℚ}

theorem floor_eq (represents : Represents extended value) : ⌊value⌋ = extended.mantissa := by
  rw [Int.floor_eq_iff]
  rcases extended with ⟨mantissa, _ | _, _ | _⟩ <;> simp only [Represents] at represents <;>
    push_cast <;> constructor <;> linarith

theorem nearest_eq (represents : Represents extended value) :
    nearest value = extended.roundedMantissa := by
  have floor := represents.floor_eq
  have fraction : Int.fract value = value - extended.mantissa := by
    rw [Int.fract, floor, Int.cast_natCast]
  unfold nearest
  rw [fraction, floor]
  rcases extended with ⟨mantissa, _ | _, _ | _⟩ <;> simp only [Represents] at represents <;>
    simp only [ExtendedMantissa.roundedMantissa, ExtendedMantissa.accuracy,
      Accuracy.roundToNearestEven] <;>
    split_ifs <;> first | rfl | exfalso; linarith

theorem shiftRightOne (represents : Represents extended value) :
    Represents extended.shiftRightOne (value / 2) := by
  have parts : (extended.mantissa : ℚ) =
      2 * (extended.mantissa / 2 : Nat) + (extended.mantissa % 2 : Nat) := by
    exact_mod_cast (Nat.div_add_mod extended.mantissa 2).symm
  -- The bit that is shifted out says on which side of a half the rest is.
  obtain last | last := Nat.mod_two_eq_zero_or_one extended.mantissa <;>
    rcases extended with ⟨mantissa, _ | _, _ | _⟩ <;> simp only at parts last <;>
    rw [last] at parts <;> push_cast at parts <;>
    simp only [ExtendedMantissa.shiftRightOne, last, Represents, Nat.reduceBNe, Bool.or_false,
      bne_self_eq_false] at represents ⊢ <;>
    first | linarith | constructor <;> linarith

theorem shiftRight (represents : Represents extended value) (count : Nat) :
    Represents (extended >>> count) (value / 2 ^ count) := by
  induction count with
  | zero =>
    rw [pow_zero, div_one]
    exact represents
  | succ count inductionHypothesis =>
    have next := inductionHypothesis.shiftRightOne
    rw [div_div, ← pow_succ] at next
    exact next

end Represents

/-! ### Shifting -/

theorem targetExponent_eq (mantissa : Nat) (exponent : Int) :
    Format.binary64.targetExponent (totalExponent mantissa exponent) =
      max (mantissa.log2 + exponent - 52) (-1074) := by
  show max ((mantissa.log2 : Int) + 1 + exponent - 53) (-1074) = _
  omega

theorem log_eq {value : ℚ} {exponent : Int} (low : 2 ^ exponent ≤ value)
    (high : value < 2 ^ (exponent + 1)) : Int.log 2 value = exponent := by
  have positive := (two_zpow_pos exponent).trans_le low
  have least := (Int.zpow_le_iff_le_log Nat.one_lt_two positive).mp low
  have greatest := (Int.lt_zpow_iff_log_lt Nat.one_lt_two positive).mp high
  omega

/-- The exponent that a mantissa is shifted to is that of the units of its value, unless it would
have to be shifted to the left. -/
theorem unitExponent_eq {extended : ExtendedMantissa} {value : ℚ}
    (represents : Represents extended value) (positive : 0 < value) {exponent : Int}
    (ready : exponent ≤ max (extended.mantissa.log2 + exponent - 52) (-1074)) :
    unitExponent (value * 2 ^ exponent) = max (extended.mantissa.log2 + exponent - 52) (-1074) := by
  have low := Int.floor_le value
  have high := Int.lt_floor_add_one value
  rw [represents.floor_eq, Int.cast_natCast] at low high
  obtain none | some := extended.mantissa.eq_zero_or_pos
  · -- Less than one unit is left, which can only be the smallest one.
    rw [none, Nat.cast_zero, zero_add] at high
    have log : Int.log 2 (value * 2 ^ exponent) < exponent := by
      refine (Int.lt_zpow_iff_log_lt Nat.one_lt_two (mul_pos positive (two_zpow_pos _))).mp ?_
      exact mul_lt_of_lt_one_left (two_zpow_pos exponent) high
    rw [none, Nat.log2_zero] at ready ⊢
    unfold unitExponent
    omega
  · have length : (2 ^ extended.mantissa.log2 : ℚ) ≤ extended.mantissa := by
      exact_mod_cast Nat.log2_self_le some.ne'
    have limit : (extended.mantissa + 1 : ℚ) ≤ 2 ^ (extended.mantissa.log2 + 1) := by
      exact_mod_cast Nat.lt_log2_self
    have log : Int.log 2 (value * 2 ^ exponent) = extended.mantissa.log2 + exponent := by
      apply log_eq
      · rw [← two_pow_mul_zpow]
        exact mul_le_mul_of_nonneg_right (length.trans low) (two_zpow_pos exponent).le
      · rw [add_right_comm, ← Nat.cast_succ, ← two_pow_mul_zpow]
        exact mul_lt_mul_of_pos_right (high.trans_le limit) (two_zpow_pos exponent)
    unfold unitExponent
    rw [log]

/-! ### Packing -/

/-- A mantissa and an exponent are as a double has them, but that the exponent may be too great. -/
structure IsCanonical (mantissa : Nat) (exponent : Int) : Prop where
  narrow : mantissa < 2 ^ 53
  least : -1074 ≤ exponent
  full : 2 ^ 52 ≤ mantissa ∨ exponent = -1074

/-- The double with a sign, an exponent field and the stored bits of a mantissa. -/
def assembled (sign : Sign) (field : BitVec 11) (fraction : BitVec 52) : UnpackedFloat :=
  if field = -1#11 then if fraction = 0#52 then .infinity sign else .notANumber
  else if field = 0#11 then
    if positive : 0 < fraction.toNat then .finite sign fraction.toNat (-1074) positive
    else .zero sign
  else .finite sign (2 ^ 52 + fraction.toNat) (field.toNat - 1075) (by omega)

/-- What a sign, an exponent field and the stored bits of a mantissa are assembled to. -/
inductive Assembles (sign : Sign) (field : BitVec 11) (fraction : BitVec 52) : UnpackedFloat → Prop
  | infinity (last : field.toNat = 2047) (none : fraction.toNat = 0) :
      Assembles sign field fraction (.infinity sign)
  | notANumber (last : field.toNat = 2047) (some : fraction.toNat ≠ 0) :
      Assembles sign field fraction .notANumber
  | zero (first : field.toNat = 0) (none : fraction.toNat = 0) :
      Assembles sign field fraction (.zero sign)
  | least (first : field.toNat = 0) (positive : 0 < fraction.toNat) :
      Assembles sign field fraction (.finite sign fraction.toNat (-1074) positive)
  | full (notFirst : field.toNat ≠ 0) (notLast : field.toNat ≠ 2047)
      (positive : 0 < 2 ^ 52 + fraction.toNat) :
      Assembles sign field fraction
        (.finite sign (2 ^ 52 + fraction.toNat) (field.toNat - 1075) positive)

theorem assembles (sign : Sign) (field : BitVec 11) (fraction : BitVec 52) :
    Assembles sign field fraction (assembled sign field fraction) := by
  have isLast : field = -1#11 ↔ field.toNat = 2047 := BitVec.toNat_inj.symm
  have isFirst : field = 0#11 ↔ field.toNat = 0 := BitVec.toNat_inj.symm
  have isNone : fraction = 0#52 ↔ fraction.toNat = 0 := BitVec.toNat_inj.symm
  unfold assembled
  by_cases last : field = -1#11
  · rw [if_pos last]
    by_cases none : fraction = 0#52
    · rw [if_pos none]
      exact .infinity (isLast.mp last) (isNone.mp none)
    · rw [if_neg none]
      exact .notANumber (isLast.mp last) (mt isNone.mpr none)
  · rw [if_neg last]
    by_cases first : field = 0#11
    · rw [if_pos first]
      by_cases positive : 0 < fraction.toNat
      · rw [dif_pos positive]
        exact .least (isFirst.mp first) positive
      · rw [dif_neg positive]
        exact .zero (isFirst.mp first) (Nat.eq_zero_of_not_pos positive)
    · rw [if_neg first]
      exact .full (mt isFirst.mpr first) (mt isLast.mpr last) _

theorem finite_congr {sign : Sign} {mantissa otherMantissa : Nat} {exponent otherExponent : Int}
    {positive : 0 < mantissa} {otherPositive : 0 < otherMantissa} (same : mantissa = otherMantissa)
    (sameExponent : exponent = otherExponent) :
    UnpackedFloat.finite sign mantissa exponent positive =
      .finite sign otherMantissa otherExponent otherPositive := by
  subst same sameExponent
  rfl

theorem unpack_eq (bits : BitVec 64) :
    UnpackedFloat.unpack .binary64 bits =
      assembled (.ofBitVec (@unpackSign .binary64 bits))
        (@unpackExponent .binary64 bits) (@unpackMantissa .binary64 bits) := by
  have leading (fraction : BitVec 52) : (1#1 ++ fraction).toNat = 2 ^ 52 + fraction.toNat := by
    rw [BitVec.toNat_append, ← Nat.shiftLeft_add_eq_or_of_lt fraction.isLt]
    rfl
  have zero (fraction : BitVec 52) : fraction = 0#52 ↔ ¬ 0 < fraction.toNat := by
    rw [← BitVec.toNat_inj, BitVec.toNat_zero]
    omega
  unfold UnpackedFloat.unpack assembled
  refine if_ctx_congr Iff.rfl (fun _ => rfl) fun _ =>
    if_ctx_congr Iff.rfl (fun least => ?_) fun _ => finite_congr (leading _) rfl
  by_cases positive : 0 < (@unpackMantissa .binary64 bits).toNat
  · rw [dif_pos positive, dif_neg (mt (zero _).mp (not_not_intro positive))]
    exact finite_congr rfl (by rw [least]; rfl)
  · rw [dif_neg positive, dif_pos ((zero _).mpr positive)]

theorem unpack_packComponents (sign : Sign) (field : BitVec 11) (fraction : BitVec 52) :
    UnpackedFloat.unpack .binary64 (packComponents .binary64 sign field fraction) =
      assembled sign field fraction := by
  have leading : unpackSign (packComponents .binary64 sign field fraction) = sign.toBitVec := by
    show BitVec.extractLsb' 63 1 (sign.toBitVec ++ field ++ fraction) = sign.toBitVec
    rw [BitVec.extractLsb'_append_eq_of_le (by decide)]
    exact BitVec.extractLsb'_append_eq_left
  have same : Sign.ofBitVec sign.toBitVec = sign := by cases sign <;> rfl
  rw [unpack_eq, unpackMantissa_packComponents, unpackExponent_packComponents, leading, same]

/-- What is unpacked is as a double has it. -/
theorem isCanonical_of_unpack {bits : Float.Model} {sign : Sign} {mantissa : Nat} {exponent : Int}
    {positive : 0 < mantissa} (unpacked : bits.unpack = .finite sign mantissa exponent positive) :
    IsCanonical mantissa exponent ∧ exponent ≤ 971 := by
  unfold Float.Model.unpack at unpacked
  rw [unpack_eq] at unpacked
  generalize @unpackMantissa .binary64 bits.toBits.toBitVec = fraction at unpacked
  generalize @unpackExponent .binary64 bits.toBits.toBitVec = field at unpacked
  have narrow : fraction.toNat < 2 ^ 52 := fraction.isLt
  have limit : field.toNat < 2048 := field.isLt
  have parts := assembles (.ofBitVec (@unpackSign .binary64 bits.toBits.toBitVec)) field fraction
  rw [unpacked] at parts
  cases parts with
  | least => exact ⟨⟨by omega, by omega, by omega⟩, by omega⟩
  | full => exact ⟨⟨by omega, by omega, by omega⟩, by omega⟩

/-- The exponent as it is packed. -/
theorem biased_eq {exponent : Int} (least : -1074 ≤ exponent) :
    ∃ biased : Nat, exponent + Format.binary64.exponentBias + (52 : Nat) = biased ∧
      exponent = biased - 1075 := by
  obtain ⟨biased, same⟩ := Int.eq_ofNat_of_zero_le (show 0 ≤ exponent + 1075 by omega)
  refine ⟨biased, ?_, by omega⟩
  rw [← same]
  show exponent + (1023 : Nat) + (52 : Nat) = exponent + 1075
  omega

theorem unpack_pack {mantissa : Nat} {exponent : Int} (canonical : IsCanonical mantissa exponent)
    (positive : 0 < mantissa) (sign : Sign) :
    (Float.Model.pack (.finite sign mantissa exponent positive)).unpack =
      if exponent ≤ 971 then .finite sign mantissa exponent positive else .infinity sign := by
  obtain ⟨narrow, least, full⟩ := canonical
  obtain ⟨biased, same, rfl⟩ := biased_eq least
  show UnpackedFloat.unpack .binary64 (UnpackedFloat.pack .binary64 _) = _
  rw [UnpackedFloat.pack.eq_def]
  dsimp only
  rw [same, Int.toNat_natCast, show 2 ^ Format.binary64.exponentBits = 2048 from rfl]
  by_cases large : (biased : Int) - 1075 ≤ 971
  · have field : (BitVec.ofNat 11 biased).toNat = biased := Nat.mod_eq_of_lt (by omega)
    rw [if_pos large, if_neg (by omega)]
    by_cases normal : 2 ^ 52 ≤ mantissa
    · have length : mantissa.log2 = 52 := (Nat.log2_eq_iff positive.ne').mpr ⟨normal, narrow⟩
      have fraction : 2 ^ 52 + (BitVec.ofNat 52 mantissa).toNat = mantissa := by
        rw [BitVec.toNat_ofNat]
        omega
      have notLast : BitVec.ofNat 11 biased ≠ -1#11 := fun last => by
        have : biased = 2047 := field.symm.trans (congrArg BitVec.toNat last)
        omega
      have notFirst : BitVec.ofNat 11 biased ≠ 0#11 := fun first => by
        have : biased = 0 := field.symm.trans (congrArg BitVec.toNat first)
        omega
      rw [if_pos (by rw [length]; rfl), unpack_packComponents, assembled, if_neg notLast,
        if_neg notFirst]
      exact finite_congr fraction (by rw [field])
    · have length : mantissa.log2 + 1 ≠ Format.binary64.mantissaBits := by
        have : mantissa.log2 < 52 := (Nat.log2_lt positive.ne').mpr (Nat.lt_of_not_le normal)
        show mantissa.log2 + 1 ≠ 53
        omega
      have fraction : (BitVec.ofNat 52 mantissa).toNat = mantissa := Nat.mod_eq_of_lt (by omega)
      have exponent : (biased : Int) - 1075 = -1074 := full.resolve_left normal
      rw [if_neg length, unpack_packComponents, assembled, if_neg (by decide), if_pos rfl,
        dif_pos (positive.trans_eq fraction.symm)]
      exact finite_congr fraction exponent.symm
  · rw [if_neg large, if_pos (by omega)]
    exact unpack_packComponents _ _ _

/-! ### Sizes -/

/-- The value of an unpacked double that is not negative. -/
def unpackedSize? : UnpackedFloat → Option (WithTop ℚ)
  | .infinity .positive => some ⊤
  | .zero _ => some 0
  | .finite .positive mantissa exponent _ => some (mantissa * 2 ^ exponent : ℚ)
  | _ => none

/-- A double is not negative, and this is its value; that of an infinite one is the greatest. -/
def HasSize (value : Float) (size : WithTop ℚ) : Prop :=
  unpackedSize? value.toModel.unpack = some size

/-- A double that has been computed. -/
def packed (unpacked : UnpackedFloat) : Float :=
  .ofModel (.pack unpacked)

theorem hasSize_zero (sign : Sign) : HasSize (packed (.zero sign)) 0 := by
  cases sign <;> rfl

theorem hasSize_infinity : HasSize (packed (.infinity .positive)) ⊤ := rfl

theorem hasSize_finite {mantissa : Nat} {exponent : Int} (canonical : IsCanonical mantissa exponent)
    (positive : 0 < mantissa) :
    HasSize (packed (.finite .positive mantissa exponent positive))
      (held (mantissa * 2 ^ exponent)) := by
  show unpackedSize? (Float.Model.pack _).unpack = _
  rw [unpack_pack canonical, held]
  by_cases finite : exponent ≤ 971
  · rw [if_pos finite, if_pos (IsDouble.lt ⟨_, _, canonical.narrow, canonical.least, finite, rfl⟩)]
    rfl
  · have full : 2 ^ 52 ≤ mantissa := canonical.full.resolve_right (by omega)
    have large : (2 ^ 1024 : ℚ) ≤ mantissa * 2 ^ exponent :=
      calc (2 ^ 1024 : ℚ)
        _ = 2 ^ (1024 : Int) := (zpow_natCast 2 1024).symm
        _ ≤ 2 ^ ((52 : Nat) + exponent) := zpow_le_zpow_right₀ one_le_two (by omega)
        _ = 2 ^ 52 * 2 ^ exponent := (two_pow_mul_zpow 52 exponent).symm
        _ ≤ mantissa * 2 ^ exponent := by
          exact mul_le_mul_of_nonneg_right (by exact_mod_cast full) (two_zpow_pos exponent).le
    rw [if_neg finite, if_neg large.not_gt]
    rfl

theorem shiftToTargetExponent_eq (accuracy : Accuracy) {mantissa shift : Nat} {exponent : Int}
    (count : (max (mantissa.log2 + exponent - 52) (-1074) - exponent).toNat = shift) :
    shiftToTargetExponent .binary64 mantissa exponent accuracy =
      (ExtendedMantissa.ofMantissaAndAccuracy mantissa accuracy >>> shift, exponent + shift) := by
  rw [← count, ← targetExponent_eq]
  rfl

/-- After rounding a mantissa is shifted again, which matters when it has become too long. -/
theorem shift_rounded {mantissa : Nat} {exponent : Int} (narrow : mantissa ≤ 2 ^ 53)
    (least : -1074 ≤ exponent) :
    shiftToTargetExponent .binary64 mantissa exponent .exact =
      if mantissa < 2 ^ 53 then (⟨mantissa, false, false⟩, exponent)
      else (⟨2 ^ 52, false, false⟩, exponent + 1) := by
  split
  · rename_i short
    have length : mantissa.log2 ≤ 52 := by
      obtain rfl | positive := mantissa.eq_zero_or_pos
      · decide
      · exact Nat.le_of_lt_succ ((Nat.log2_lt positive.ne').mpr short)
    have still : (max (mantissa.log2 + exponent - 52) (-1074) - exponent).toNat = 0 := by omega
    rw [shiftToTargetExponent_eq _ still, Nat.cast_zero, add_zero]
    rfl
  · obtain rfl : mantissa = 2 ^ 53 := by omega
    have once : (max ((2 ^ 53 : Nat).log2 + exponent - 52) (-1074) - exponent).toNat = 1 := by
      rw [Nat.log2_two_pow]
      omega
    rw [shiftToTargetExponent_eq _ once]
    rfl

/-- A rounded mantissa that may be one too long is packed as its value. -/
theorem hasSize_rounded {mantissa : Nat} {exponent : Int} (narrow : mantissa ≤ 2 ^ 53)
    (least : -1074 ≤ exponent) (full : 2 ^ 52 ≤ mantissa ∨ exponent = -1074) :
    let shifted := shiftToTargetExponent .binary64 mantissa exponent .exact
    HasSize
      (packed (if none : shifted.1.mantissa = 0 then .zero .positive
        else .finite .positive shifted.1.mantissa shifted.2 (Nat.pos_of_ne_zero none)))
      (held (mantissa * 2 ^ exponent)) := by
  intro shifted
  have same : shifted = if mantissa < 2 ^ 53 then (⟨mantissa, false, false⟩, exponent)
      else (⟨2 ^ 52, false, false⟩, exponent + 1) := shift_rounded narrow least
  clear_value shifted
  by_cases short : mantissa < 2 ^ 53
  · rw [if_pos short] at same
    subst same
    by_cases none : mantissa = 0
    · rw [dif_pos none, none, Nat.cast_zero, zero_mul, held, if_pos (by positivity)]
      exact hasSize_zero .positive
    · rw [dif_neg none]
      exact hasSize_finite ⟨short, least, full⟩ _
  · rw [if_neg short] at same
    subst same
    dsimp only
    obtain rfl : mantissa = 2 ^ 53 := by omega
    have canonical : IsCanonical (2 ^ 52) (exponent + 1) :=
      ⟨by decide, by omega, Or.inl le_rfl⟩
    have value : ((2 ^ 52 : Nat) * 2 ^ (exponent + 1) : ℚ) = (2 ^ 53 : Nat) * 2 ^ exponent := by
      rw [zpow_add_one₀ two_ne_zero]
      push_cast
      ring
    rw [dif_neg (by decide), ← value]
    exact hasSize_finite canonical _

/-- An exact value that is known well enough is rounded to the nearest double. -/
theorem hasSize_roundWithAccuracy {mantissa : Nat} {accuracy : Accuracy} {value : ℚ}
    (represents : Represents (.ofMantissaAndAccuracy mantissa accuracy) value) (positive : 0 < value)
    {exponent : Int} (ready : 52 ≤ mantissa.log2 ∨ exponent ≤ -1074) :
    HasSize (packed (roundWithAccuracy .binary64 .positive mantissa exponent accuracy))
      (rounded (value * 2 ^ exponent)) := by
  have own : (ExtendedMantissa.ofMantissaAndAccuracy mantissa accuracy).mantissa = mantissa := by
    rcases accuracy with _ | _ | _ | _ <;> rfl
  obtain ⟨shift, reached⟩ :=
    Int.le.dest (show exponent ≤ max (mantissa.log2 + exponent - 52) (-1074) by omega)
  have count : (max (mantissa.log2 + exponent - 52) (-1074) - exponent).toNat = shift := by omega
  have unit : unitExponent (value * 2 ^ exponent) = exponent + shift := by
    rw [unitExponent_eq represents positive (by rw [own]; omega), own, reached]
  have units : value * 2 ^ exponent / 2 ^ (exponent + shift) = value / 2 ^ shift := by
    rw [zpow_add₀ two_ne_zero, zpow_natCast]
    field_simp
  have whole := (represents.shiftRight shift).nearest_eq
  have narrow := nearest_le (units_le (value * 2 ^ exponent))
  have full (large : -1074 < exponent + shift) := by
    refine le_nearest (le_units (mul_pos positive (two_zpow_pos exponent)) ?_)
    rwa [unit]
  rw [unit, units, whole] at narrow full
  unfold roundWithAccuracy
  rw [shiftToTargetExponent_eq accuracy count]
  unfold rounded
  rw [unit, units, whole, Int.cast_natCast]
  exact hasSize_rounded (by exact_mod_cast narrow) (by omega) (by omega)

theorem hasSize_roundWithAccuracy_exact {mantissa : Nat} (positive : 0 < mantissa) {exponent : Int}
    (ready : 52 ≤ mantissa.log2 ∨ exponent ≤ -1074) :
    HasSize (packed (roundWithAccuracy .binary64 .positive mantissa exponent .exact))
      (rounded (mantissa * 2 ^ exponent)) := by
  have represents : Represents (.ofMantissaAndAccuracy mantissa .exact) mantissa := rfl
  exact hasSize_roundWithAccuracy represents (by exact_mod_cast positive) ready

theorem log2_shiftLeft {mantissa : Nat} (positive : 0 < mantissa) (shift : Nat) :
    (mantissa <<< shift).log2 = mantissa.log2 + shift := by
  rw [Nat.shiftLeft_eq, Nat.log2_eq_iff (by positivity)]
  refine ⟨?_, ?_⟩
  · rw [pow_add]
    exact Nat.mul_le_mul_right _ (Nat.log2_self_le positive.ne')
  · rw [add_right_comm, pow_add]
    exact Nat.mul_lt_mul_of_pos_right Nat.lt_log2_self (by positivity)

/-- A mantissa that is too short is shifted to the left first. -/
theorem hasSize_round {mantissa : Nat} (positive : 0 < mantissa) (exponent : Int) :
    HasSize (packed (UnpackedFloat.round .binary64 .positive mantissa exponent))
      (rounded (mantissa * 2 ^ exponent)) := by
  unfold UnpackedFloat.round decreaseExponent
  simp only [targetExponent_eq]
  generalize count : (exponent - max (mantissa.log2 + exponent - 52) (-1074)).toNat = shift
  have same : (mantissa * 2 ^ exponent : ℚ) =
      (mantissa <<< shift : Nat) * 2 ^ (exponent - shift) := by
    rw [Nat.shiftLeft_eq, zpow_sub₀ two_ne_zero, zpow_natCast]
    push_cast
    field_simp
  have length := log2_shiftLeft positive shift
  rw [same]
  refine hasSize_roundWithAccuracy_exact (Nat.shiftLeft_pos_iff.mpr positive) ?_
  omega

end Triage.Number
