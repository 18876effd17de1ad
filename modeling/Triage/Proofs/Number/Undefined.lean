/-
This file proves where doubles come from that are not numbers. Rounding always gives a number, if only an
infinite one, and what is packed is unpacked as a number just when it was one. So nothing but infinities
and zeros can lead out of the numbers: a finite double that is not zero can be multiplied with and divided
by, and any finite double can be added to and subtracted from, without a number becoming none. Where one
side is not a number, nothing makes it one again.
-/

import Triage.Proofs.Number.Arithmetic

namespace Triage.Number

open Float.Model Float.Model.UnpackedFloat

/-! ### Packing -/

theorem isNaN_assembled (sign : Sign) (field : BitVec 11) (fraction : BitVec 52)
    (number : field ≠ -1#11 ∨ fraction = 0#52) : (assembled sign field fraction).isNaN = false := by
  have parts := assembles sign field fraction
  generalize assembled sign field fraction = unpacked at parts ⊢
  cases parts with
  | notANumber last some =>
    obtain notLast | none := number
    · exact absurd (BitVec.eq_of_toNat_eq last) notLast
    · exact absurd (congrArg BitVec.toNat none) some
  | infinity | zero | least | full => rfl

/-- What is packed is unpacked as a number just when it was one. -/
theorem isNaN_packed (unpacked : UnpackedFloat) : (packed unpacked).isNaN = unpacked.isNaN := by
  show (UnpackedFloat.unpack .binary64 (UnpackedFloat.pack .binary64 unpacked)).isNaN = _
  cases unpacked with
  | notANumber => rfl
  | infinity sign => cases sign <;> rfl
  | zero sign => cases sign <;> rfl
  | finite sign mantissa exponent positive =>
    show _ = false
    rw [UnpackedFloat.pack.eq_def]
    dsimp only
    generalize (exponent + Format.binary64.exponentBias + (52 : Nat)).toNat = biased
    split_ifs with large normal
    · exact (congrArg UnpackedFloat.isNaN (unpack_packComponents ..)).trans
        (isNaN_assembled _ _ _ (.inr rfl))
    · have small : biased + 1 < 2048 := Nat.lt_of_not_le large
      refine (congrArg UnpackedFloat.isNaN (unpack_packComponents ..)).trans
        (isNaN_assembled _ _ _ (.inl fun last => ?_))
      have field : (BitVec.ofNat 11 biased).toNat = biased := Nat.mod_eq_of_lt (by omega)
      have : biased = 2047 := field.symm.trans (congrArg BitVec.toNat last)
      omega
    · exact (congrArg UnpackedFloat.isNaN (unpack_packComponents ..)).trans
        (isNaN_assembled _ _ _ (.inl (by decide)))

/-! ### Rounding -/

theorem isNaN_roundWithAccuracy (sign : Sign) (mantissa : Nat) (exponent : Int)
    (accuracy : Accuracy) :
    (roundWithAccuracy .binary64 sign mantissa exponent accuracy).isNaN = false := by
  unfold roundWithAccuracy
  exact (apply_dite UnpackedFloat.isNaN _ _ _).trans (ite_self false)

theorem isNaN_normalize (mantissa exponent : Int) (sign : Sign) :
    (UnpackedFloat.normalize .binary64 mantissa exponent sign).isNaN = false := by
  unfold UnpackedFloat.normalize
  split
  · exact isNaN_roundWithAccuracy _ _ _ _
  · rfl
  · exact isNaN_roundWithAccuracy _ _ _ _

/-! ### Operations -/

/-- A double is finite and not zero. -/
def IsProper (value : Float) : Prop :=
  ∃ sign mantissa exponent positive,
    value.toModel.unpack = .finite sign mantissa exponent positive

theorem HasSize.isProper {value : Float} {size : ℚ} (sized : HasSize value size)
    (positive : 0 < size) : IsProper value := by
  obtain ⟨_, -, rfl⟩ | ⟨mantissa, exponent, some, unpacked, -⟩ := sized.cases_coe
  · exact absurd positive (lt_irrefl 0)
  · exact ⟨_, mantissa, exponent, some, unpacked⟩

variable {first second : Float}

theorem isNaN_mul (proper : IsProper second) : (first * second).isNaN = first.isNaN := by
  obtain ⟨sign, mantissa, exponent, positive, unpacked⟩ := proper
  show (packed (UnpackedFloat.mul .binary64 first.toModel.unpack second.toModel.unpack)).isNaN =
    first.toModel.unpack.isNaN
  rw [isNaN_packed, unpacked]
  rcases first.toModel.unpack with _ | _ | _ | _
  · rfl
  · rfl
  · rfl
  · exact isNaN_roundWithAccuracy _ _ _ _

theorem isNaN_div (proper : IsProper second) : (first / second).isNaN = first.isNaN := by
  obtain ⟨sign, mantissa, exponent, positive, unpacked⟩ := proper
  show (packed (UnpackedFloat.div .binary64 first.toModel.unpack second.toModel.unpack)).isNaN =
    first.toModel.unpack.isNaN
  rw [isNaN_packed, unpacked]
  rcases first.toModel.unpack with _ | _ | _ | _
  · rfl
  · rfl
  · rfl
  · exact isNaN_roundWithAccuracy _ _ _ _

theorem isNaN_unpacked_add {one : UnpackedFloat} (finite : one.isFinite = true)
    (two : UnpackedFloat) : (UnpackedFloat.add .binary64 one two).isNaN = two.isNaN := by
  rcases one with _ | _ | sign | ⟨sign, mantissa, exponent, positive⟩
  · exact nomatch finite
  · exact nomatch finite
  · rcases two with _ | _ | other | _
    · rfl
    · rfl
    · cases sign <;> cases other <;> rfl
    · rfl
  · rcases two with _ | _ | _ | _
    · rfl
    · rfl
    · rfl
    · exact isNaN_normalize _ _ _

/-- A difference is the sum with the opposite. -/
theorem unpacked_sub_eq (one two : UnpackedFloat) :
    UnpackedFloat.sub .binary64 one two = UnpackedFloat.add .binary64 one two.neg := by
  rcases one with ⟨_ | _⟩ | _ | ⟨_ | _⟩ | ⟨sign, mantissa, exponent, positive⟩ <;>
    rcases two with ⟨_ | _⟩ | _ | ⟨_ | _⟩ | ⟨_ | _, otherMantissa, otherExponent, _⟩ <;>
    try rfl
  -- Taking away a negative mantissa is left.
  exact congrArg (UnpackedFloat.normalize .binary64 · (min exponent otherExponent) .positive)
    (sub_neg_eq_add _ _)

theorem isNaN_add (finite : first.isFinite = true) : (first + second).isNaN = second.isNaN :=
  (isNaN_packed _).trans (isNaN_unpacked_add finite _)

theorem isNaN_sub (finite : first.isFinite = true) : (first - second).isNaN = second.isNaN := by
  have opposite (unpacked : UnpackedFloat) : unpacked.neg.isNaN = unpacked.isNaN := by
    cases unpacked <;> rfl
  show (packed (UnpackedFloat.sub .binary64 first.toModel.unpack second.toModel.unpack)).isNaN = _
  rw [isNaN_packed, unpacked_sub_eq, isNaN_unpacked_add finite, opposite]
  rfl

end Triage.Number
