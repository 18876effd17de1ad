/-
This file proves that doubles are ordered by their ranks. The rank of a double that is a number says
which of five classes it is in, from the negative infinity to the positive one, and where it stands
among the finite doubles of its sign, first by exponent and then by mantissa. So a comparison of
doubles is a comparison of whole numbers, and what is not a number is less than nothing.
-/

import Triage.Number.Binary

namespace Triage.Number

open Float.Model

/-- The place of a number among the doubles: a class, an exponent and a mantissa. -/
abbrev Rank := Int × Int × Int

namespace Rank

/-- Does one rank stand before another? -/
def Below (first second : Rank) : Prop :=
  first.1 < second.1 ∨ first.1 = second.1 ∧
    (first.2.1 < second.2.1 ∨ first.2.1 = second.2.1 ∧ first.2.2 < second.2.2)

theorem Below.trans {first second third : Rank} (early : first.Below second)
    (late : second.Below third) : first.Below third := by
  unfold Below at *
  omega

theorem Below.asymm {first second : Rank} (below : first.Below second) : ¬ second.Below first := by
  unfold Below at *
  omega

end Rank

/-- The rank of an unpacked double, if it is a number. -/
def unpackedRank? : UnpackedFloat → Option Rank
  | .notANumber => none
  | .infinity .negative => some (0, 0, 0)
  | .finite .negative mantissa exponent _ => some (1, -exponent, -mantissa)
  | .zero _ => some (2, 0, 0)
  | .finite .positive mantissa exponent _ => some (3, exponent, mantissa)
  | .infinity .positive => some (4, 0, 0)

/-- The rank of a double, if it is a number. -/
def rank? (value : Float) : Option Rank :=
  unpackedRank? value.toModel.unpack

/-- Two ranks in their order, if there are both. -/
def Ranked (first second : Option Rank) : Prop :=
  ∃ low high, first = some low ∧ second = some high ∧ low.Below high

theorem ranked_some_iff (low high : Rank) : Ranked (some low) (some high) ↔ low.Below high := by
  simp [Ranked]

theorem not_ranked_none_left (second : Option Rank) : ¬ Ranked none second :=
  fun ⟨_, _, missing, _⟩ => nomatch missing

theorem not_ranked_none_right (first : Option Rank) : ¬ Ranked first none :=
  fun ⟨_, _, _, missing, _⟩ => nomatch missing

theorem unpacked_lt_iff (first second : UnpackedFloat) :
    first.lt second = true ↔ Ranked (unpackedRank? first) (unpackedRank? second) := by
  have signs : compare UnpackedFloat.Sign.negative UnpackedFloat.Sign.positive = .lt := rfl
  unfold UnpackedFloat.lt
  rw [beq_iff_eq]
  -- Within a class the order of whole numbers decides, between classes their own order.
  rcases first with ⟨_ | _⟩ | _ | _ | ⟨_ | _, mantissa, exponent, _⟩ <;>
    rcases second with ⟨_ | _⟩ | _ | _ | ⟨_ | _, otherMantissa, otherExponent, _⟩ <;>
    dsimp only [UnpackedFloat.compare, unpackedRank?] <;>
    simp only [ranked_some_iff, not_ranked_none_left, not_ranked_none_right, Rank.Below, signs,
      Option.some.injEq, Ordering.swap_eq_lt, Ordering.then_eq_lt, Ordering.then_eq_gt,
      Int.compare_eq_lt, Int.compare_eq_gt, Nat.compare_eq_lt, Nat.compare_eq_gt,
      Int.compare_eq_eq] <;>
    first | omega | simp

theorem lt_iff (first second : Float) : first < second ↔ Ranked (rank? first) (rank? second) := by
  rw [rank?, rank?, ← unpacked_lt_iff]
  exact decide_eq_true_iff

theorem lt_trans {first second third : Float} (early : first < second) (late : second < third) :
    first < third := by
  rw [lt_iff] at early late ⊢
  obtain ⟨low, middle, lowRank, middleRank, below⟩ := early
  obtain ⟨other, high, otherRank, highRank, above⟩ := late
  obtain rfl : middle = other := Option.some.inj (middleRank.symm.trans otherRank)
  exact ⟨low, high, lowRank, highRank, below.trans above⟩

theorem not_lt_of_lt {first second : Float} (less : first < second) : ¬ second < first := by
  rw [lt_iff] at less ⊢
  rintro ⟨other, high, otherRank, highRank, above⟩
  obtain ⟨low, middle, lowRank, middleRank, below⟩ := less
  obtain rfl : middle = other := Option.some.inj (middleRank.symm.trans otherRank)
  obtain rfl : low = high := Option.some.inj (lowRank.symm.trans highRank)
  exact below.asymm above

end Triage.Number
