/-
This file proves that the comparisons of doubles agree with each other. A comparison finds nothing
only where one side is not a number, and otherwise one of three answers, of which each excludes the
others. So among doubles that are not negative all comparisons are those of magnitudes, which are
totally ordered, and what is sorted or searched by doubles can be reasoned about by magnitudes.
-/

import Triage.Proofs.Number.Arithmetic

namespace Triage.Number

open Float.Model

/-! ### The answers of a comparison -/

theorem unpacked_compare_eq_none_iff (first second : UnpackedFloat) :
    first.compare second = none ↔ unpackedRank? first = none ∨ unpackedRank? second = none := by
  rcases first with ⟨_ | _⟩ | _ | _ | ⟨_ | _, mantissa, exponent, _⟩ <;>
    rcases second with ⟨_ | _⟩ | _ | _ | ⟨_ | _, otherMantissa, otherExponent, _⟩ <;>
    dsimp only [UnpackedFloat.compare, unpackedRank?] <;> simp

theorem unpacked_gt_iff (first second : UnpackedFloat) :
    first.compare second = some .gt ↔ Ranked (unpackedRank? second) (unpackedRank? first) := by
  have signs : compare UnpackedFloat.Sign.positive UnpackedFloat.Sign.negative = .gt := rfl
  rcases first with ⟨_ | _⟩ | _ | _ | ⟨_ | _, mantissa, exponent, _⟩ <;>
    rcases second with ⟨_ | _⟩ | _ | _ | ⟨_ | _, otherMantissa, otherExponent, _⟩ <;>
    dsimp only [UnpackedFloat.compare, unpackedRank?] <;>
    simp only [ranked_some_iff, not_ranked_none_left, not_ranked_none_right, Rank.Below, signs,
      Option.some.injEq, Ordering.swap_eq_gt, Ordering.then_eq_lt, Ordering.then_eq_gt,
      Int.compare_eq_lt, Int.compare_eq_gt, Nat.compare_eq_lt, Nat.compare_eq_gt,
      Int.compare_eq_eq] <;>
    first | omega | (simp <;> omega)

/-- What an answer says about two doubles. -/
inductive Compared (first second : Float) : Option Ordering → Prop where
  | absent (missing : rank? first = none ∨ rank? second = none) : Compared first second none
  | less (ranked : (rank? first).isSome = true ∧ (rank? second).isSome = true)
      (below : first < second) : Compared first second (some .lt)
  | same (ranked : (rank? first).isSome = true ∧ (rank? second).isSome = true)
      (notBelow : ¬ first < second) (notAbove : ¬ second < first) : Compared first second (some .eq)
  | greater (ranked : (rank? first).isSome = true ∧ (rank? second).isSome = true)
      (above : second < first) : Compared first second (some .gt)

theorem compared (first second : Float) :
    Compared first second (first.toModel.unpack.compare second.toModel.unpack) := by
  have missing := unpacked_compare_eq_none_iff first.toModel.unpack second.toModel.unpack
  have above := (unpacked_gt_iff first.toModel.unpack second.toModel.unpack).trans
    (lt_iff second first).symm
  have below : first.toModel.unpack.compare second.toModel.unpack = some .lt ↔ first < second := by
    rw [lt_iff, rank?, rank?, ← unpacked_lt_iff, UnpackedFloat.lt, beq_iff_eq]
  generalize first.toModel.unpack.compare second.toModel.unpack = answer at *
  cases answer with
  | none => exact .absent (missing.mp rfl)
  | some order =>
    have ranked : (rank? first).isSome = true ∧ (rank? second).isSome = true := by
      rw [← Option.ne_none_iff_isSome, ← Option.ne_none_iff_isSome, ← not_or]
      exact fun absent => absurd (missing.mpr absent) (Option.some_ne_none order)
    cases order with
    | lt => exact .less ranked (below.mp rfl)
    | eq =>
      exact .same ranked (fun less => absurd (below.mpr less) (by decide))
        fun more => absurd (above.mpr more) (by decide)
    | gt => exact .greater ranked (above.mp rfl)

theorem not_ranked_of_missing {first second : Float}
    (missing : rank? first = none ∨ rank? second = none) :
    ¬ ((rank? first).isSome = true ∧ (rank? second).isSome = true) := by
  rintro ⟨firstRanked, secondRanked⟩
  obtain none | none := missing
  · exact absurd firstRanked (by rw [none]; decide)
  · exact absurd secondRanked (by rw [none]; decide)

theorem le_iff (first second : Float) : first ≤ second ↔
    ((rank? first).isSome = true ∧ (rank? second).isSome = true) ∧ ¬ second < first := by
  have unfolded : first ≤ second ↔
      (first.toModel.unpack.compare second.toModel.unpack).any (·.isLE) = true := decide_eq_true_iff
  have answered := compared first second
  rw [unfolded]
  generalize first.toModel.unpack.compare second.toModel.unpack = answer at answered ⊢
  cases answered with
  | absent missing => exact iff_of_false nofun fun ⟨ranked, _⟩ => not_ranked_of_missing missing ranked
  | less ranked below => exact iff_of_true rfl ⟨ranked, not_lt_of_lt below⟩
  | same ranked _ notAbove => exact iff_of_true rfl ⟨ranked, notAbove⟩
  | greater _ above => exact iff_of_false nofun fun ⟨_, notAbove⟩ => notAbove above

theorem beq_iff (first second : Float) :
    (first == second) = true ↔ first ≤ second ∧ second ≤ first := by
  have unfolded : (first == second) =
      (first.toModel.unpack.compare second.toModel.unpack == some .eq) := rfl
  have answered := compared first second
  rw [unfolded, beq_iff_eq, le_iff, le_iff]
  generalize first.toModel.unpack.compare second.toModel.unpack = answer at answered ⊢
  cases answered with
  | absent missing =>
    exact iff_of_false nofun fun ⟨⟨ranked, _⟩, _⟩ => not_ranked_of_missing missing ranked
  | less _ below => exact iff_of_false nofun fun ⟨_, _, notBelow⟩ => notBelow below
  | same ranked notBelow notAbove =>
    exact iff_of_true rfl ⟨⟨ranked, notAbove⟩, ranked.symm, notBelow⟩
  | greater _ above => exact iff_of_false nofun fun ⟨⟨_, notAbove⟩, _⟩ => notAbove above

/-! ### The order of numbers -/

theorem isSome_rank?_iff (value : Float) :
    (rank? value).isSome = true ↔ value.isNaN = false := by
  have unfolded : value.isNaN = value.toModel.unpack.isNaN := rfl
  rw [unfolded, rank?]
  rcases value.toModel.unpack with ⟨_ | _⟩ | _ | _ | ⟨_ | _, mantissa, exponent, _⟩ <;>
    first | exact iff_of_true rfl rfl | exact iff_of_false Bool.false_ne_true Bool.false_ne_true.symm

theorem not_lt_self (value : Float) : ¬ value < value :=
  fun below => not_lt_of_lt below below

theorem not_isNaN_of_lt {first second : Float} (below : first < second) :
    first.isNaN = false ∧ second.isNaN = false := by
  obtain ⟨low, high, lowRank, highRank, -⟩ := (Number.lt_iff first second).mp below
  exact ⟨(isSome_rank?_iff first).mp (lowRank ▸ rfl), (isSome_rank?_iff second).mp (highRank ▸ rfl)⟩

/-- What is not a number is less than nothing. -/
theorem not_lt_of_isNaN_left {first second : Float} (undefined : first.isNaN = true) :
    ¬ first < second :=
  fun below => absurd (undefined.symm.trans (not_isNaN_of_lt below).1) (by decide)

theorem not_lt_of_isNaN_right {first second : Float} (undefined : second.isNaN = true) :
    ¬ first < second :=
  fun below => absurd (undefined.symm.trans (not_isNaN_of_lt below).2) (by decide)

/-- Of two numbers one is at most the other. -/
theorem le_of_not_lt {first second : Float} (firstNumber : first.isNaN = false)
    (secondNumber : second.isNaN = false) (notBelow : ¬ first < second) : second ≤ first :=
  (le_iff second first).mpr ⟨⟨(isSome_rank?_iff second).mpr secondNumber,
    (isSome_rank?_iff first).mpr firstNumber⟩, notBelow⟩

theorem lt_of_le_of_lt {first second third : Float} (atMost : first ≤ second)
    (below : second < third) : first < third := by
  obtain ⟨⟨firstRanked, _⟩, notAbove⟩ := (le_iff first second).mp atMost
  rw [lt_iff] at below notAbove ⊢
  obtain ⟨middle, high, middleRank, highRank, below⟩ := below
  obtain ⟨low, lowRank⟩ := Option.isSome_iff_exists.mp firstRanked
  rw [lowRank, middleRank, ranked_some_iff] at notAbove
  refine ⟨low, high, lowRank, highRank, ?_⟩
  unfold Rank.Below at *
  omega

/-! ### Magnitudes -/

/-- The size of a double; one that has none counts as zero. -/
def magnitude (value : Float) : WithTop ℚ :=
  (unpackedSize? value.toModel.unpack).getD 0

/-- A double is a number that is not negative. -/
def IsSized (value : Float) : Prop :=
  ∃ size, HasSize value size

variable {value first second : Float}

theorem HasSize.isSized {size : WithTop ℚ} (sized : HasSize value size) : IsSized value :=
  ⟨size, sized⟩

theorem HasSize.magnitude_eq {size : WithTop ℚ} (sized : HasSize value size) :
    magnitude value = size := by
  unfold magnitude
  rw [sized]
  rfl

theorem IsSized.hasSize (sized : IsSized value) : HasSize value (magnitude value) := by
  obtain ⟨size, hasSize⟩ := sized
  rwa [hasSize.magnitude_eq]

theorem IsSized.isSome_rank? (sized : IsSized value) : (rank? value).isSome = true := by
  unfold rank?
  obtain ⟨_, unpacked, _⟩ | ⟨_, _, _, unpacked, _⟩ | ⟨unpacked, _⟩ := sized.hasSize.cases <;>
    rw [unpacked] <;> rfl

theorem IsSized.lt_iff (firstSized : IsSized first) (secondSized : IsSized second) :
    first < second ↔ magnitude first < magnitude second :=
  firstSized.hasSize.lt_iff secondSized.hasSize

theorem IsSized.le_iff (firstSized : IsSized first) (secondSized : IsSized second) :
    first ≤ second ↔ magnitude first ≤ magnitude second := by
  rw [Number.le_iff, secondSized.lt_iff firstSized, not_lt]
  exact and_iff_right ⟨firstSized.isSome_rank?, secondSized.isSome_rank?⟩

theorem IsSized.beq_iff (firstSized : IsSized first) (secondSized : IsSized second) :
    (first == second) = true ↔ magnitude first = magnitude second := by
  rw [Number.beq_iff, firstSized.le_iff secondSized, secondSized.le_iff firstSized]
  exact le_antisymm_iff.symm

/-! ### The order of doubles that are not negative -/

theorem HasSize.nonneg {size : WithTop ℚ} (sized : HasSize value size) : 0 ≤ size := by
  induction size with
  | top => exact le_top
  | coe size => exact WithTop.coe_nonneg.mpr sized.isDouble.nonneg

/-- A double is a number that is not negative just when it is at least zero. -/
theorem isSized_iff_zero_le : IsSized value ↔ 0 ≤ value := by
  constructor
  · intro sized
    rw [hasSize_zero_literal.isSized.le_iff sized, hasSize_zero_literal.magnitude_eq]
    exact sized.hasSize.nonneg
  · intro atLeast
    obtain ⟨⟨-, ranked⟩, notBelow⟩ := (Number.le_iff 0 value).mp atLeast
    have zeroRank : rank? 0 = some (2, 0, 0) := rfl
    rw [Number.lt_iff, zeroRank, rank?] at notBelow
    rw [rank?] at ranked
    unfold IsSized HasSize
    generalize value.toModel.unpack = unpacked at ranked notBelow ⊢
    rcases unpacked with ⟨_ | _⟩ | _ | _ | ⟨_ | _, mantissa, exponent, _⟩
    · exact absurd ((ranked_some_iff (0, 0, 0) _).mpr (.inl (by decide))) notBelow
    · exact ⟨_, rfl⟩
    · exact absurd ranked (by decide)
    · exact ⟨_, rfl⟩
    · exact absurd ((ranked_some_iff (1, _, _) _).mpr (.inl (Int.lt_succ 1))) notBelow
    · exact ⟨_, rfl⟩

theorem IsSized.of_le (sized : IsSized first) (atMost : first ≤ second) : IsSized second := by
  rw [isSized_iff_zero_le] at sized ⊢
  obtain ⟨⟨zeroRanked, -⟩, notBelow⟩ := (Number.le_iff 0 first).mp sized
  obtain ⟨⟨-, ranked⟩, -⟩ := (Number.le_iff first second).mp atMost
  exact (Number.le_iff 0 second).mpr
    ⟨⟨zeroRanked, ranked⟩, fun below => notBelow (Number.lt_of_le_of_lt atMost below)⟩

theorem IsSized.isNaN_eq_false (sized : IsSized value) : value.isNaN = false :=
  (isSome_rank?_iff value).mp sized.isSome_rank?

/-- Sums of doubles that are not negative are not negative, even when they are infinite. -/
theorem IsSized.foldl_add (sized : IsSized value) {values : List Float}
    (nonneg : ∀ next ∈ values, 0 ≤ next) : IsSized (values.foldl (· + ·) value) := by
  induction values generalizing value with
  | nil => exact sized
  | cons first rest inductionHypothesis =>
    obtain ⟨firstNonneg, restNonneg⟩ := List.forall_mem_cons.mp nonneg
    have firstSized := isSized_iff_zero_le.mpr firstNonneg
    obtain ⟨sum, sumSized, -⟩ := sized.hasSize.exists_add firstSized.hasSize
    exact inductionHypothesis sumSized.isSized restNonneg

theorem IsSized.le_refl (sized : IsSized value) : value ≤ value :=
  (sized.le_iff sized).mpr le_rfl

theorem IsSized.beq_self (sized : IsSized value) : (value == value) = true :=
  (sized.beq_iff sized).mpr rfl

theorem IsSized.not_lt_iff (firstSized : IsSized first) (secondSized : IsSized second) :
    ¬ first < second ↔ second ≤ first := by
  rw [firstSized.lt_iff secondSized, secondSized.le_iff firstSized, not_lt]

theorem IsSized.le_of_lt (firstSized : IsSized first) (secondSized : IsSized second)
    (below : first < second) : first ≤ second :=
  (firstSized.le_iff secondSized).mpr ((firstSized.lt_iff secondSized).mp below).le

theorem IsSized.lt_of_le_of_lt {third : Float} (firstSized : IsSized first)
    (secondSized : IsSized second) (thirdSized : IsSized third) (atMost : first ≤ second)
    (below : second < third) : first < third :=
  (firstSized.lt_iff thirdSized).mpr (((firstSized.le_iff secondSized).mp atMost).trans_lt
    ((secondSized.lt_iff thirdSized).mp below))

theorem IsSized.lt_of_lt_of_le {third : Float} (firstSized : IsSized first)
    (secondSized : IsSized second) (thirdSized : IsSized third) (below : first < second)
    (atMost : second ≤ third) : first < third :=
  (firstSized.lt_iff thirdSized).mpr (((firstSized.lt_iff secondSized).mp below).trans_le
    ((secondSized.le_iff thirdSized).mp atMost))

theorem IsSized.beq_eq_false_of_lt (firstSized : IsSized first) (secondSized : IsSized second)
    (below : first < second) : (first == second) = false :=
  Bool.eq_false_iff.mpr fun same =>
    ((firstSized.lt_iff secondSized).mp below).ne ((firstSized.beq_iff secondSized).mp same)

/-- The ratio of a greater count to the same total is not smaller. -/
theorem ratio_le_ratio {count greater total : Nat} (some : 0 < count) (more : count ≤ greater)
    (within : greater ≤ total) (countable : total < UInt64.size) :
    Float.ofNat count / Float.ofNat total ≤ Float.ofNat greater / Float.ofNat total := by
  obtain ⟨part, partSized, one_le_part, -⟩ :=
    exists_hasSize_count some ((more.trans within).trans_lt countable)
  obtain ⟨larger, largerSized, -⟩ :=
    exists_hasSize_count (some.trans_le more) (within.trans_lt countable)
  obtain ⟨whole, wholeSized, one_le_whole, -⟩ :=
    exists_hasSize_count ((some.trans_le more).trans_le within) countable
  have ordered : part ≤ larger := hasSize_ofNat_mono partSized largerSized more
  have positive : 0 < whole := one_pos.trans_le one_le_whole
  have ratioSized := partSized.div wholeSized positive.ne'
  have largerRatioSized := largerSized.div wholeSized positive.ne'
  rw [ratioSized.isSized.le_iff largerRatioSized.isSized, ratioSized.magnitude_eq,
    largerRatioSized.magnitude_eq]
  exact rounded_mono (div_nonneg (one_pos.trans_le one_le_part).le positive.le)
    (div_le_div_of_nonneg_right ordered positive.le)

end Triage.Number
