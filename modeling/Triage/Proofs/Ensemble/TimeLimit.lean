/-
This file proves which time a call may take. The seconds that are set for a model are a double, and the
time is a whole number of nanoseconds. From zero up to `2 ^ 64` seconds it is the nearest such number to
the value of the double, halves to even; above, it is the longest time, and what is negative or not a
number means no time. The parts fit together: the greatest double below `2 ^ 64` is so far from it that
rounding to a nanosecond cannot reach the longest time from below.

A sound model has a finite timeout above zero, but its time may still be none at all, since a value of at
most half a nanosecond is nearest to zero. It is just these models whose calls are cut off in the instant
in which they start.
-/

import Mathlib.Algebra.Order.Field.Power
import Triage.Ensemble.Attempt
import Triage.Proofs.Number.Comparison
import Triage.Proofs.Number.Finite
import Triage.Proofs.Number.Parts

namespace Triage

open Number

namespace Limit

/-! ### Seconds as nanoseconds -/

variable {seconds : Float}

theorem secondsBound_eq : (secondsBound : ℚ) = 2 ^ (53 + 11 : Int) := by
  norm_num [secondsBound]

theorem perSecond_eq : perSecond = 10 ^ 9 := by
  norm_num [perSecond]

/-- Finite parts without a sign are rounded, unless their value is out of bounds. -/
theorem ofSeconds_of_shape {mantissa : Nat} {exponent : Int}
    (shape : shapeOf seconds = .finite false mantissa exponent) :
    ofSeconds seconds =
      if (secondsBound : ℚ) ≤ mantissa * 2 ^ exponent then longest
      else ⟨(nearest (mantissa * 2 ^ exponent * perSecond)).toNat⟩ := by
  obtain ⟨positive, value⟩ := ratio_value mantissa exponent
  have whole : (0 : ℚ) < (ratio mantissa exponent 0).2 := Nat.cast_pos.mpr positive
  have bound : (secondsBound : ℚ) ≤ mantissa * 2 ^ exponent ↔
      secondsBound * (ratio mantissa exponent 0).2 ≤ (ratio mantissa exponent 0).1 := by
    rw [← value, le_div_iff₀ whole]
    norm_cast
  have scaled : (mantissa * 2 ^ exponent * perSecond : ℚ) =
      ((ratio mantissa exponent 0).1 * perSecond : Nat) / (ratio mantissa exponent 0).2 := by
    rw [← value, Nat.cast_mul, div_mul_eq_mul_div]
  rw [scaled, ← roundDiv_toEven _ positive, Int.toNat_natCast]
  simp only [bound]
  unfold ofSeconds
  rw [shape]

/-- Within bounds the time is the nearest whole number of nanoseconds. -/
theorem ofSeconds_of_lt {size : ℚ} (sized : HasSize seconds size) (small : size < secondsBound) :
    ((ofSeconds seconds).nanoseconds : Int) = nearest (size * perSecond) := by
  obtain ⟨shape, rfl⟩ | ⟨mantissa, exponent, shape, rfl⟩ := shapeOf_cases sized
  · have none : nearest (0 * perSecond) = 0 := by
      rw [zero_mul]
      exact nearest_intCast 0
    rw [none]
    unfold ofSeconds
    rw [shape]
    rfl
  · have nonneg : 0 ≤ nearest (mantissa * 2 ^ exponent * perSecond) :=
      le_nearest (by positivity)
    rw [ofSeconds_of_shape shape, if_neg small.not_ge, Int.toNat_of_nonneg nonneg]

/-- Beyond the bound the time is the longest one. -/
theorem ofSeconds_of_le {size : WithTop ℚ} (sized : HasSize seconds size)
    (large : (secondsBound : ℚ) ≤ size) : ofSeconds seconds = longest := by
  induction size with
  | top =>
    obtain ⟨_, _, none⟩ | ⟨_, _, _, _, _, finite⟩ | ⟨unpacked, -⟩ := sized.cases
    · exact nomatch none
    · exact nomatch finite
    unfold ofSeconds
    rw [shapeOf_eq, unpacked]
    rfl
  | coe size =>
    rw [WithTop.coe_le_coe] at large
    obtain ⟨_, rfl⟩ | ⟨mantissa, exponent, shape, rfl⟩ := shapeOf_cases sized
    · exact absurd large (by norm_num [secondsBound])
    · rw [ofSeconds_of_shape shape, if_pos large]

/-- What is negative or not a number means no time. -/
theorem ofSeconds_of_not_isSized (unsized : ¬ IsSized seconds) : ofSeconds seconds = zero := by
  unfold ofSeconds
  rw [shapeOf_eq]
  unfold IsSized HasSize at unsized
  generalize seconds.toModel.unpack = unpacked at unsized ⊢
  rcases unpacked with ⟨_ | _⟩ | _ | _ | ⟨_ | _, mantissa, exponent, _⟩
  · rfl
  · exact absurd ⟨_, rfl⟩ unsized
  · rfl
  · exact absurd ⟨_, rfl⟩ unsized
  · rfl
  · exact absurd ⟨_, rfl⟩ unsized

/-- The ways in which a number of seconds becomes a time. -/
inductive Arises (seconds : Float) : Limit → Prop where
  | none (unsized : ¬ IsSized seconds) : Arises seconds zero
  | rounded {size : ℚ} {nanoseconds : Nat} (sized : HasSize seconds size)
      (small : size < secondsBound) (same : (nanoseconds : Int) = nearest (size * perSecond)) :
      Arises seconds ⟨nanoseconds⟩
  | most {size : WithTop ℚ} (sized : HasSize seconds size) (large : (secondsBound : ℚ) ≤ size) :
      Arises seconds longest

theorem arises_ofSeconds (seconds : Float) : Arises seconds (ofSeconds seconds) := by
  by_cases isSized : IsSized seconds
  · obtain ⟨size, sized⟩ := isSized
    obtain small | large := lt_or_ge size (secondsBound : ℚ)
    · obtain ⟨size, rfl⟩ := WithTop.ne_top_iff_exists.mp small.ne_top
      rw [WithTop.coe_lt_coe] at small
      exact .rounded sized small (ofSeconds_of_lt sized small)
    · rw [ofSeconds_of_le sized large]
      exact .most sized large
  · rw [ofSeconds_of_not_isSized isSized]
    exact .none isSized

/-! ### Bounds -/

/-- A rounded time ends before the longest one, for there is a gap of more than a second below the
bound. -/
theorem nearest_lt_longest {size : ℚ} (isDouble : IsDouble size) (small : size < secondsBound) :
    nearest (size * perSecond) < longest.nanoseconds := by
  have gap : size ≤ (secondsBound - 2 : Nat) := by
    rw [secondsBound_eq] at small
    exact (isDouble.le_two_zpow_sub small).trans (by norm_num [secondsBound])
  have most : nearest (size * perSecond) ≤ ((secondsBound - 2) * perSecond : Nat) := by
    refine nearest_le ?_
    rw [Int.cast_natCast, Nat.cast_mul]
    exact mul_le_mul_of_nonneg_right gap (Nat.cast_nonneg _)
  exact most.trans_lt (by decide)

theorem Arises.le_longest {limit : Limit} (arises : Arises seconds limit) :
    limit.nanoseconds ≤ longest.nanoseconds := by
  cases arises with
  | none => exact Nat.zero_le _
  | rounded sized small same =>
    have below := nearest_lt_longest sized.isDouble small
    rw [← same] at below
    exact_mod_cast below.le
  | most => exact le_rfl

/-- More seconds never become less time. -/
theorem Arises.mono {low high : Float} {short long : Limit} (lowArises : Arises low short)
    (highArises : Arises high long) (ordered : low ≤ high) :
    short.nanoseconds ≤ long.nanoseconds := by
  cases lowArises with
  | none => exact Nat.zero_le _
  | rounded lowSized small same =>
    cases highArises with
    | none unsized => exact absurd (lowSized.isSized.of_le ordered) unsized
    | rounded highSized highSmall highSame =>
      rw [lowSized.isSized.le_iff highSized.isSized, lowSized.magnitude_eq,
        highSized.magnitude_eq, WithTop.coe_le_coe] at ordered
      have units := nearest_mono (mul_le_mul_of_nonneg_right ordered (Nat.cast_nonneg perSecond))
      rw [← same, ← highSame] at units
      exact_mod_cast units
    | most => exact (Arises.rounded lowSized small same).le_longest
  | most lowSized large =>
    cases highArises with
    | none unsized => exact absurd (lowSized.isSized.of_le ordered) unsized
    | rounded highSized highSmall =>
      rw [lowSized.isSized.le_iff highSized.isSized, lowSized.magnitude_eq,
        highSized.magnitude_eq] at ordered
      exact absurd (WithTop.coe_lt_coe.mpr highSmall) (large.trans ordered).not_gt
    | most => exact le_rfl

/-! ### Parts of a time -/

theorem seconds_lt {limit : Limit} (atMost : limit.nanoseconds ≤ longest.nanoseconds) :
    limit.seconds < secondsBound :=
  Nat.div_lt_of_lt_mul (atMost.trans_lt (by decide))

theorem subsecond_lt (limit : Limit) : limit.subsecond < perSecond :=
  Nat.mod_lt _ (by decide)

theorem seconds_mul_add_subsecond (limit : Limit) :
    limit.seconds * perSecond + limit.subsecond = limit.nanoseconds :=
  Nat.div_add_mod' _ _

theorem milliseconds_pos_iff (limit : Limit) : 0 < limit.milliseconds ↔ 0 < limit.nanoseconds := by
  unfold milliseconds perMillisecond
  omega

end Limit

namespace Model

theorem arises_limit (model : Model) : Limit.Arises model.timeout model.limit :=
  Limit.arises_ofSeconds model.timeout

theorem hasSize_secondsBound : HasSize 18446744073709551616 (Limit.secondsBound : ℚ) := by
  have sized := hasSize_ofNat 18446744073709551616
  have isDouble : IsDouble (Limit.secondsBound : ℚ) := by
    rw [Limit.secondsBound_eq]
    exact isDouble_zpow (by decide) (by decide)
  rwa [show (18446744073709551616 : Nat) = Limit.secondsBound from rfl,
    rounded_of_isDouble isDouble] at sized

/-- The time that a call may take, for every timeout. A greater timeout never means less time, whatever
the two are, infinities and zeros of either sign included. From zero up to `2 ^ 64` seconds the time is
the whole number of nanoseconds that is nearest to the value, and of two the even one, with less than
`10 ^ 9` of them beyond the whole seconds; from there on it is the longest time, and it is none when the
timeout is below zero or not a number. Its whole seconds always fit into a word. -/
theorem limit_follows_timeout (model : Model) :
    (∀ other : Model, model.timeout ≤ other.timeout →
      model.limit.nanoseconds ≤ other.limit.nanoseconds) ∧
    (0 ≤ model.timeout → model.timeout < 18446744073709551616 → ∃ size : ℚ,
      HasSize model.timeout size ∧
        ((model.limit.seconds * 10 ^ 9 + model.limit.subsecond : Nat) : Int) =
          nearest (size * 10 ^ 9)) ∧
    (18446744073709551616 ≤ model.timeout → model.limit = .longest) ∧
    (model.timeout < 0 ∨ model.timeout.isNaN = true → model.limit = .zero) ∧
    model.limit.seconds < UInt64.size ∧ model.limit.subsecond < 10 ^ 9 := by
  have arises := model.arises_limit
  refine ⟨fun other => arises.mono other.arises_limit, fun atLeast below => ?_, fun atLeast => ?_,
    fun unsized => ?_, Limit.seconds_lt arises.le_longest, model.limit.subsecond_lt⟩
  · obtain ⟨size, sized⟩ := isSized_iff_zero_le.mpr atLeast
    rw [sized.lt_iff hasSize_secondsBound] at below
    obtain ⟨size, rfl⟩ := WithTop.ne_top_iff_exists.mp below.ne_top
    refine ⟨size, sized, ?_⟩
    rw [← Limit.perSecond_eq, Limit.seconds_mul_add_subsecond]
    rw [show (10 ^ 9 : ℚ) = Limit.perSecond by norm_num [Limit.perSecond]]
    exact Limit.ofSeconds_of_lt sized (WithTop.coe_lt_coe.mp below)
  · obtain ⟨size, sized⟩ := hasSize_secondsBound.isSized.of_le atLeast
    rw [hasSize_secondsBound.isSized.le_iff sized.isSized, hasSize_secondsBound.magnitude_eq,
      sized.magnitude_eq] at atLeast
    exact Limit.ofSeconds_of_le sized atLeast
  · refine Limit.ofSeconds_of_not_isSized fun isSized => ?_
    obtain negative | undefined := unsized
    · exact ((Number.le_iff 0 _).mp (isSized_iff_zero_le.mp isSized)).2 negative
    · exact absurd (undefined.symm.trans isSized.isNaN_eq_false) (by decide)

/-- The case of two timeouts that lie half-way between nanoseconds, of one without an end, and of one that is
not a number. -/
theorem limit_follows_timeout_at_halves :
    let short : Model := {
      provider := "openai", name := "gpt-4o", kind := .fast, timeout := 0.0009765625 }
    let long : Model := { short with timeout := 0.0029296875 }
    let endless : Model := { short with timeout := 1 / 0 }
    let undefined : Model := { short with timeout := 0 / 0 }
    short.limit.nanoseconds ≤ long.limit.nanoseconds ∧
      (∃ size : ℚ, HasSize short.timeout size ∧
        ((short.limit.seconds * 10 ^ 9 + short.limit.subsecond : Nat) : Int) =
          nearest (size * 10 ^ 9)) ∧
      (short.limit = ⟨976562⟩ ∧ long.limit = ⟨2929688⟩) ∧
      endless.limit = .longest ∧ undefined.limit = .zero := by
  intro short long endless undefined
  obtain ⟨grows, rounds, -⟩ := limit_follows_timeout short
  obtain ⟨-, -, longest, -⟩ := limit_follows_timeout endless
  obtain ⟨-, -, -, none, -⟩ := limit_follows_timeout undefined
  exact ⟨grows long (by decide +kernel), rounds (by decide +kernel) (by decide +kernel),
    ⟨by decide +kernel, by decide +kernel⟩, longest (by decide +kernel),
    none (.inr (by decide +kernel))⟩

/-! ### Sound models -/

theorem check_eq_ok_iff (model : Model) : model.check = .ok () ↔ model.defect?.isNone = true := by
  unfold check
  cases model.defect? with
  | none => exact iff_of_true rfl rfl
  | some defect => exact iff_of_false nofun nofun

/-- The timeout of a sound model is a finite value above zero. -/
theorem exists_timeout_of_sound {model : Model} (sound : model.check = .ok ()) :
    ∃ size : ℚ, HasSize model.timeout size ∧ 0 < size := by
  have flawless := Option.isNone_iff_eq_none.mp ((check_eq_ok_iff model).mp sound)
  unfold defect? at flawless
  split_ifs at flawless with _ _ bad
  rw [Bool.or_eq_true, Bool.not_eq_true', decide_eq_true_iff, not_or, Bool.not_eq_false] at bad
  exact exists_hasSize_of_finite bad.1 bad.2

/-- A time is left just when the value is more than half a nanosecond. -/
theorem limit_pos_iff {model : Model} {size : ℚ} (sized : HasSize model.timeout size) :
    0 < model.limit.nanoseconds ↔ 1 / (2 * 10 ^ 9) < size := by
  have half : 1 / (2 * 10 ^ 9) < size ↔ 1 / 2 < size * Limit.perSecond := by
    rw [Limit.perSecond_eq, Nat.cast_pow, Nat.cast_ofNat, ← div_lt_iff₀ (by positivity), div_div]
  obtain small | large := lt_or_ge size Limit.secondsBound
  · rw [half, ← nearest_pos_iff, ← Limit.ofSeconds_of_lt sized small]
    exact Int.natCast_pos.symm
  · have most : model.limit = .longest :=
      Limit.ofSeconds_of_le sized (WithTop.coe_le_coe.mpr large)
    rw [most]
    refine iff_of_true (by decide) (lt_of_lt_of_le ?_ large)
    norm_num [Limit.secondsBound]

/-- A call that is cut off has had all the time that its model is given. -/
theorem elapsed_of_cancelled {model : Model} {providers : Providers} {prompt : String} {now : Nat}
    {call : Call} {fault : Fault} {elapsed : Nat}
    (cancelled : model.attempt providers prompt now = (.cancelled call fault, elapsed)) :
    elapsed = model.limit.milliseconds := by
  unfold attempt at cancelled
  split at cancelled
  · exact nomatch cancelled
  · dsimp only at cancelled
    split at cancelled
    · exact nomatch cancelled
    · exact (congrArg Prod.snd cancelled).symm

/-- The time of a sound model. Its timeout is a finite value above zero, and yet it may leave no time: there
is some just when the value is more than half a nanosecond. Otherwise every call that is cut off is cut
off in the instant in which it starts, whoever the provider is. -/
theorem sound_limit_pos_iff (model : Model) (sound : model.check = .ok ()) :
    ∃ size : ℚ, HasSize model.timeout size ∧ 0 < size ∧
      (0 < model.limit.nanoseconds ↔ 1 / (2 * 10 ^ 9) < size) ∧
      ∀ providers prompt now call fault elapsed,
        model.attempt providers prompt now = (.cancelled call fault, elapsed) →
          (0 < elapsed ↔ 1 / (2 * 10 ^ 9) < size) := by
  obtain ⟨size, sized, positive⟩ := exists_timeout_of_sound sound
  refine ⟨size, sized, positive, limit_pos_iff sized,
    fun providers prompt now call fault elapsed cancelled => ?_⟩
  rw [elapsed_of_cancelled cancelled, Limit.milliseconds_pos_iff, limit_pos_iff sized]

/-- The case of a timeout of one nanosecond. -/
theorem sound_limit_pos_iff_of_one_nanosecond :
    let model : Model := {
      provider := "openai", name := "gpt-4o", kind := .fast, timeout := 1e-9 }
    model.check = .ok () ∧ model.limit = ⟨1⟩ ∧
      ∃ size : ℚ, HasSize model.timeout size ∧ 1 / (2 * 10 ^ 9) < size ∧
        ∀ providers prompt now call fault elapsed,
          model.attempt providers prompt now = (.cancelled call fault, elapsed) → 0 < elapsed := by
  intro model
  have sound : model.check = .ok () := (check_eq_ok_iff model).mpr (by decide +kernel)
  have limit : model.limit = ⟨1⟩ := by decide +kernel
  obtain ⟨size, sized, -, some, cut⟩ := sound_limit_pos_iff model sound
  have above : 1 / (2 * 10 ^ 9) < size := some.mp (limit ▸ Nat.one_pos)
  exact ⟨sound, limit, size, sized, above, fun providers prompt now call fault elapsed cancelled =>
    (cut providers prompt now call fault elapsed cancelled).mpr above⟩

/-- A model with a tenth of a nanosecond is sound and has no time: a provider that takes a millisecond is
not waited for at all. -/
theorem sound_model_without_time :
    let model : Model := {
      provider := "openai", name := "gpt-4o", kind := .fast, timeout := 1e-10 }
    model.check = .ok () ∧ model.limit = .zero ∧
      ∀ providers provider prompt now, providers.find? model.provider = some provider →
        0 < (provider.answer (model.request prompt)).delay →
          model.attempt providers prompt now =
            (.cancelled ⟨now, provider.name, model.request prompt⟩ model.timeoutFault, 0) := by
  intro model
  have limit : model.limit = .zero := by decide +kernel
  refine ⟨(check_eq_ok_iff model).mpr (by decide +kernel), limit,
    fun providers provider prompt now found slow => ?_⟩
  unfold attempt
  rw [found, limit]
  exact if_neg (Nat.not_le.mpr slow)

end Model

end Triage
