/-
This file proves that what is configured reaches an engine unchanged. The limit is checked twice: by
the settings, which refuse what no gate can have, and by the engine, which takes the nearest that a
gate can have and warns of it. Both checks have the same bounds, so the second one never finds
anything in settings that have passed the first one.

The strategy is found twice by its name, too: when the settings are read, and by whoever asks the
engine for a mix under that name. Both ways lead to the same mix.

A limit is written as a numeral. It is kept or refused according to its value as long as this fits into 64
bits. A numeral with a greater value is neither: it counts as missing, and the limit becomes the one by
default.
-/

import Triage.Proofs.Ensemble.Session
import Triage.Proofs.Naming
import Triage.Settings

namespace Triage

/-! ### Settings -/

namespace Settings

theorem mapError_eq_ok_iff {Value : Type} (fault : Fault → Fault) (parsed : Except Fault Value)
    {value : Value} : parsed.mapError fault = .ok value ↔ parsed = .ok value := by
  cases parsed with
  | ok other => rfl
  | error other => exact iff_of_false nofun nofun

/-- Variables give settings just when the limit is one that a gate can have and both names are
known. -/
theorem ofVariables_eq_ok_iff (setting? : String → Option String) (settings : Settings) :
    ofVariables setting? = .ok settings ↔
      (1 ≤ settings.concurrency ∧ settings.concurrency ≤ largestCapacity) ∧
        settings.concurrency = readConcurrency (setting? "MAX_CONCURRENT_REQUESTS") ∧
        Strategy.parse ((setting? "DEFAULT_MIXING_STRATEGY").getD "parallel") =
          .ok settings.strategy ∧
        Algorithm.parse ((setting? "CLASSIFIER_ALGORITHM").getD "hybrid") =
          .ok settings.algorithm := by
  obtain ⟨concurrency, strategy, algorithm⟩ := settings
  rw [← mapError_eq_ok_iff (variableFault "DEFAULT_MIXING_STRATEGY") (Strategy.parse _),
    ← mapError_eq_ok_iff (variableFault "CLASSIFIER_ALGORITHM") (Algorithm.parse _)]
  unfold ofVariables
  generalize readConcurrency (setting? "MAX_CONCURRENT_REQUESTS") = limit
  generalize (Strategy.parse _).mapError _ = strategyParsed
  generalize (Algorithm.parse _).mapError _ = algorithmParsed
  generalize largestCapacity = greatest
  by_cases outside : limit = 0 ∨ greatest < limit
  · rw [if_pos outside]
    have refused : ¬ (1 ≤ limit ∧ limit ≤ greatest) := by omega
    exact iff_of_false nofun fun ⟨within, same, _⟩ => refused (same ▸ within)
  · rw [if_neg outside]
    have within : 1 ≤ limit ∧ limit ≤ greatest := by omega
    cases strategyParsed with
    | error fault => exact iff_of_false nofun fun ⟨_, _, parsed, _⟩ => nomatch parsed
    | ok strategyFound =>
      cases algorithmParsed with
      | error fault => exact iff_of_false nofun fun ⟨_, _, _, parsed⟩ => nomatch parsed
      | ok algorithmFound =>
        show Except.ok _ = Except.ok _ ↔ _
        simp only [Except.ok.injEq, mk.injEq]
        constructor
        · rintro ⟨rfl, rfl, rfl⟩
          exact ⟨within, rfl, rfl, rfl⟩
        · rintro ⟨_, rfl, rfl, rfl⟩
          exact ⟨rfl, rfl, rfl⟩

/-! ### Numerals -/

/-- A text has digits and nothing else. -/
structure IsNumeral (text : String) : Prop where
  nonempty : text.toList ≠ []
  digits : text.toList.all (·.isDigit) = true

/-- What a numeral means in the decimal system. -/
def numeralValue (text : String) : Nat :=
  Nat.ofDigitChars 10 text.toList 0

/-- A numeral is read if 64 bits hold its value. -/
theorem IsNumeral.readCount?_eq {text : String} (numeral : IsNumeral text) :
    readCount? text = if numeralValue text < wordBound then some (numeralValue text) else none := by
  obtain ⟨nonempty, digits⟩ := numeral
  have value : text.toList.foldl (fun number digit => number * 10 + (digit.toNat - 48)) 0 =
      numeralValue text := by
    simp [numeralValue, Nat.ofDigitChars, Nat.mul_comm]
  unfold readCount?
  split
  · -- A sign is not a digit.
    rename_i rest signed
    rw [signed] at digits
    exact absurd digits nofun
  · simp only [value, digits, List.isEmpty_eq_false_iff.mpr nonempty, Bool.not_false, Bool.true_and,
      decide_eq_true_eq]

theorem IsNumeral.readConcurrency_eq {text : String} (numeral : IsNumeral text) :
    readConcurrency (some text) =
      if numeralValue text < wordBound then numeralValue text else defaultConcurrency := by
  unfold readConcurrency
  rw [Option.bind_some, numeral.readCount?_eq]
  split <;> rfl

/-- The limit is looked at before the names are. -/
theorem ofVariables_of_outside {setting? : String → Option String}
    (outside : readConcurrency (setting? "MAX_CONCURRENT_REQUESTS") = 0 ∨
      largestCapacity < readConcurrency (setting? "MAX_CONCURRENT_REQUESTS")) :
    ofVariables setting? = .error concurrencyFault := by
  unfold ofVariables
  exact if_pos outside

theorem parse_defaultStrategy : Strategy.parse "parallel" = .ok .parallel :=
  Strategy.parse_name .parallel

/-- What becomes of a limit that is written as a numeral, of whatever length and with whatever zeros before
it, when the names in the other variables are known or missing. A value that a gate can have is kept, and
any other one that 64 bits hold is refused. A greater value is not refused: the limit is the one by
default, as if no variable had been set. -/
theorem limit_of_numeral {setting? : String → Option String} {text : String} {strategy : Strategy}
    {algorithm : Algorithm} (given : setting? "MAX_CONCURRENT_REQUESTS" = some text)
    (numeral : IsNumeral text)
    (strategyKnown :
      Strategy.parse ((setting? "DEFAULT_MIXING_STRATEGY").getD "parallel") = .ok strategy)
    (algorithmKnown :
      Algorithm.parse ((setting? "CLASSIFIER_ALGORITHM").getD "hybrid") = .ok algorithm) :
    let value := numeralValue text
    (1 ≤ value ∧ value ≤ largestCapacity →
        ofVariables setting? = .ok ⟨value, strategy, algorithm⟩) ∧
      (value = 0 ∨ largestCapacity < value ∧ value < UInt64.size →
        ofVariables setting? = .error concurrencyFault) ∧
      (UInt64.size ≤ value →
        ofVariables setting? = .ok ⟨defaultConcurrency, strategy, algorithm⟩ ∧
          ofVariables setting? =
            ofVariables fun name => if name = "MAX_CONCURRENT_REQUESTS" then none else setting? name) := by
  intro value
  have read := numeral.readConcurrency_eq
  rw [← given] at read
  have gateBound : largestCapacity < wordBound := by decide
  have accept (limit : Nat) (same : readConcurrency (setting? "MAX_CONCURRENT_REQUESTS") = limit)
      (within : 1 ≤ limit ∧ limit ≤ largestCapacity) :
      ofVariables setting? = .ok ⟨limit, strategy, algorithm⟩ :=
    (ofVariables_eq_ok_iff setting? _).mpr ⟨within, same.symm, strategyKnown, algorithmKnown⟩
  refine ⟨fun within => ?_, fun outside => ?_, fun large => ?_⟩
  · rw [if_pos (within.2.trans_lt gateBound)] at read
    exact accept value read within
  · have held : value < wordBound := by
      obtain none | ⟨-, held⟩ := outside
      · exact none ▸ Nat.zero_lt_of_lt gateBound
      · exact held
    rw [if_pos held] at read
    exact ofVariables_of_outside (read ▸ outside.imp_right And.left)
  · have tooLarge : ¬ value < wordBound := Nat.not_lt.mpr large
    rw [if_neg tooLarge] at read
    have within : 1 ≤ defaultConcurrency ∧ defaultConcurrency ≤ largestCapacity := by decide
    have accepted := accept defaultConcurrency read within
    refine ⟨accepted, accepted.trans ?_⟩
    exact ((ofVariables_eq_ok_iff _ _).mpr ⟨within, rfl, strategyKnown, algorithmKnown⟩).symm

/-- The case of a numeral that is longer than any that 64 bits hold, but for its zeros. -/
theorem limit_of_numeral_with_many_zeros :
    let setting? (name : String) : Option String :=
      if name = "MAX_CONCURRENT_REQUESTS" then some "0000000000000000000000000064" else none
    IsNumeral "0000000000000000000000000064" ∧
      ofVariables setting? = .ok ⟨64, .parallel, .blend⟩ := by
  intro setting?
  have numeral : IsNumeral "0000000000000000000000000064" := ⟨by decide, by decide⟩
  obtain ⟨kept, -⟩ := @limit_of_numeral setting? _ _ _ rfl numeral parse_defaultStrategy rfl
  exact ⟨numeral, kept (by decide)⟩

/-- The least numeral that 64 bits do not hold means more calls than any gate allows, and still it is not
refused. -/
theorem limit_beyond_word_becomes_ten :
    let setting? (name : String) : Option String :=
      if name = "MAX_CONCURRENT_REQUESTS" then some "18446744073709551616" else none
    IsNumeral "18446744073709551616" ∧
      largestCapacity < numeralValue "18446744073709551616" ∧
      ofVariables setting? = .ok ⟨10, .parallel, .blend⟩ := by
  intro setting?
  refine ⟨⟨by decide, by decide⟩, by decide, ?_⟩
  exact (ofVariables_eq_ok_iff setting? _).mpr
    ⟨by decide, by decide +kernel, parse_defaultStrategy, rfl⟩

end Settings

/-! ### Engines -/

namespace Engine

theorem capacityFor_bounds (concurrency : Nat) :
    1 ≤ capacityFor concurrency ∧ capacityFor concurrency ≤ largestCapacity := by
  unfold capacityFor largestCapacity
  omega

theorem capacityFor_eq_self {concurrency : Nat} (least : 1 ≤ concurrency)
    (greatest : concurrency ≤ largestCapacity) : capacityFor concurrency = concurrency := by
  unfold capacityFor
  omega

theorem capacityWarning?_eq_none_iff (settings : EngineSettings) :
    capacityWarning? settings = none ↔ capacityFor settings.concurrency = settings.concurrency := by
  unfold capacityWarning?
  simp only [ite_eq_left_iff, reduceCtorEq, imp_false, not_not]

/-- A mix under a name is a mix under the strategy with this name. -/
theorem batches_named {name : String} {strategy : Strategy}
    (parsed : Strategy.parse name = .ok strategy) (settings : EngineSettings) (models : List Model)
    (prompt : String) :
    (Mixing.named name models prompt).batches settings =
      .ok [⟨strategy, models, prompt⟩] := by
  rw [Mixing.batches, parsed]
  rfl

/-- What becomes of a request for mixes depends on nothing but the batches that it stands for. -/
theorem takes_mix_congr {engine : Engine} {mixing other : Mixing}
    (same : mixing.batches engine.settings = other.batches engine.settings) {event : Event}
    {after : Engine} :
    engine.Takes (.mix mixing) event after ↔ engine.Takes (.mix other) event after := by
  constructor
  · rintro (⟨accepted, ran⟩ | refused)
    · exact .run (same ▸ accepted) ran
    · exact .refuse (same ▸ refused)
  · rintro (⟨accepted, ran⟩ | refused)
    · exact .run (same ▸ accepted) ran
    · exact .refuse (same ▸ refused)

/-- What is configured reaches an engine unchanged. From settings that have been accepted comes an
engine with just as many free permits as they say, and no warning. At any later time a mix by default
is the mix under the name that was given for the default strategy, or under the name of the parallel
one if none was given: it returns the same, and may come to nothing else. Whatever an engine is
wanted to have, its capacity is within the bounds of a gate, and there is a warning just when it is
not the one that was wanted. -/
theorem configured_limit_reaches_gate (providers : Providers) :
    (∀ setting? settings, Settings.ofVariables setting? = .ok settings →
      let new := create providers settings.engineSettings
      (new.gate.free = settings.concurrency ∧ capacityWarning? settings.engineSettings = none) ∧
        ∀ events engine, Session new events engine → ∀ models prompt,
          let name := (setting? "DEFAULT_MIXING_STRATEGY").getD "parallel"
          (∀ timing, engine.mixByName name models prompt timing =
            .ok (engine.mixDefault models prompt timing)) ∧
          ∀ event after, engine.Takes (.mix (.byDefault models prompt)) event after ↔
            engine.Takes (.mix (.named name models prompt)) event after) ∧
      ∀ settings : EngineSettings,
        let new := create providers settings
        new.gate.free = new.gate.capacity ∧
          (1 ≤ new.gate.capacity ∧ new.gate.capacity ≤ largestCapacity) ∧
          ((capacityWarning? settings).isSome = true ↔
            new.gate.capacity ≠ settings.concurrency) := by
  refine ⟨fun setting? settings accepted => ?_, fun settings => ?_⟩
  · obtain ⟨⟨least, greatest⟩, _, parsed, _⟩ :=
      (Settings.ofVariables_eq_ok_iff setting? settings).mp accepted
    have kept : capacityFor settings.concurrency = settings.concurrency :=
      capacityFor_eq_self least greatest
    refine ⟨⟨kept, (capacityWarning?_eq_none_iff _).mpr kept⟩, fun events engine session => ?_⟩
    -- The settings of an engine never change, so the default is still the one that was configured.
    have fixed : engine.settings = settings.engineSettings := session.inOrder.fixed
    refine fun models prompt => ⟨fun timing => ?_, fun event after => takes_mix_congr ?_⟩
    · unfold mixByName mixDefault
      rw [fixed, parsed]
      rfl
    · rw [fixed]
      exact (batches_named parsed _ models prompt).symm
  · refine ⟨Nat.sub_zero _, capacityFor_bounds _, ?_⟩
    rw [← Option.ne_none_iff_isSome, Ne, capacityWarning?_eq_none_iff]
    rfl

/-- The case of a limit with a sign and a strategy in capitals; an engine that is wanted to have no
permits warns of it. -/
theorem configured_limit_reaches_gate_with_four_permits :
    let setting? (name : String) : Option String :=
      if name = "MAX_CONCURRENT_REQUESTS" then some "+04"
      else if name = "DEFAULT_MIXING_STRATEGY" then some " CASCADE " else none
    let settings : Settings := ⟨4, .cascade, .blend⟩
    let new := create .empty settings.engineSettings
    Settings.ofVariables setting? = .ok settings ∧ new.gate.free = 4 ∧
      (∀ models prompt timing, new.mixByName " CASCADE " models prompt timing =
        .ok (new.mixDefault models prompt timing)) ∧
      (capacityWarning? ⟨0, .parallel⟩).isSome = true := by
  intro setting? settings new
  have found : Strategy.ofName? (Text.lowercase (Text.trim " CASCADE ")) = some .cascade := by
    decide +kernel
  have parsed : Strategy.parse " CASCADE " = .ok .cascade := by
    unfold Strategy.parse
    rw [found]
  have accepted : Settings.ofVariables setting? = .ok settings :=
    (Settings.ofVariables_eq_ok_iff setting? settings).mpr
      ⟨by decide, by decide +kernel, parsed, rfl⟩
  obtain ⟨configured, wanted⟩ := configured_limit_reaches_gate .empty
  obtain ⟨⟨free, _⟩, later⟩ := configured setting? settings accepted
  obtain ⟨_, _, warned⟩ := wanted ⟨0, .parallel⟩
  exact ⟨accepted, free, fun models prompt => (later [] new .start models prompt).1,
    warned.mpr (by decide)⟩

end Engine

end Triage
