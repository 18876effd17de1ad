/-
This file proves which rules are learned, and in which order they stand. A rule may be learned at every
site, that is for every type in the data and every position in the library, and it is learned just
where the pattern at this position is well formed and occurs in enough of the messages of the type.
So a pattern that stands twice in the library gives two rules, and no site gives more than one.

The rules are collected site by site and then sorted. The sort is stable: among rules that are equally
sure those come first that were collected first, which is to say that their type is seen earlier in
the data, or that it is the same and their pattern stands earlier in the library.

What a rule is matched by is looked up by the text of its pattern. The text finds the very pattern by
which the rule was learned, so that a rule fires on as many messages of its type as it was counted in.
-/

import Mathlib.Data.List.Sigma
import Triage.Proofs.Learning.Alignment
import Triage.Proofs.Learning.Confidence
import Triage.Proofs.Number.Comparison

namespace Triage

theorem TrainingSet.IsValid.hasEvenColumns {set : TrainingSet} (valid : set.IsValid) :
    set.HasEvenColumns :=
  set.check_eq_ok_iff.mp (set.check_of_isAligned valid.aligned)

theorem IsConfidence.isSized {value : Float} (isConfidence : IsConfidence value) :
    Number.IsSized value := by
  obtain ⟨size, sized, _, _⟩ := isConfidence
  exact sized.isSized

/-! ### Lists -/

section

variable {Item : Type} {le other : Item → Item → Bool} {items : List Item}

theorem mergeSort_congr (same : ∀ one ∈ items, ∀ two ∈ items, le one two = other one two) :
    items.mergeSort le = items.mergeSort other := by
  simpa only [List.map_id] using List.map_mergeSort (f := id) same

section

variable {Rank : Type} [LinearOrder Rank] (rank : Item → Rank) (one two three : Item)

theorem ranked_trans (early : decide (rank two ≤ rank one) = true)
    (late : decide (rank three ≤ rank two) = true) : decide (rank three ≤ rank one) = true :=
  decide_eq_true ((of_decide_eq_true late).trans (of_decide_eq_true early))

theorem ranked_total : (decide (rank two ≤ rank one) || decide (rank one ≤ rank two)) = true := by
  rw [Bool.or_eq_true, decide_eq_true_eq, decide_eq_true_eq]
  exact le_total _ _

end

/-- What is sorted is in the order of the sort, and keeps the order that it had before wherever the
sort makes no difference. -/
theorem stable_mergeSort (trans : ∀ one two three, le one two = true → le two three = true →
      le one three = true) (total : ∀ one two, (le one two || le two one) = true)
    {before : Item → Item → Prop} (ordered : items.Pairwise before) :
    (items.mergeSort le).Pairwise fun one two =>
      le one two = true ∧ (le two one = true → before one two) := by
  -- Items that are numbered can be told apart, and are sorted by their numbers in the end.
  rw [← List.mergeSort_zipIdx, List.pairwise_map]
  have sorted := List.pairwise_mergeSort (List.zipIdxLE_trans trans) (List.zipIdxLE_total total)
    items.zipIdx
  have distinct : (items.zipIdx.mergeSort (List.zipIdxLE le)).Pairwise fun one two => one.2 ≠ two.2 :=
    ((List.mergeSort_perm _ _).pairwise_iff Ne.symm).mpr
      (List.pairwise_map.mp (List.nodup_zipIdx_map_snd items))
  refine (sorted.and distinct).imp_of_mem ?_
  rintro ⟨one, early⟩ ⟨two, late⟩ oneMember twoMember ⟨inOrder, different⟩
  unfold List.zipIdxLE at inOrder
  split at inOrder
  · rename_i isLE
    refine ⟨isLE, fun tied => ?_⟩
    rw [if_pos tied, decide_eq_true_eq] at inOrder
    obtain ⟨earlyBound, rfl⟩ := List.getElem?_eq_some_iff.mp
      (List.mk_mem_zipIdx_iff_getElem?.mp (List.mem_mergeSort.mp oneMember))
    obtain ⟨lateBound, rfl⟩ := List.getElem?_eq_some_iff.mp
      (List.mk_mem_zipIdx_iff_getElem?.mp (List.mem_mergeSort.mp twoMember))
    exact List.pairwise_iff_getElem.mp ordered early late earlyBound lateBound
      (lt_of_le_of_ne inOrder different)
  · exact absurd inOrder Bool.false_ne_true

/-- What is kept of a list can be told by the positions at which something is kept. -/
theorem filterMap_eq_map_filter_range {Value : Type} {items : List Item} {keep? : Item → Option Value}
    {isKept : Nat → Bool} {value : Nat → Value}
    (same : ∀ position item, items[position]? = some item →
      keep? item = if isKept position then some (value position) else none) :
    items.filterMap keep? = ((List.range items.length).filter isKept).map value := by
  induction items using List.reverseRecOn with
  | nil => rfl
  | append_singleton early last inductionHypothesis =>
    have before : early.filterMap keep? = ((List.range early.length).filter isKept).map value := by
      refine inductionHypothesis fun position item listed => same position item ?_
      rw [List.getElem?_append_left (List.getElem?_eq_some_iff.mp listed).1, listed]
    rw [List.filterMap_append, before, List.length_append, List.length_singleton, List.range_succ,
      List.filter_append, List.map_append, List.filterMap_cons, List.filterMap_nil,
      same early.length last List.getElem?_concat_length]
    cases kept : isKept early.length <;> simp [kept]

/-- Keys that are kept once each are in the order in which they first occur. -/
theorem pairwise_eraseDups {Key : Type} [BEq Key] [LawfulBEq Key] (keys : List Key) :
    keys.eraseDups.Pairwise fun one two => keys.idxOf one < keys.idxOf two := by
  induction keys using List.reverseRecOn with
  | nil => exact .nil
  | append_singleton early last inductionHypothesis =>
    have kept : early.eraseDups.Pairwise fun one two =>
        (early ++ [last]).idxOf one < (early ++ [last]).idxOf two := by
      refine inductionHypothesis.imp_of_mem fun oneMember twoMember earlier => ?_
      rwa [List.idxOf_append_of_mem (List.mem_eraseDups.mp oneMember),
        List.idxOf_append_of_mem (List.mem_eraseDups.mp twoMember)]
    rw [Table.eraseDups_append_singleton]
    split
    · exact kept
    · rename_i new
      refine List.pairwise_append.mpr ⟨kept, List.pairwise_singleton _ last, ?_⟩
      intro key member other own
      obtain rfl := List.mem_singleton.mp own
      have known : key ∈ early := List.mem_eraseDups.mp member
      rw [List.idxOf_append_of_mem known, List.idxOf_append_of_notMem new]
      exact (List.idxOf_lt_length_of_mem known).trans_le (Nat.le_add_right _ _)

end

/-! ### Sites -/

/-- Where a rule may be learned: a type and a position in the library. -/
structure Rule.Site where
  errorType : ErrorType
  position : Nat
  deriving DecidableEq

namespace Rule.Site

variable [Pattern.Dialect] (library : List String) (set : TrainingSet) (site : Site)

/-- The pattern at the site, if it is well formed. -/
def pattern? : Option Pattern :=
  library[site.position]?.bind Pattern.compile?

/-- Does the pattern at the site occur in a message? -/
def occursIn (message : String) : Bool :=
  (site.pattern? library).any (·.occursIn message)

/-- In how many messages of the type the pattern occurs. -/
def count : Nat :=
  (set.messagesOf site.errorType).countP (site.occursIn library)

/-- How many messages of the type there are. -/
def total : Nat :=
  (set.messagesOf site.errorType).length

/-- The part of the messages of the type in which the pattern occurs. -/
def confidence : Float :=
  Float.ofNat (site.count library set) / Float.ofNat (site.total set)

/-- The rule that may be learned at the site. -/
def rule : Rule where
  pattern := library[site.position]?.getD ""
  errorType := site.errorType
  confidence := site.confidence library set
  keywords := Keyword.extract (library[site.position]?.getD "") stopwords

/-- A rule is learned at the site. -/
structure IsLearned : Prop where
  listed : site.errorType ∈ set.errorTypes
  compiles : (site.pattern? library).isSome = true
  occurs : 1 ≤ site.count library set
  supported : ¬ Float.ofNat (site.count library set) < Float.ofNat (site.total set) * 0.3

/-- The rule at one site stands before the rule at another one. -/
def Precedes (first second : Site) : Prop :=
  second.confidence library set < first.confidence library set ∨
    (second.confidence library set == first.confidence library set) = true ∧
      (set.errorTypes.idxOf first.errorType < set.errorTypes.idxOf second.errorType ∨
        first.errorType = second.errorType ∧ first.position < second.position)

end Rule.Site

/-! ### Which rules are learned -/

namespace Rule

theorem isSupported_iff (count total : Nat) :
    isSupported count total = true ↔
      1 ≤ count ∧ ¬ Float.ofNat count < Float.ofNat total * 0.3 := by
  unfold isSupported leastSupport
  rw [Bool.and_eq_true, bne_iff_ne, Bool.not_eq_true', decide_eq_false_iff_not,
    Nat.one_le_iff_ne_zero]

/-- Comparing doubles is no total order, but on confidences it is the order of magnitudes. -/
theorem sort_eq {rules : List Rule} (confident : ∀ rule ∈ rules, IsConfidence rule.confidence) :
    sort rules = rules.mergeSort fun first second =>
      decide (Number.magnitude second.confidence ≤ Number.magnitude first.confidence) :=
  mergeSort_congr fun first firstMember second secondMember => decide_eq_decide.mpr
    ((confident second secondMember).isSized.le_iff (confident first firstMember).isSized)

namespace Site

variable [Pattern.Dialect] {library : List String} {set : TrainingSet} {site : Site}

/-- What is supported has been found in a message of the type, so that all else is there, too. -/
theorem isLearned_iff :
    site.IsLearned library set ↔
      isSupported (site.count library set) (site.total set) = true := by
  rw [isSupported_iff]
  refine ⟨fun learned => ⟨learned.occurs, learned.supported⟩, fun ⟨occurs, supported⟩ => ?_⟩
  obtain ⟨message, own, found⟩ := List.countP_pos_iff.mp occurs
  obtain ⟨pattern, compiled, -⟩ := (Option.any_eq_true _ _).mp found
  exact ⟨TrainingSet.mem_errorTypes_of_mem_messagesOf own, compiled ▸ rfl, occurs, supported⟩

instance : DecidablePred fun site : Site => site.IsLearned library set :=
  fun _ => decidable_of_iff _ isLearned_iff.symm

theorem total_pos (learned : site.IsLearned library set) : 0 < site.total set :=
  learned.occurs.trans List.countP_le_length

theorem isConfidence (learned : site.IsLearned library set)
    (countable : set.messages.length < UInt64.size) : IsConfidence (site.confidence library set) :=
  isConfidence_ratio learned.occurs List.countP_le_length
    ((set.length_messagesOf_le site.errorType).trans_lt countable)

/-- The learner does at every site what it should. -/
theorem bind_learn?_eq {source : String} (listed : library[site.position]? = some source) :
    (Pattern.compile? source).bind (learn? site.errorType (set.messagesOf site.errorType)) =
      if site.IsLearned library set then some (site.rule library set) else none := by
  simp only [isLearned_iff]
  have here : site.pattern? library = Pattern.compile? source := by
    unfold pattern?
    rw [listed, Option.bind_some]
  cases compiled : Pattern.compile? source with
  | none =>
    have never : site.count library set = 0 := by
      refine List.countP_eq_zero.mpr fun message _ => ?_
      unfold occursIn
      rw [here, compiled]
      exact Bool.false_ne_true
    rw [never]
    rfl
  | some pattern =>
    have same : site.occursIn library = pattern.occursIn := by
      funext message
      unfold occursIn
      rw [here, compiled]
      rfl
    obtain rfl := Pattern.source_of_compile? compiled
    unfold rule confidence count total
    rw [same, listed]
    rfl

end Site

variable [Pattern.Dialect] {library : List String} {set : TrainingSet}

/-- All sites at which a rule is learned, type by type. -/
def sites (library : List String) (set : TrainingSet) : List Site :=
  (set.samples.map (·.2)).eraseDups.flatMap fun errorType =>
    ((List.range library.length).filter fun position =>
      Site.IsLearned library set ⟨errorType, position⟩).map (Site.mk errorType)

theorem learnUnsorted_eq (library : List String) (set : TrainingSet) :
    learnUnsorted (compileAll library) set = (sites library set).map (Site.rule library set) := by
  unfold learnUnsorted compileAll sites
  rw [TrainingSet.groups_eq, List.flatMap_map, List.map_flatMap]
  refine List.flatMap_congr fun errorType _ => ?_
  show (library.filterMap Pattern.compile?).filterMap (learn? errorType (set.messagesOf errorType)) = _
  rw [List.filterMap_filterMap, List.map_map]
  refine filterMap_eq_map_filter_range fun position source listed => ?_
  rw [@Site.bind_learn?_eq _ library set ⟨errorType, position⟩ source listed]
  simp only [decide_eq_true_eq, Function.comp_apply]

theorem mem_sites {site : Site} : site ∈ sites library set ↔ site.IsLearned library set := by
  unfold sites
  simp only [List.mem_flatMap, List.mem_map, List.mem_filter, decide_eq_true_eq]
  constructor
  · rintro ⟨errorType, _, position, ⟨_, learned⟩, rfl⟩
    exact learned
  · intro learned
    obtain ⟨message, own, _⟩ := List.countP_pos_iff.mp learned.occurs
    have seen : site.errorType ∈ (set.samples.map (·.2)).eraseDups := by
      obtain ⟨sample, kept, -⟩ := List.mem_map.mp own
      obtain ⟨sampled, same⟩ := List.mem_filter.mp kept
      exact List.mem_eraseDups.mpr (List.mem_map.mpr ⟨sample, sampled, of_decide_eq_true same⟩)
    have inside : site.position < library.length := by
      obtain ⟨pattern, compiled⟩ := Option.isSome_iff_exists.mp learned.compiles
      obtain ⟨source, listed, -⟩ := Option.bind_eq_some_iff.mp compiled
      exact (List.getElem?_eq_some_iff.mp listed).1
    exact ⟨site.errorType, seen, site.position, ⟨List.mem_range.mpr inside, learned⟩, rfl⟩

/-- Sites are gone through in the order of the types in the data and of the patterns in the
library. -/
theorem pairwise_sites (even : set.HasEvenColumns) (library : List String) :
    (sites library set).Pairwise fun first second =>
      set.errorTypes.idxOf first.errorType < set.errorTypes.idxOf second.errorType ∨
        first.errorType = second.errorType ∧ first.position < second.position := by
  unfold sites
  rw [even.samples_errorTypes, List.pairwise_flatMap]
  refine ⟨fun errorType _ => ?_, (pairwise_eraseDups set.errorTypes).imp fun earlier => ?_⟩
  · refine List.pairwise_map.mpr ((List.pairwise_lt_range.filter _).imp fun less => ?_)
    exact .inr ⟨rfl, less⟩
  · intro first firstMember second secondMember
    obtain ⟨_, _, rfl⟩ := List.mem_map.mp firstMember
    obtain ⟨_, _, rfl⟩ := List.mem_map.mp secondMember
    exact .inl earlier

theorem nodup_sites (even : set.HasEvenColumns) (library : List String) :
    (sites library set).Nodup := by
  refine (pairwise_sites even library).imp ?_
  rintro first second before rfl
  obtain earlier | ⟨-, less⟩ := before
  · exact lt_irrefl _ earlier
  · exact lt_irrefl _ less

/-- Learned rules stand by their confidences, and else by the order of their sites. -/
theorem exists_sort_eq (valid : set.IsValid) (library : List String) :
    ∃ ranked : List Site, sort (learnUnsorted (compileAll library) set) =
        ranked.map (Site.rule library set) ∧ ranked.Perm (sites library set) ∧
      ranked.Pairwise (Site.Precedes library set) := by
  have even := valid.hasEvenColumns
  let size (site : Site) := Number.magnitude (Site.confidence library set site)
  have confident {site : Site} (member : site ∈ sites library set) :
      IsConfidence (Site.confidence library set site) :=
    Site.isConfidence (mem_sites.mp member) valid.countable
  refine ⟨(sites library set).mergeSort fun first second => decide (size second ≤ size first),
    ?_, List.mergeSort_perm _ _, ?_⟩
  · have ofRules : ∀ rule ∈ (sites library set).map (Site.rule library set),
        IsConfidence rule.confidence :=
      List.forall_mem_map.mpr fun _ member => confident member
    rw [learnUnsorted_eq, sort_eq ofRules]
    exact (List.map_mergeSort (f := Site.rule library set) fun _ _ _ _ => rfl).symm
  · refine (stable_mergeSort (ranked_trans size) (ranked_total size)
      (pairwise_sites even library)).imp_of_mem ?_
    rintro first second firstMember secondMember ⟨ordered, tied⟩
    have firstSized := (confident (List.mem_mergeSort.mp firstMember)).isSized
    have secondSized := (confident (List.mem_mergeSort.mp secondMember)).isSized
    obtain less | equal := (of_decide_eq_true ordered).lt_or_eq
    · exact .inl ((secondSized.lt_iff firstSized).mpr less)
    · exact .inr ⟨(secondSized.beq_iff firstSized).mpr equal, tied (decide_eq_true equal.ge)⟩

end Rule

/-! ### The rules of a classifier -/

namespace RuleClassifier

section

variable [Pattern.Dialect] (classifier : RuleClassifier) {set : TrainingSet} {site : Rule.Site}

theorem rules_fit (checked : set.check = .ok ()) :
    (classifier.fit set).1.rules =
      Rule.sort (Rule.learnUnsorted (Rule.compileAll classifier.library) set) := by
  rw [classifier.fit_of_ok checked]
  exact classifier.rules_buildRules set

/-- Whether a rule fires depends on the library, and on nothing else in the data. -/
theorem fires_fit_congr {other : RuleClassifier} {otherSet : TrainingSet}
    (checked : set.check = .ok ()) (otherChecked : otherSet.check = .ok ())
    (same : classifier.library = other.library) :
    (classifier.fit set).1.fires = (other.fit otherSet).1.fires := by
  rw [classifier.fit_of_ok checked, other.fit_of_ok otherChecked]
  obtain ⟨_, library, _, _, _⟩ := classifier
  obtain ⟨_, otherLibrary, _, _, _⟩ := other
  obtain rfl : library = otherLibrary := same
  rfl

/-- The text of a learned rule finds the pattern of its site. -/
theorem pattern?_rule (learned : site.IsLearned classifier.library set) :
    (classifier.buildRules set).pattern? (site.rule classifier.library set).pattern =
      site.pattern? classifier.library := by
  obtain ⟨pattern, compiled⟩ := Option.isSome_iff_exists.mp learned.compiles
  obtain ⟨source, listed, -⟩ := Option.bind_eq_some_iff.mp compiled
  have text : (site.rule classifier.library set).pattern = source := by
    unfold Rule.Site.rule
    rw [listed]
    rfl
  rw [text, Rule.Site.pattern?, listed]
  exact Rule.find?_compileAll (List.mem_of_getElem? listed)

theorem fires_rule (learned : site.IsLearned classifier.library set) (message : String) :
    (classifier.buildRules set).fires message (site.rule classifier.library set) =
      site.occursIn classifier.library message := by
  unfold fires Rule.Site.occursIn
  rw [classifier.pattern?_rule learned]

/-- The rules that are learned are known in full. A fit to a valid set gives just one rule for every
site at which one should be learned: where the type occurs, the pattern is well formed and occurs in
any of the messages of the type, and these are not too few. The rules stand by their confidences, and
else in the order in which their types are first seen, or in that of the library. There are messages
of the type of a rule, the text of its pattern finds the pattern itself, and it fires on as many of
these messages as it was counted in. On any message just those rules fire whose patterns occur in
it. -/
theorem learns_one_rule_for_each_site (valid : set.IsValid) :
    let fitted := (classifier.fit set).1
    let library := classifier.library
    (classifier.fit set).2 = .ok () ∧
      ∃ sites : List Rule.Site,
        fitted.rules = sites.map (Rule.Site.rule library set) ∧
          (sites.Nodup ∧ ∀ site, site ∈ sites ↔ site.IsLearned library set) ∧
          sites.Pairwise (Rule.Site.Precedes library set) ∧
          (∀ site ∈ sites, 0 < site.total set ∧
            (∃ pattern, site.pattern? library = some pattern ∧
              fitted.pattern? (site.rule library set).pattern = some pattern) ∧
            (set.messagesOf site.errorType).countP
              (fun message => fitted.fires message (site.rule library set)) =
                site.count library set) ∧
          ∀ message, fitted.firing message =
            (sites.filter fun site => site.occursIn library message).map
              (Rule.Site.rule library set) := by
  intro fitted library
  have fit : classifier.fit set = ({ classifier.buildRules set with isFitted := true }, .ok ()) :=
    classifier.fit_of_ok (set.check_of_isAligned valid.aligned)
  obtain ⟨sites, sorted, same, ranked⟩ := Rule.exists_sort_eq valid library
  have rules : fitted.rules = sites.map (Rule.Site.rule library set) := by
    rw [← sorted, ← classifier.rules_buildRules set]
    exact congrArg (·.1.rules) fit
  have learned (site : Rule.Site) : site ∈ sites ↔ site.IsLearned library set :=
    same.mem_iff.trans Rule.mem_sites
  have fires {site : Rule.Site} (member : site ∈ sites) (message : String) :
      fitted.fires message (site.rule library set) = site.occursIn library message := by
    rw [← classifier.fires_rule ((learned site).mp member)]
    exact congrArg (fun result => result.1.fires message (site.rule library set)) fit
  refine ⟨congrArg Prod.snd fit, sites, rules, ⟨?_, learned⟩, ranked, fun site member => ?_,
    fun message => ?_⟩
  · exact same.nodup_iff.mpr (Rule.nodup_sites valid.hasEvenColumns library)
  · have isLearned := (learned site).mp member
    obtain ⟨pattern, compiled⟩ := Option.isSome_iff_exists.mp isLearned.compiles
    refine ⟨Rule.Site.total_pos isLearned, ⟨pattern, compiled, ?_⟩, ?_⟩
    · rw [← compiled, ← classifier.pattern?_rule isLearned]
      exact congrArg (fun result => result.1.pattern? (site.rule library set).pattern) fit
    · exact List.countP_congr fun message _ => by rw [fires member message]
  · unfold firing
    rw [rules, List.filter_map]
    exact congrArg _ (List.filter_congr fun site member => fires member message)

end

/-- The case of a library with a pattern that is malformed and one that stands there twice. -/
theorem learns_one_rule_for_each_site_of_repeated_pattern :
    let set : TrainingSet := ⟨["link lost", "frame late", "link late", "route lost"],
      [.networkError, .networkError, .timeoutError, .networkError], [], []⟩
    let library := ["lost", "(", "lost", "late"]
    let fitted := (({ name := "own", library } : RuleClassifier).fit set).1
    ∃ sites : List Rule.Site,
      fitted.rules = sites.map (Rule.Site.rule library set) ∧
        (sites.Nodup ∧ sites.Pairwise (Rule.Site.Precedes library set)) ∧
        ⟨.networkError, 0⟩ ∈ sites ∧ ⟨.networkError, 2⟩ ∈ sites ∧ ⟨.networkError, 1⟩ ∉ sites := by
  intro set library fitted
  have valid : set.IsValid := ⟨rfl, by decide⟩
  obtain ⟨_, sites, rules, ⟨distinct, learned⟩, ranked, _⟩ :=
    learns_one_rule_for_each_site { name := "own", library } valid
  refine ⟨sites, rules, ⟨distinct, ranked⟩, (learned _).mpr ?_, (learned _).mpr ?_, fun member => ?_⟩
  · exact Rule.Site.isLearned_iff.mpr (by decide +kernel)
  · exact Rule.Site.isLearned_iff.mpr (by decide +kernel)
  · exact absurd ((learned _).mp member).compiles (by decide +kernel)

end RuleClassifier

end Triage
