import ConceptRules.Advice.Rules
import ConceptRules.Draft.Closing
import ConceptRules.Draft.Step
import ConceptRules.Proofs.Accounting
import ConceptRules.Proofs.Completion
import ConceptRules.Proofs.Drafting
import ConceptRules.Proofs.Growth
import ConceptRules.Proofs.Partition

/-!
# Suggested rules

A rule is tried if its last gap has no redundant concepts.  That gap was seen on
some closure of the resolution, and the amendment starts from the supposed facts
instead.  These are part of every closure, so what the rule wanted there it
wants of them as well, and the amendment only adds (`Inquiry.Completes`).

The suggested facts trigger the rule.  Whether it then stands is not asked, and
it need not: other rules that are admitted with it may upset it, and it is
withdrawn.
-/

namespace ConceptRules

/-! ## Which rules are tried -/

theorem Resolution.mem_completable_iff
    {resolution : Resolution} {id : RuleId} :
    id ∈ resolution.completable ↔
      ∃ missing, (id, ⟨missing, []⟩) ∈ resolution.unmet := by
  rw [completable, List.mem_map]
  constructor
  · rintro ⟨⟨_, missing, redundant⟩, member, rfl⟩
    obtain ⟨reported, noneRedundant⟩ := List.mem_filter.1 member
    cases redundant with
    | nil => exact ⟨missing, reported⟩
    | cons => cases noneRedundant
  · rintro ⟨missing, reported⟩
    exact ⟨_, List.mem_filter.2 ⟨reported, rfl⟩, rfl⟩

/-- A rule that is tried wants something of the base. -/
theorem exists_wants_of_mem_completable
    {base : Facts} {rules : List Rule} {id : RuleId}
    (completable : id ∈ (resolve base rules).completable) :
    ∃ rule ∈ rules[id.index]?, ∃ missing,
      rule.trigger.Wants base.is missing := by
  obtain ⟨missing, reported⟩ := Resolution.mem_completable_iff.1 completable
  obtain ⟨_, rule, listed, state, _, verdict⟩ :=
    not_standing_and_observed_of_mem_unmet reported
  have within := State.base_within_closure base state
  exact ⟨rule, listed, (Trigger.Wants.of_verdict verdict).of_subset (within .is)⟩

theorem Ontology.amend_eq_ok_iff
    {ontology : Ontology} {limit : Nat} {id : RuleId} {facts amended : Facts} :
    ontology.amend limit id facts = .ok amended ↔
      ∃ rule ∈ ontology.rule? id, ∃ present,
        rule.trigger.amend limit facts.is = .ok present ∧
          amended = { facts with is := present } := by
  rw [amend]
  cases ontology.rule? id with
  | none => simp
  | some rule => simp [Rule.amend_eq_ok_iff]

theorem Attempt.suggestion?_eq_some_iff
    {attempt : Attempt} {suggestion : Suggestion} :
    attempt.suggestion? = some suggestion ↔
      ∃ run, attempt = .resolved suggestion.rule suggestion.facts run ∧
        suggestion.resolution = run.resolution ∧
        suggestion.resolution.isCompatible = true := by
  obtain ⟨rule, facts, resolution⟩ := suggestion
  cases attempt with
  | abandoned => simp [suggestion?]
  | contradicted => simp [suggestion?]
  | resolved tried amended run =>
      by_cases sound : run.resolution.isCompatible = true
      · simp only [suggestion?, if_pos sound, Option.some.injEq,
          Suggestion.mk.injEq, resolved.injEq]
        grind
      · simp only [suggestion?, if_neg sound, resolved.injEq]
        grind

namespace Inquiry

variable {inquiry : Inquiry} {suggestion : Suggestion}

theorem tryRule_eq_resolved_iff
    {id rule : RuleId} {facts : Facts} {run : Run} :
    inquiry.tryRule id = .resolved rule facts run ↔
      rule = id ∧
        inquiry.ontology.amend inquiry.stepLimit id inquiry.supposed =
          .ok facts ∧
        inquiry.supposed.Compatible facts ∧
        run = inquiry.ontology.run facts := by
  rw [tryRule]
  cases inquiry.ontology.amend inquiry.stepLimit id inquiry.supposed with
  | error failure => simp
  | ok amended =>
      by_cases agrees : inquiry.supposed.Compatible amended
      · simp only [if_pos agrees, Attempt.resolved.injEq, Except.ok.injEq]
        grind
      · simp only [if_neg agrees, Except.ok.injEq]
        grind

theorem rule_eq_of_suggestion?
    {id : RuleId} (suggests : (inquiry.tryRule id).suggestion? = some suggestion) :
    suggestion.rule = id := by
  obtain ⟨run, attempted, _⟩ := Attempt.suggestion?_eq_some_iff.1 suggests
  exact (tryRule_eq_resolved_iff.1 attempted).1

/-- If what is supposed is sound, then the rules that lack concepts and have
none too many are tried in list order. -/
theorem furtherRules_of_isCompatible
    (sound : inquiry.current.resolution.isCompatible = true) :
    inquiry.furtherRules =
      inquiry.current.resolution.completable.filterMap fun id =>
        (inquiry.tryRule id).suggestion? := by
  rw [furtherRules, attempts, if_pos sound, List.filterMap_map]
  rfl

/-- Otherwise nothing is suggested. -/
theorem furtherRules_of_not_isCompatible
    (unsound : ¬inquiry.current.resolution.isCompatible = true) :
    inquiry.furtherRules = [] := by
  rw [furtherRules, attempts, if_neg unsound, List.filterMap_nil]

theorem mem_furtherRules_iff :
    suggestion ∈ inquiry.furtherRules ↔
      inquiry.current.resolution.isCompatible = true ∧
        suggestion.rule ∈ inquiry.current.resolution.completable ∧
        inquiry.ontology.amend inquiry.stepLimit suggestion.rule
            inquiry.supposed = .ok suggestion.facts ∧
        inquiry.supposed.Compatible suggestion.facts ∧
        suggestion.resolution = inquiry.ontology.resolve suggestion.facts ∧
        suggestion.resolution.isCompatible = true := by
  by_cases sound : inquiry.current.resolution.isCompatible = true
  · rw [furtherRules_of_isCompatible sound, and_iff_right sound]
    simp only [List.mem_filterMap, Attempt.suggestion?_eq_some_iff,
      tryRule_eq_resolved_iff]
    constructor
    · rintro ⟨id, isCompletable, run, ⟨rfl, amended, agrees, rfl⟩, rest⟩
      exact ⟨isCompletable, amended, agrees, rest⟩
    · rintro ⟨isCompletable, amended, agrees, rest⟩
      exact ⟨_, isCompletable, _, ⟨rfl, amended, agrees, rfl⟩, rest⟩
  · rw [furtherRules_of_not_isCompatible sound]
    simp [sound]

theorem mem_furtherRules_of_suggestion?
    {id : RuleId} (sound : inquiry.current.resolution.isCompatible = true)
    (isCompletable : id ∈ inquiry.current.resolution.completable)
    (suggests : (inquiry.tryRule id).suggestion? = some suggestion) :
    suggestion ∈ inquiry.furtherRules := by
  rw [furtherRules_of_isCompatible sound]
  exact List.mem_filterMap.2 ⟨id, isCompletable, suggests⟩

/-! ## What a suggestion adds -/

/-- The suggested facts are the supposed ones and members of the pattern, enough
of them for the trigger of the rule to hold. -/
structure Completes
    (inquiry : Inquiry) (suggestion : Suggestion) (rule : Rule) : Prop where
  notNegated : rule.trigger.negated = false
  notTriggered : ¬rule.trigger.Holds inquiry.supposed.is
  sameIsnt : suggestion.facts.isnt = inquiry.supposed.isnt
  sameCanBe : suggestion.facts.canBe = inquiry.supposed.canBe
  contained : inquiry.supposed.is ⊆ suggestion.facts.is
  someAdded : ∃ concept ∈ suggestion.facts.is, concept ∉ inquiry.supposed.is
  added : ∀ concept ∈ suggestion.facts.is, concept ∉ inquiry.supposed.is →
    concept ∈ rule.trigger.pattern.concepts ∧
      concept ∉ inquiry.supposed.isnt
  triggered : rule.trigger.Holds suggestion.facts.is
  resolved : suggestion.resolution = inquiry.ontology.resolve suggestion.facts
  isCompatible : suggestion.resolution.isCompatible = true

theorem exists_completes_of_mem_furtherRules
    (suggested : suggestion ∈ inquiry.furtherRules) :
    ∃ rule ∈ inquiry.ontology.rule? suggestion.rule,
      inquiry.Completes suggestion rule := by
  obtain ⟨_, isCompletable, amended, agrees, resolved, isCompatible⟩ :=
    mem_furtherRules_iff.1 suggested
  obtain ⟨rule, listed, present, completed, sameFacts⟩ :=
    Ontology.amend_eq_ok_iff.1 amended
  obtain ⟨_, sameListed, missing, wants⟩ :=
    exists_wants_of_mem_completable isCompletable
  cases listed.symm.trans sameListed
  have samePresent : present = suggestion.facts.is := by rw [sameFacts]
  subst samePresent
  have notTriggered := wants.not_holds
  have triggered := Trigger.holds_of_amend_eq_ok completed
  obtain ⟨contained, fromPattern⟩ :=
    Trigger.subset_and_mem_of_amend_eq_ok (Or.inr ⟨missing, wants⟩) completed
  refine ⟨rule, listed, ?_⟩
  constructor
  · exact wants.negated_eq_false completed
  · exact notTriggered
  · rw [sameFacts]
  · rw [sameFacts]
  · exact contained
  · exact Trigger.exists_added contained notTriggered triggered
  · intro concept isAdded notSupposed
    constructor
    · exact (fromPattern concept isAdded).resolve_left notSupposed
    · intro denied
      exact (Facts.compatible_iff.1 agrees).2 concept denied isAdded
  · exact triggered
  · exact resolved
  · exact isCompatible

theorem furtherRules_ascending (inquiry : Inquiry) :
    inquiry.furtherRules.Pairwise fun earlier later =>
      earlier.rule.index < later.rule.index := by
  have tried :
      inquiry.current.resolution.completable.Pairwise
        fun earlier later => earlier.index < later.index :=
    List.pairwise_map.2
      ((unmet_resolve_ascending inquiry.supposed
        inquiry.ontology.rules).filter _)
  by_cases sound : inquiry.current.resolution.isCompatible = true
  · rw [furtherRules_of_isCompatible sound, List.pairwise_filterMap]
    refine tried.imp ?_
    intro earlier later precedes first isFirst second isSecond
    rw [rule_eq_of_suggestion? isFirst, rule_eq_of_suggestion? isSecond]
    exact precedes
  · rw [furtherRules_of_not_isCompatible sound]
    exact List.Pairwise.nil

/-- Every suggestion only adds, and the rules are suggested in list order. -/
theorem furtherRules_only_add (inquiry : Inquiry) :
    (∀ suggestion ∈ inquiry.furtherRules,
        ∃ rule ∈ inquiry.ontology.rule? suggestion.rule,
          inquiry.Completes suggestion rule) ∧
      inquiry.furtherRules.Pairwise fun earlier later =>
        earlier.rule.index < later.rule.index := by
  constructor
  · intro suggestion suggested
    exact exists_completes_of_mem_furtherRules suggested
  · exact furtherRules_ascending inquiry

/-- The gap of the second rule is seen while the first rule stands, so that only
the chain is missing.  What is supposed lacks the wheels as well. -/
def assembly : Inquiry where
  supposed := .ofIs [⟨0⟩]
  ontology :=
    { vocabulary :=
        (Draft.empty.defineAll
          ["frame", "wheels", "chain", "bicycle"]).2.vocabulary
      rules :=
        [⟨⟨true, .single ⟨3⟩⟩, [⟨.is, ⟨1⟩⟩]⟩,
          ⟨⟨false, .grouped (.ofList .allOf [⟨0⟩, ⟨1⟩, ⟨2⟩])⟩,
            [⟨.is, ⟨3⟩⟩]⟩] }

theorem furtherRules_only_add_assembly :
    ∃ suggestion ∈ assembly.furtherRules,
      suggestion.facts = .ofIs [⟨0⟩, ⟨1⟩, ⟨2⟩] ∧
        ∃ rule ∈ assembly.ontology.rule? suggestion.rule,
          assembly.Completes suggestion rule := by
  obtain ⟨suggestion, suggested, sameFacts⟩ :
      ∃ suggestion ∈ assembly.furtherRules,
        suggestion.facts = .ofIs [⟨0⟩, ⟨1⟩, ⟨2⟩] := by
    decide +kernel
  exact ⟨suggestion, suggested, sameFacts,
    (furtherRules_only_add assembly).1 suggestion suggested⟩

end Inquiry

/-! ## Whether a triggered rule stands -/

section Fate

variable {base : Facts} {rules : List Rule} {id : RuleId} {rule : Rule}

/-- A rule that the base triggers fits it or contradicts it; if it fits, then it
is admitted, and stands unless it is withdrawn. -/
theorem standing_iff_of_triggered
    (listed : rules[id.index]? = some rule)
    (triggered : rule.trigger.Holds base.is) :
    id ∈ (resolve base rules).standing ↔
      id ∉ (resolve base rules).withdrawn ∧
        base.Compatible rule.consequence := by
  constructor
  · intro stands
    obtain ⟨notWithdrawn, other, otherListed, fits⟩ := mem_standing_iff.1 stands
    cases listed.symm.trans otherListed
    exact ⟨notWithdrawn,
      Facts.compatible_of_holds_imp (base_within_closure_resolve base rules)
        (Rule.appraise_eq_fits_iff.1 fits).2⟩
  · rintro ⟨notWithdrawn, compatible⟩
    have admitted : id ∈ (Run.ofRules base rules).admissions :=
      mem_admissions_of_fits_base listed
        (Rule.appraise_eq_fits_iff.2 ⟨triggered, compatible⟩)
    exact (mem_admissions_iff.1 admitted).resolve_right notWithdrawn

theorem standing_iff_of_positive
    (listed : rules[id.index]? = some rule)
    (positive : rule.trigger.Positive)
    (triggered : rule.trigger.Holds base.is)
    (noneBarred : (resolve base rules).isCompatible = true) :
    id ∈ (resolve base rules).standing ↔
      id ∉ (resolve base rules).withdrawn := by
  constructor
  · intro stands
    exact (mem_standing_iff.1 stands).1
  · intro notWithdrawn
    have stillTriggered : rule.trigger.Holds (resolve base rules).closure.is :=
      positive.holds_of_within (base_within_closure_resolve base rules) triggered
    rcases standing_or_barred_or_withdrawn listed stillTriggered with
      stands | isBarred | isWithdrawn
    · exact stands
    · rw [List.isEmpty_iff.1 noneBarred] at isBarred
      cases isBarred
    · exact absurd isWithdrawn notWithdrawn

end Fate

namespace Inquiry

/-- A suggested rule stands unless other rules upset it or its consequence
contradicts the suggested facts.  The latter cannot be if more facts leave the
trigger in force, for the rule would still be barred in the end. -/
theorem furtherRules_standing_iff (inquiry : Inquiry) :
    ∀ suggestion ∈ inquiry.furtherRules,
      ∃ rule ∈ inquiry.ontology.rule? suggestion.rule,
        (suggestion.rule ∈ suggestion.resolution.standing ↔
            suggestion.rule ∉ suggestion.resolution.withdrawn ∧
              suggestion.facts.Compatible rule.consequence) ∧
          (rule.trigger.Positive →
            (suggestion.rule ∈ suggestion.resolution.standing ↔
              suggestion.rule ∉ suggestion.resolution.withdrawn)) := by
  intro suggestion suggested
  obtain ⟨rule, listed, completes⟩ :=
    exists_completes_of_mem_furtherRules suggested
  have noneBarred := completes.isCompatible
  rw [completes.resolved] at noneBarred
  refine ⟨rule, listed, ?_⟩
  rw [completes.resolved]
  constructor
  · exact standing_iff_of_triggered listed completes.triggered
  · intro positive
    exact standing_iff_of_positive listed positive completes.triggered noneBarred

/-- What is supposed bars the first rule, if it is triggered, and the second rule
then takes its trigger away. -/
def disputed : Inquiry where
  supposed := .ofIs [⟨2⟩]
  ontology :=
    { vocabulary :=
        (Draft.empty.defineAll ["left", "right", "marked"]).2.vocabulary
      rules :=
        [⟨⟨false, .grouped (.ofList .oneOf [⟨0⟩, ⟨1⟩])⟩, [⟨.isnt, ⟨2⟩⟩]⟩,
          ⟨⟨false, .single ⟨0⟩⟩, [⟨.is, ⟨1⟩⟩]⟩] }

theorem furtherRules_standing_iff_disputed :
    ∃ suggestion ∈ disputed.furtherRules,
      suggestion.rule ∉ suggestion.resolution.standing ∧
        suggestion.rule ∉ suggestion.resolution.withdrawn ∧
        ∃ rule ∈ disputed.ontology.rule? suggestion.rule,
          ¬suggestion.facts.Compatible rule.consequence ∧
            ¬rule.trigger.Positive := by
  have sound : disputed.current.resolution.isCompatible = true := by
    decide +kernel
  have isCompletable : ⟨0⟩ ∈ disputed.current.resolution.completable := by
    apply Resolution.mem_completable_iff.2
    exact ⟨[⟨0⟩, ⟨1⟩], State.mem_unmet_iff.2 (by decide +kernel)⟩
  obtain ⟨suggestion, suggests, notStanding, notWithdrawn⟩ :
      ∃ suggestion ∈ (disputed.tryRule ⟨0⟩).suggestion?,
        suggestion.rule ∉ suggestion.resolution.standing ∧
          suggestion.rule ∉ suggestion.resolution.withdrawn := by
    decide +kernel
  have suggested : suggestion ∈ disputed.furtherRules :=
    mem_furtherRules_of_suggestion? sound isCompletable suggests
  obtain ⟨rule, listed, stands_iff, stands_iff_of_positive⟩ :=
    furtherRules_standing_iff disputed suggestion suggested
  refine ⟨suggestion, suggested, notStanding, notWithdrawn, rule, listed, ?_, ?_⟩
  · intro compatible
    exact notStanding (stands_iff.2 ⟨notWithdrawn, compatible⟩)
  · intro positive
    exact notStanding ((stands_iff_of_positive positive).2 notWithdrawn)

end Inquiry

/-- The first two rules of the list upset each other, and each of them is
suggested all the same. -/
def quarrelDraft : Draft :=
  (Draft.empty.run
    (.defineAll ["bridge", "open", "guarded", "free"] ::
      quarrel.map .submit)).2

/-- With nothing supposed, under the rules of that draft. -/
def quarrelInquiry : Inquiry where
  supposed := ∅
  ontology := quarrelDraft.finished

theorem suggested_rule_withdrawn :
    ∃ ontology ∈ quarrelDraft.finish.toOption,
      ∃ suggestion ∈ ({ supposed := ∅, ontology } : Inquiry).furtherRules,
        suggestion.rule ∈ suggestion.resolution.withdrawn ∧
          suggestion.rule ∉ suggestion.resolution.standing := by
  have finished :
      quarrelDraft.finish.toOption = some quarrelDraft.finished := by
    rw [Draft.finish_eq]
    rfl
  have sound : quarrelInquiry.current.resolution.isCompatible = true := by
    decide +kernel
  have isCompletable :
      ⟨0⟩ ∈ quarrelInquiry.current.resolution.completable := by
    apply Resolution.mem_completable_iff.2
    exact ⟨[⟨0⟩], State.mem_unmet_iff.2 (by decide +kernel)⟩
  obtain ⟨suggestion, suggests, isWithdrawn, notStanding⟩ :
      ∃ suggestion ∈ (quarrelInquiry.tryRule ⟨0⟩).suggestion?,
        suggestion.rule ∈ suggestion.resolution.withdrawn ∧
          suggestion.rule ∉ suggestion.resolution.standing := by
    decide +kernel
  have suggested : suggestion ∈ quarrelInquiry.furtherRules :=
    Inquiry.mem_furtherRules_of_suggestion? sound isCompletable suggests
  exact ⟨quarrelDraft.finished, finished, suggestion, suggested, isWithdrawn,
    notStanding⟩

end ConceptRules
