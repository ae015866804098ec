import Mathlib.Logic.ExistsUnique
import ConceptRules.Proofs.Admission
import ConceptRules.Proofs.Report

/-!
# What becomes of every rule

A rule stands, or was withdrawn, or was never admitted; and a rule that was
never admitted is either triggered by the closure or not.  Those that are
triggered are the barred ones, and for those that are not the report of gaps
has the verdict on the closure: the last round admits nothing, so nothing that
it reads changes afterwards.

The report of gaps may have older entries, for rules that were withdrawn or are
barred.  They are verdicts as well, though on a closure of some earlier time
(`Observed`).
-/

namespace ConceptRules

variable {base : Facts} {rules : List Rule} {id : RuleId} {rule : Rule}

/-! ## The four outcomes -/

/-- What may become of a rule. -/
inductive Outcome where
  | standing
  | withdrawn
  | barred
  | unmet
  deriving DecidableEq

/-- The outcome is that of the rule at some place of the list. -/
def Outcome.Applies
    (base : Facts) (rules : List Rule) (id : RuleId) (rule : Rule) :
    Outcome → Prop
  | .standing => id ∈ (resolve base rules).standing
  | .withdrawn => id ∈ (resolve base rules).withdrawn
  | .barred =>
      id ∉ (Run.ofRules base rules).admissions ∧
        rule.trigger.Holds (resolve base rules).closure.is
  | .unmet =>
      id ∉ (Run.ofRules base rules).admissions ∧
        ¬rule.trigger.Holds (resolve base rules).closure.is

theorem exists_outcome
    (base : Facts) (rules : List Rule) (id : RuleId) (rule : Rule) :
    ∃ outcome : Outcome, outcome.Applies base rules id rule := by
  by_cases admitted : id ∈ (Run.ofRules base rules).admissions
  · rcases mem_admissions_iff.1 admitted with stands | isWithdrawn
    · exact ⟨.standing, stands⟩
    · exact ⟨.withdrawn, isWithdrawn⟩
  · by_cases triggered : rule.trigger.Holds (resolve base rules).closure.is
    · exact ⟨.barred, admitted, triggered⟩
    · exact ⟨.unmet, admitted, triggered⟩

theorem Outcome.eq_of_applies
    {left right : Outcome}
    (leftApplies : left.Applies base rules id rule)
    (rightApplies : right.Applies base rules id rule) : left = right := by
  have notBoth :
      id ∈ (resolve base rules).standing →
        id ∉ (resolve base rules).withdrawn :=
    fun stands => (mem_standing_iff.1 stands).1
  have admitted_iff :
      id ∈ (Run.ofRules base rules).admissions ↔
        id ∈ (resolve base rules).standing ∨
          id ∈ (resolve base rules).withdrawn :=
    mem_admissions_iff
  -- A rule of the last two outcomes is not admitted, and the trigger tells
  -- these two apart.
  cases left <;> cases right <;> grind [Outcome.Applies]

/-! ## Barred rules -/

theorem mem_barred_iff_applies {clash : Clash} :
    (id, clash) ∈ (resolve base rules).barred ↔
      ∃ rule ∈ rules[id.index]?,
        Outcome.barred.Applies base rules id rule ∧
          clash = (resolve base rules).closure.clash rule.consequence := by
  rw [mem_barred_iff]
  constructor
  · rintro ⟨notWithdrawn, rule, listed, appraised⟩
    obtain ⟨triggered, contradicted, sameClash⟩ :=
      Rule.appraise_eq_barred_iff.1 appraised
    refine ⟨rule, listed, ⟨fun admitted => ?_, triggered⟩, sameClash⟩
    rcases mem_admissions_iff.1 admitted with stands | isWithdrawn
    · obtain ⟨_, other, otherListed, fits⟩ := mem_standing_iff.1 stands
      rw [listed] at otherListed
      cases otherListed
      rw [fits] at appraised
      cases appraised
    · exact notWithdrawn isWithdrawn
  · rintro ⟨rule, listed, ⟨notAdmitted, triggered⟩, sameClash⟩
    rw [mem_admissions_iff, not_or] at notAdmitted
    obtain ⟨notStanding, notWithdrawn⟩ := notAdmitted
    refine ⟨notWithdrawn, rule, listed,
      Rule.appraise_eq_barred_iff.2 ⟨triggered, fun compatible => ?_, sameClash⟩⟩
    exact notStanding (mem_standing_iff.2 ⟨notWithdrawn, rule, listed,
      Rule.appraise_eq_fits_iff.2 ⟨triggered, compatible⟩⟩)

theorem isEmpty_eq_false_of_mem_barred
    {entry : RuleId × Clash} (isBarred : entry ∈ (resolve base rules).barred) :
    entry.2.isEmpty = false := by
  obtain ⟨_, rule, _, appraised⟩ := mem_barred_iff.1 isBarred
  obtain ⟨_, contradicted, sameClash⟩ := Rule.appraise_eq_barred_iff.1 appraised
  rw [sameClash]
  exact Bool.eq_false_iff.2 contradicted

/-! ## Gaps -/

/-- The verdict on the closure is reported for a rule that was never admitted
and is not triggered. -/
theorem mem_unmet_of_applies
    (listed : rules[id.index]? = some rule)
    (applies : Outcome.unmet.Applies base rules id rule) :
    ∃ gap, rule.trigger.verdict (resolve base rules).closure.is = .fails gap ∧
      (id, gap) ∈ (resolve base rules).unmet := by
  obtain ⟨notAdmitted, notTriggered⟩ := applies
  rw [mem_admissions_iff, not_or] at notAdmitted
  obtain ⟨candidate, pends, rfl, rfl⟩ :=
    exists_pending_of_not_admitted listed notAdmitted.1 notAdmitted.2
  rw [← Trigger.verdict_eq_holds_iff] at notTriggered
  cases verdict :
      candidate.rule.trigger.verdict (resolve base rules).closure.is with
  | holds => exact absurd verdict notTriggered
  | fails gap =>
      refine ⟨gap, rfl, ?_⟩
      rw [closure_resolve] at verdict
      have noted :
          candidate.rule.noted ((State.atRest base rules).closure base)
            candidate.gap = some gap := by
        rw [Rule.noted, Rule.appraise_eq_unmet_iff.2 verdict]
      exact (mem_unmet_resolve_iff base rules).2
        (Or.inl ⟨candidate, pends, rfl, noted⟩)

/-- The gap is that of the rule on some closure of the resolution. -/
def Observed
    (base : Facts) (rules : List Rule) (rule : Rule) (gap : Gap) : Prop :=
  ∃ state, State.Reaches base (State.start rules) state ∧
    rule.trigger.verdict (state.closure base).is = .fails gap

namespace State

variable {state target : State}

/-- Every gap on record was observed. -/
def RecordsObserved
    (base : Facts) (rules : List Rule) (state : State) : Prop :=
  ∀ stage, ∀ candidate ∈ state.members stage, ∀ gap,
    candidate.gap = some gap → Observed base rules candidate.rule gap

theorem recordsObserved_start (base : Facts) (rules : List Rule) :
    (start rules).RecordsObserved base rules := by
  intro stage candidate member gap recorded
  rw [(mem_members_start.1 member).2.1] at recorded
  cases recorded

/-- A review records what is observed there and then, or leaves the record as it
is. -/
theorem RecordsObserved.observed_of_noted
    (reached : Reaches base (start rules) state)
    (observed : state.RecordsObserved base rules)
    (stage : Stage) {candidate : Candidate}
    (member : candidate ∈ state.members stage) {gap : Gap}
    (noted : candidate.rule.noted (state.closure base) candidate.gap =
      some gap) :
    Observed base rules candidate.rule gap := by
  rw [Rule.noted] at noted
  split at noted
  case h_1 current appraised =>
    cases noted
    exact ⟨state, reached, Rule.appraise_eq_unmet_iff.1 appraised⟩
  case h_2 => exact observed stage candidate member gap noted

theorem RecordsObserved.move
    (reached : Reaches base (start rules) state)
    (observed : state.RecordsObserved base rules)
    (move : Move base state target) :
    target.RecordsObserved base rules := by
  intro stage candidate member gap recorded
  cases move with
  | promote =>
      cases stage with
      | pending =>
          obtain ⟨earlier, pends, _, rfl⟩ := mem_pending_promote_iff.1 member
          rw [Candidate.gap_review] at recorded
          rw [Candidate.rule_review]
          exact observed.observed_of_noted reached .pending pends recorded
      | standing =>
          rcases mem_standing_promote_iff.1 member with stood | ⟨pends, _⟩
          · exact observed .standing candidate stood gap recorded
          · exact observed .pending candidate pends gap recorded
      | withdrawn => exact observed .withdrawn candidate member gap recorded
  | withdraw =>
      cases stage with
      | pending => exact observed .pending candidate member gap recorded
      | standing =>
          have stood := (mem_standing_withdraw_iff.1 member).1
          exact observed .standing candidate stood gap recorded
      | withdrawn =>
          rcases mem_withdrawn_withdraw_iff.1 member with
            already | ⟨earlier, stood, _, rfl⟩
          · exact observed .withdrawn candidate already gap recorded
          · rw [Candidate.gap_review] at recorded
            rw [Candidate.rule_review]
            exact observed.observed_of_noted reached .standing stood recorded

theorem Reaches.recordsObserved
    (reached : Reaches base (start rules) state) :
    state.RecordsObserved base rules := by
  induction reached with
  | refl => exact recordsObserved_start base rules
  | tail earlier move inductionHypothesis =>
      exact inductionHypothesis.move earlier move

end State

/-- A reported gap was observed, and the rule does not stand. -/
theorem not_standing_and_observed_of_mem_unmet
    {gap : Gap} (reported : (id, gap) ∈ (resolve base rules).unmet) :
    id ∉ (resolve base rules).standing ∧
      ∃ rule ∈ rules[id.index]?, Observed base rules rule gap := by
  have reached := State.reaches_atRest base rules
  have observed := reached.recordsObserved
  rcases (mem_unmet_resolve_iff base rules).1 reported with
    ⟨candidate, pends, rfl, noted⟩ | ⟨candidate, isWithdrawn, rfl, recorded⟩
  · refine ⟨not_mem_standing_of_mem_members .pending (by decide) pends,
      candidate.rule, State.getElem?_of_mem_members .pending pends, ?_⟩
    exact observed.observed_of_noted reached .pending pends noted
  · refine ⟨not_mem_standing_of_mem_members .withdrawn (by decide) isWithdrawn,
      candidate.rule, State.getElem?_of_mem_members .withdrawn isWithdrawn, ?_⟩
    exact observed .withdrawn candidate isWithdrawn gap recorded

/-! ## Main result -/

/-- Each rule has one of four outcomes.  The barred rules are reported in list
order, with the clashes that bar them; a rule that was never admitted and is not
triggered is reported with its verdict on the closure; and gaps are reported in
list order, at most one for a rule, each one observed and none of a standing
rule. -/
theorem resolve_accounts_for_rules (base : Facts) (rules : List Rule) :
    (∀ id : RuleId, ∀ rule ∈ rules[id.index]?,
        ∃! outcome : Outcome, outcome.Applies base rules id rule) ∧
      (∀ id clash, (id, clash) ∈ (resolve base rules).barred ↔
        ∃ rule ∈ rules[id.index]?,
          Outcome.barred.Applies base rules id rule ∧
            clash = (resolve base rules).closure.clash rule.consequence) ∧
      ((resolve base rules).barred.Pairwise
        fun earlier later => earlier.1.index < later.1.index) ∧
      (∀ entry ∈ (resolve base rules).barred, entry.2.isEmpty = false) ∧
      (∀ id : RuleId, ∀ rule ∈ rules[id.index]?,
        Outcome.unmet.Applies base rules id rule →
          ∃ gap,
            rule.trigger.verdict (resolve base rules).closure.is =
                .fails gap ∧
              (id, gap) ∈ (resolve base rules).unmet) ∧
      ((resolve base rules).unmet.Pairwise
        fun earlier later => earlier.1.index < later.1.index) ∧
      ∀ id gap, (id, gap) ∈ (resolve base rules).unmet →
        id ∉ (resolve base rules).standing ∧
          ∃ rule ∈ rules[id.index]?, Observed base rules rule gap := by
  refine ⟨?_, ?_, barred_resolve_ascending base rules, ?_, ?_,
    unmet_resolve_ascending base rules, ?_⟩
  · intro id rule _
    obtain ⟨outcome, applies⟩ := exists_outcome base rules id rule
    exact ⟨outcome, applies,
      fun _ otherApplies => Outcome.eq_of_applies otherApplies applies⟩
  · intro id clash
    exact mem_barred_iff_applies
  · intro entry isBarred
    exact isEmpty_eq_false_of_mem_barred isBarred
  · intro id rule listed applies
    exact mem_unmet_of_applies listed applies
  · intro id gap reported
    exact not_standing_and_observed_of_mem_unmet reported

/-- The rules of this list have one outcome each, in another order than that in
which the outcomes are listed. -/
def fourOutcomes : List Rule :=
  [⟨⟨true, .single ⟨1⟩⟩, [⟨.is, ⟨2⟩⟩]⟩,
    ⟨⟨false, .single ⟨0⟩⟩, [⟨.is, ⟨1⟩⟩]⟩,
    ⟨⟨false, .single ⟨0⟩⟩, [⟨.isnt, ⟨0⟩⟩]⟩,
    ⟨⟨false, .single ⟨3⟩⟩, [⟨.is, ⟨2⟩⟩]⟩]

theorem resolve_accounts_for_rules_fourOutcomes :
    Outcome.unmet.Applies (.ofIs [⟨0⟩]) fourOutcomes ⟨3⟩ fourOutcomes[3] ∧
      (∃ gap,
        fourOutcomes[3].trigger.verdict
            (resolve (.ofIs [⟨0⟩]) fourOutcomes).closure.is = .fails gap ∧
          (⟨3⟩, gap) ∈ (resolve (.ofIs [⟨0⟩]) fourOutcomes).unmet) ∧
      ∃! outcome : Outcome,
        outcome.Applies (.ofIs [⟨0⟩]) fourOutcomes ⟨0⟩ fourOutcomes[0] := by
  have applies :
      Outcome.unmet.Applies (.ofIs [⟨0⟩]) fourOutcomes ⟨3⟩
        fourOutcomes[3] := by
    constructor
    · decide +kernel
    · decide +kernel
  obtain ⟨oneOutcome, _, _, _, unmetReported, _⟩ :=
    resolve_accounts_for_rules (.ofIs [⟨0⟩]) fourOutcomes
  exact ⟨applies, unmetReported ⟨3⟩ fourOutcomes[3] rfl applies,
    oneOutcome ⟨0⟩ fourOutcomes[0] rfl⟩

end ConceptRules
