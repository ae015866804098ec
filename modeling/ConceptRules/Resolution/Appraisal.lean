import ConceptRules.Rule.Basic

/-!
# Appraising a rule

Against a body of facts a rule is in one of three positions: its trigger does
not hold; or it holds, but the consequence contradicts the facts; or the rule
fits.  `Rule.appraise_eq_fits_iff` and its two companions say which.
-/

namespace ConceptRules

/-- The position of a rule against a body of facts. -/
inductive Appraisal where
  | unmet (gap : Gap)
  | barred (clash : Clash)
  | fits
  deriving DecidableEq

/-- Only a rule with a holding trigger is asked whether it contradicts the
facts. -/
def Rule.appraise (rule : Rule) (facts : Facts) : Appraisal :=
  match rule.trigger.verdict facts.is with
  | .fails gap => .unmet gap
  | .holds =>
      if facts.Compatible rule.consequence then
        .fits
      else
        .barred (facts.clash rule.consequence)

theorem Rule.appraise_eq_fits_iff {rule : Rule} {facts : Facts} :
    rule.appraise facts = .fits ↔
      rule.trigger.Holds facts.is ∧ facts.Compatible rule.consequence := by
  rw [← Trigger.verdict_eq_holds_iff, appraise]
  cases rule.trigger.verdict facts.is with
  | holds =>
      by_cases compatible : facts.Compatible rule.consequence <;>
        simp [compatible]
  | fails gap => simp

theorem Rule.appraise_eq_barred_iff
    {rule : Rule} {facts : Facts} {clash : Clash} :
    rule.appraise facts = .barred clash ↔
      rule.trigger.Holds facts.is ∧
        ¬facts.Compatible rule.consequence ∧
        clash = facts.clash rule.consequence := by
  rw [← Trigger.verdict_eq_holds_iff, appraise]
  cases rule.trigger.verdict facts.is with
  | holds =>
      by_cases compatible : facts.Compatible rule.consequence <;>
        simp [compatible, eq_comm]
  | fails gap => simp

theorem Rule.appraise_eq_unmet_iff
    {rule : Rule} {facts : Facts} {gap : Gap} :
    rule.appraise facts = .unmet gap ↔
      rule.trigger.verdict facts.is = .fails gap := by
  rw [appraise]
  cases rule.trigger.verdict facts.is with
  | holds =>
      by_cases compatible : facts.Compatible rule.consequence <;>
        simp [compatible]
  | fails other => simp

end ConceptRules
