import ConceptRules.Advice.Inquiry

/-!
# Rules that could be made to hold

A rule that the supposed facts do not trigger can be proposed together with
facts that do.  Only rules that lack concepts and have none too many are tried.
The facts are an amendment of the supposed ones; it must not contradict them,
and what follows from it has to be sound.
-/

namespace ConceptRules

/-- What came of trying to make a rule hold. -/
inductive Attempt where
  | abandoned (rule : RuleId) (failure : Failure)
  /-- The amended facts contradict the supposed ones. -/
  | contradicted (rule : RuleId)
  | resolved (rule : RuleId) (facts : Facts) (run : Run)
  deriving DecidableEq

/-- A rule, facts that trigger it and what follows from them. -/
structure Suggestion where
  rule : RuleId
  facts : Facts
  resolution : Resolution
  deriving DecidableEq

namespace Attempt

/-- The suggestion that an attempt leads to. -/
def suggestion? : Attempt → Option Suggestion
  | .abandoned _ _ => none
  | .contradicted _ => none
  | .resolved rule facts run =>
      let resolution := run.resolution
      if resolution.isCompatible then
        some { rule, facts, resolution }
      else
        none

def events : Attempt → List Event
  | .abandoned rule failure => [.repairAbandoned rule failure.fault]
  | .contradicted _ => []
  | .resolved _ _ run => run.events

end Attempt

namespace Inquiry

/-- Try to make one rule hold. -/
def tryRule (inquiry : Inquiry) (rule : RuleId) : Attempt :=
  match inquiry.ontology.amend inquiry.stepLimit rule inquiry.supposed with
  | .error failure => .abandoned rule failure
  | .ok facts =>
      if inquiry.supposed.Compatible facts then
        .resolved rule facts (inquiry.ontology.run facts)
      else
        .contradicted rule

/-- All attempts, given what follows from the supposed facts. -/
def attempts (inquiry : Inquiry) (current : Resolution) : List Attempt :=
  if current.isCompatible then
    current.completable.map inquiry.tryRule
  else
    []

/-- The rules that could be made to hold. -/
def furtherRules (inquiry : Inquiry) : List Suggestion :=
  (inquiry.attempts inquiry.current.resolution).filterMap Attempt.suggestion?

/-- The events of looking for rules. -/
def furtherRuleEvents (inquiry : Inquiry) : List Event :=
  let current := inquiry.current
  current.events
    ++ (inquiry.attempts current.resolution).flatMap Attempt.events

end Inquiry

end ConceptRules
