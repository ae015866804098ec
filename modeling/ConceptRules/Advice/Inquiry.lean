import ConceptRules.Ontology.Basic

/-!
# Asking for advice

An inquiry supposes some facts of a subject and asks how they could be carried
further under the rules of an ontology.  Advice is given only where the
supposed facts are sound, that is, where no rule contradicts what follows from
them; and every proposal is tried on the supposed facts by itself.
-/

namespace ConceptRules

/-- Supposed facts, and what to respect when proposing more. -/
structure Inquiry where
  supposed : Facts
  ontology : Ontology
  /-- The rules that a proposal may upset. -/
  overridable : List RuleId := []
  /-- The concepts that are never proposed. -/
  excludedConcepts : List ConceptId := []
  /-- Rules that the asker has set aside.  They are handed back and do not
  change the advice. -/
  excludedRules : List RuleId := []
  /-- The number of edits allowed in an amendment. -/
  stepLimit : Nat := defaultStepLimit
  deriving DecidableEq

namespace Inquiry

/-- What follows from the supposed facts alone. -/
def current (inquiry : Inquiry) : Run :=
  inquiry.ontology.run inquiry.supposed

/-- The excluded rules in ascending order, each once. -/
def excludedRuleList (inquiry : Inquiry) : List RuleId :=
  (sortOn RuleId.index inquiry.excludedRules).eraseDups

end Inquiry

end ConceptRules
