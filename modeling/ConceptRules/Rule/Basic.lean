import ConceptRules.Facts.Clash
import ConceptRules.Trigger.Verdict

/-!
# Rules

A rule reads: when the trigger holds of a subject, then the declared facts do.
The declarations are kept as they were written.  The consequence is what they
amount to: a fact is in it exactly when it was declared
(`Rule.holds_consequence_iff`), so order and repetition do not matter there.
-/

namespace ConceptRules

/-- A fact that a rule states. -/
structure Declaration where
  verb : Verb
  concept : ConceptId
  deriving DecidableEq

/-- A trigger and the facts that it entails. -/
structure Rule where
  trigger : Trigger
  declared : List Declaration
  deriving DecidableEq

namespace Rule

/-- The declared facts. -/
def consequence (rule : Rule) : Facts :=
  rule.declared.foldl
    (fun facts declaration =>
      facts.insert declaration.verb declaration.concept)
    ∅

/-- Every concept that the rule mentions, those of the trigger first. -/
def concepts (rule : Rule) : List ConceptId :=
  rule.trigger.pattern.concepts ++ rule.declared.map Declaration.concept

private theorem holds_foldl_insert
    {declared : List Declaration} {facts : Facts}
    {verb : Verb} {concept : ConceptId} :
    (declared.foldl
        (fun facts declaration =>
          facts.insert declaration.verb declaration.concept)
        facts).Holds verb concept ↔
      ⟨verb, concept⟩ ∈ declared ∨ facts.Holds verb concept := by
  induction declared generalizing facts with
  | nil => simp
  | cons declaration rest inductionHypothesis =>
      obtain ⟨headVerb, headConcept⟩ := declaration
      rw [List.foldl_cons, inductionHypothesis, Facts.holds_insert,
        List.mem_cons, Declaration.mk.injEq]
      grind

@[simp]
theorem holds_consequence_iff
    {rule : Rule} {verb : Verb} {concept : ConceptId} :
    rule.consequence.Holds verb concept ↔ ⟨verb, concept⟩ ∈ rule.declared := by
  rw [consequence, holds_foldl_insert]
  simp

theorem mem_concepts_of_holds
    {rule : Rule} {verb : Verb} {concept : ConceptId}
    (states : rule.consequence.Holds verb concept) :
    concept ∈ rule.concepts := by
  have declared := holds_consequence_iff.1 states
  exact List.mem_append_right _ (List.mem_map_of_mem declared)

end Rule

end ConceptRules
