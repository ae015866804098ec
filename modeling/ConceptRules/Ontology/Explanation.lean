import ConceptRules.Ontology.Basic

/-!
# Explaining a fact

A fact of a resolution was supposed from the beginning, or standing rules state
it, or both.  An explanation names these reasons, one step back and no further.
-/

namespace ConceptRules

/-- The reasons for a fact. -/
structure Explanation where
  verb : Verb
  concept : ConceptId
  /-- The fact was supposed. -/
  asserted : Bool
  /-- The standing rules that state the fact, in order of admission. -/
  supporters : List RuleId
  deriving DecidableEq

/-- There is some reason for the fact. -/
def Explanation.holds (explanation : Explanation) : Bool :=
  explanation.asserted || !explanation.supporters.isEmpty

/-- A rule of the ontology states the fact. -/
def Ontology.States
    (ontology : Ontology) (verb : Verb) (concept : ConceptId)
    (id : RuleId) : Prop :=
  ∃ rule ∈ ontology.rule? id, rule.consequence.Holds verb concept

instance
    (ontology : Ontology) (verb : Verb) (concept : ConceptId) (id : RuleId) :
    Decidable (ontology.States verb concept id) :=
  match found : ontology.rule? id with
  | none => isFalse (by simp [Ontology.States, found])
  | some rule =>
      decidable_of_iff (rule.consequence.Holds verb concept)
        (by simp [Ontology.States, found])

/-- The reasons for a fact of a resolution under the rules of an ontology. -/
def Resolution.explain
    (resolution : Resolution) (ontology : Ontology)
    (verb : Verb) (concept : ConceptId) : Explanation where
  verb
  concept
  asserted := decide (resolution.base.Holds verb concept)
  supporters := resolution.standing.filter fun id =>
    ontology.States verb concept id

end ConceptRules
