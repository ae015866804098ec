import ConceptRules.Ontology.Vocabulary
import ConceptRules.Amendment
import ConceptRules.Resolution.Basic

/-!
# Ontologies

An ontology is a vocabulary with the rules that govern it.  It is only read:
resolving facts, explaining them and asking for advice leave it as it is.
-/

namespace ConceptRules

/-- Something worth telling about the making of an ontology. -/
inductive Finding where
  /-- A rule contradicts the closure of a concept. -/
  | contradicted (concept : ConceptId) (rule : RuleId) (clash : Clash)
  /-- A submitted rule contradicts itself and was left out. -/
  | rejected (position : Nat) (clash : Clash)
  deriving DecidableEq

/-- Concepts and the rules that govern them. -/
structure Ontology where
  vocabulary : Vocabulary := {}
  rules : List Rule := []
  findings : List Finding := []
  deriving DecidableEq

namespace Ontology

def rule? (ontology : Ontology) (id : RuleId) : Option Rule :=
  ontology.rules[id.index]?

/-- Resolve facts under the rules of the ontology, keeping the record. -/
def run (ontology : Ontology) (facts : Facts) : Run :=
  .ofRules facts ontology.rules

/-- What is known of a subject of which some facts are supposed. -/
def resolve (ontology : Ontology) (facts : Facts) : Resolution :=
  (ontology.run facts).resolution

/-- Facts amended until the trigger of a rule of the ontology holds. -/
def amend
    (ontology : Ontology) (limit : Nat) (id : RuleId) (facts : Facts) :
    Except Failure Facts :=
  match ontology.rule? id with
  | none => .error { fault := .unknownRule id }
  | some rule => rule.amend limit (some id) facts

end Ontology

end ConceptRules
