import ConceptRules.Advice.Inquiry

/-!
# Concepts that could be added

A concept is proposed if a subject with the supposed facts can be that concept
as well: the facts stay sound, and every standing rule that must not be upset
still stands.  Concepts that are already settled one way or the other are not
tried: those that the supposed facts assert or deny, those that follow from
them, and those that the inquiry excludes.
-/

namespace ConceptRules

/-- A concept that was tried. -/
structure Trial where
  concept : ConceptId
  /-- The resolution of the supposed facts with the concept. -/
  run : Run
  accepted : Bool
  deriving DecidableEq

def Trial.events (trial : Trial) : List Event :=
  trial.run.events ++ [.trial trial.concept trial.accepted]

namespace Inquiry

/-- The standing rules that a proposal must not upset. -/
def required (inquiry : Inquiry) (current : Resolution) : List RuleId :=
  current.standing.filter (· ∉ inquiry.overridable)

/-- The concepts that are worth trying, in order of definition. -/
def openConcepts
    (inquiry : Inquiry) (current : Resolution) : List ConceptId :=
  (inquiry.ontology.vocabulary.concepts.map Concept.id).filter fun concept =>
    concept ∉ inquiry.supposed.is ∧ concept ∉ inquiry.supposed.isnt ∧
      concept ∉ current.closure.is ∧ concept ∉ inquiry.excludedConcepts

/-- Try one concept, given the rules that must stand. -/
def tryConcept
    (inquiry : Inquiry) (required : List RuleId) (concept : ConceptId) :
    Trial :=
  let run := inquiry.ontology.run (inquiry.supposed.insert .is concept)
  let resolution := run.resolution
  { concept, run
    accepted := resolution.isCompatible && required.all resolution.isStanding }

/-- All trials, given what follows from the supposed facts. -/
def trials (inquiry : Inquiry) (current : Resolution) : List Trial :=
  if current.isCompatible then
    (inquiry.openConcepts current).map
      (inquiry.tryConcept (inquiry.required current))
  else
    []

/-- The concepts that could be added. -/
def furtherConcepts (inquiry : Inquiry) : List ConceptId :=
  ((inquiry.trials inquiry.current.resolution).filter Trial.accepted).map
    Trial.concept

/-- The events of looking for concepts. -/
def furtherConceptEvents (inquiry : Inquiry) : List Event :=
  let current := inquiry.current
  current.events
    ++ (inquiry.trials current.resolution).flatMap Trial.events

end Inquiry

end ConceptRules
