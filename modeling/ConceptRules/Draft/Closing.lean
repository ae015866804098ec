import ConceptRules.Draft.Basic

/-!
# Finishing a draft

To finish a draft, every concept is closed under the rules: what is known of a
subject of which just that concept is supposed becomes part of the concept.  A
rule that contradicts such a closure is a finding, listed after the rules that
the draft dropped; it does not keep the ontology from being made.
-/

namespace ConceptRules

/-- A concept and the run that closes it. -/
structure Closing where
  concept : Concept
  run : Run
  deriving DecidableEq

namespace Closing

/-- The concept with what the run found out. -/
def closed (closing : Closing) : Concept :=
  let resolution := closing.run.resolution
  { closing.concept with
    closure := resolution.closure
    standing := resolution.standing }

/-- The rules that contradict the closure. -/
def findings (closing : Closing) : List Finding :=
  closing.run.barred.map fun entry =>
    .contradicted closing.concept.id entry.1 entry.2

def events (closing : Closing) : List Event :=
  closing.run.events ++ closing.run.barred.map fun entry =>
    .conceptContradicted closing.concept.name entry.1

end Closing

namespace Draft

/-- Every concept of the draft, closed under its rules. -/
def closings (draft : Draft) : List Closing :=
  draft.vocabulary.concepts.map fun concept =>
    { concept, run := .ofRules concept.closure draft.rules }

/-- The finished ontology. -/
def finish (draft : Draft) : Except Failure Ontology := do
  let closings := draft.closings
  let vocabulary ← Vocabulary.ofConcepts? (closings.map Closing.closed)
  return {
    vocabulary
    rules := draft.rules
    findings := draft.findings ++ closings.flatMap Closing.findings }

/-- The events of finishing the draft. -/
def finishEvents (draft : Draft) : List Event :=
  draft.closings.flatMap Closing.events

end Draft

end ConceptRules
