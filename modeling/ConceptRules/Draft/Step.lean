import ConceptRules.Draft.Basic

/-!
# The history of a draft

A draft is made by steps from the empty one.  Each step has a reply.
-/

namespace ConceptRules.Draft

/-- Nothing is defined or submitted yet. -/
def empty : Draft where

/-- A step in making a draft. -/
inductive Step where
  | define (name : String)
  | defineAll (names : List String)
  | assume (assumption : Assumption)
  | setStrict (strict : Bool)
  | submit (rule : Rule)
  deriving DecidableEq

/-- The answer to a step. -/
inductive Reply where
  | done
  | defined (concept : ConceptId)
  | definedAll (concepts : List ConceptId)
  | judged (submission : Submission)
  deriving DecidableEq

/-- The events behind a reply. -/
def Reply.events : Reply → List Event
  | .judged submission => submission.events
  | _ => []

/-- The reply to a step, and the draft after it. -/
def apply (draft : Draft) : Step → Reply × Draft
  | .define name =>
      let defined := draft.define name
      (.defined defined.1, defined.2)
  | .defineAll names =>
      let defined := draft.defineAll names
      (.definedAll defined.1, defined.2)
  | .assume assumption => (.done, { draft with assumption })
  | .setStrict strict => (.done, { draft with strict })
  | .submit rule =>
      let submitted := draft.submit rule
      (.judged submitted.1, submitted.2)

/-- The replies to a list of steps, and the draft after the last one. -/
def run (draft : Draft) : List Step → List Reply × Draft
  | [] => ([], draft)
  | step :: steps =>
      let first := draft.apply step
      let others := first.2.run steps
      (first.1 :: others.1, others.2)

end ConceptRules.Draft
