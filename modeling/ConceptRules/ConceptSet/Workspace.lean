import ConceptRules.ConceptSet.Basic
import ConceptRules.Shelf

/-!
# Editing several sets

A workspace keeps sets at numbered places, and a step edits one of them, maybe
reading another.  Every place holds a value of its own: a step that writes one
place leaves what is at the others as it was.
-/

namespace ConceptRules.ConceptSet

/-- Sets at numbered places. -/
abbrev Workspace := Shelf ConceptSet

/-- No place holds a concept yet. -/
def Workspace.empty : Workspace :=
  .fill ∅

/-- An edit of one place of a workspace. -/
inductive Step where
  | clear (place : Nat)
  | unit (place : Nat) (concept : ConceptId)
  | collect (place : Nat) (concepts : List ConceptId)
  | extend (place : Nat) (concepts : List ConceptId)
  | insert (place : Nat) (concept : ConceptId)
  | erase (place : Nat) (concept : ConceptId)
  | copy (place source : Nat)
  | unite (place source : Nat)
  | intersect (left right place : Nat)
  deriving DecidableEq

namespace Step

/-- The place that a step writes. -/
def target : Step → Nat
  | .clear place => place
  | .unit place _ => place
  | .collect place _ => place
  | .extend place _ => place
  | .insert place _ => place
  | .erase place _ => place
  | .copy place _ => place
  | .unite place _ => place
  | .intersect _ _ place => place

/-- The set that a step writes, read off the workspace before it. -/
def value (workspace : Workspace) : Step → ConceptSet
  | .clear _ => ∅
  | .unit _ concept => singleton concept
  | .collect _ concepts => ofList concepts
  | .extend place concepts => (workspace.get place).insertMany concepts
  | .insert place concept => ((workspace.get place).insertReport concept).2
  | .erase place concept => ((workspace.get place).eraseReport concept).2
  | .copy _ source => workspace.get source
  | .unite place source => workspace.get place ∪ workspace.get source
  | .intersect left right _ => workspace.get left ∩ workspace.get right

/-- Whether a step reports a change: only an insertion and an erasure do. -/
def reportsChange (workspace : Workspace) : Step → Bool
  | .insert place concept => ((workspace.get place).insertReport concept).1
  | .erase place concept => ((workspace.get place).eraseReport concept).1
  | _ => false

/-- The workspace after a step. -/
def apply (workspace : Workspace) (step : Step) : Workspace :=
  workspace.put step.target (step.value workspace)

end Step

/-- The workspace after a list of steps, the first one first. -/
def Workspace.run (workspace : Workspace) (steps : List Step) : Workspace :=
  steps.foldl Step.apply workspace

end ConceptRules.ConceptSet
