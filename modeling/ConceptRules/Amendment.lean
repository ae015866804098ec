import ConceptRules.Rule.Basic
import ConceptRules.Fault

/-!
# Amending facts until a rule's trigger holds

An amendment edits the concepts that a subject is, one at a time: it adds the
first missing concept, or, if none is missing, drops the first redundant one,
and reads the trigger again.  The number of edits is limited.  An amendment
stops short when the limit is reached, or when the trigger fails and nothing
can be said to be missing or redundant, as for a group without members.

What the subject isn't or can be is neither read nor changed.
-/

namespace ConceptRules

/-- A change of one concept. -/
inductive Edit where
  | add (concept : ConceptId)
  | drop (concept : ConceptId)
  deriving DecidableEq

/-- The concepts after an edit. -/
def Edit.apply (present : ConceptSet) : Edit → ConceptSet
  | .add concept => present.insert concept
  | .drop concept => present.erase concept

/-- The edit that an amendment tries first. -/
def Gap.edit? (gap : Gap) : Option Edit :=
  match gap.missing, gap.redundant with
  | concept :: _, _ => some (.add concept)
  | [], concept :: _ => some (.drop concept)
  | [], [] => none

/-- Why an amendment stopped short. -/
inductive Obstacle where
  | stepsSpent
  | nothingToEdit
  deriving DecidableEq

/-- Edit the present concepts, at most as often as the steps allow, until the
trigger holds. -/
def Trigger.amend (trigger : Trigger) (steps : Nat) (present : ConceptSet) :
    Except Obstacle ConceptSet :=
  match trigger.verdict present with
  | .holds => .ok present
  | .fails gap =>
      match steps with
      | 0 => .error .stepsSpent
      | remaining + 1 =>
          match gap.edit? with
          | none => .error .nothingToEdit
          | some edit => trigger.amend remaining (edit.apply present)

/-- The failure to report for an obstacle. -/
def Obstacle.failure (limit : Nat) (name : Option RuleId) :
    Obstacle → Failure
  | .stepsSpent => { fault := .stepLimit limit name }
  | .nothingToEdit => { fault := .emptyGroup }

/-- The number of edits allowed where nothing else is said. -/
def defaultStepLimit : Nat := 10000

/-- Facts in which the trigger of a rule holds, found by editing what the
subject is.  The name is that of the rule in reports, if it has one. -/
def Rule.amend
    (rule : Rule) (limit : Nat) (name : Option RuleId) (facts : Facts) :
    Except Failure Facts :=
  match rule.trigger.amend limit facts.is with
  | .ok present => .ok { facts with is := present }
  | .error obstacle => .error (obstacle.failure limit name)

end ConceptRules
