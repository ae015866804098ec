import ConceptRules.ConceptSet.Lemmas

/-!
# Triggers

A trigger asks something of the concepts that a subject is: that one concept is
present, or that all, some or exactly one of a group are.  A negated trigger
asks for the contrary.  `Trigger.Holds` says what is asked, and is decidable.
-/

namespace ConceptRules

/-- How many members of a group have to be present. -/
inductive Connective where
  | allOf
  | anyOf
  | oneOf
  deriving DecidableEq

def Connective.text : Connective → String
  | .allOf => "and"
  | .anyOf => "or"
  | .oneOf => "one-of"

theorem nodup_eraseDups (concepts : List ConceptId) :
    concepts.eraseDups.Nodup := by
  match concepts with
  | [] => simp
  | head :: rest =>
      rw [List.eraseDups_cons, List.nodup_cons]
      refine ⟨fun again => ?_, nodup_eraseDups _⟩
      have kept := List.mem_filter.1 (List.mem_eraseDups.1 again)
      simp at kept
termination_by concepts.length
decreasing_by
  exact Nat.lt_succ_of_le (List.length_filter_le _ _)

/-- Concepts that are asked for together, none of them twice. -/
structure Group where
  connective : Connective
  members : List ConceptId
  nodup : members.Nodup
  deriving DecidableEq

namespace Group

/-- The group of a list of concepts, each at its first place in the list. -/
def ofList (connective : Connective) (concepts : List ConceptId) : Group where
  connective := connective
  members := concepts.eraseDups
  nodup := nodup_eraseDups concepts

@[simp]
theorem mem_ofList
    {connective : Connective} {concepts : List ConceptId}
    {concept : ConceptId} :
    concept ∈ (ofList connective concepts).members ↔ concept ∈ concepts :=
  List.mem_eraseDups

/-- As many members are present as the connective asks for. -/
def Holds (group : Group) (present : ConceptSet) : Prop :=
  match group.connective with
  | .allOf => ∀ concept ∈ group.members, concept ∈ present
  | .anyOf => ∃ concept ∈ group.members, concept ∈ present
  | .oneOf =>
      ∃ concept ∈ group.members, concept ∈ present ∧
        ∀ other ∈ group.members, other ∈ present → other = concept

instance (group : Group) (present : ConceptSet) :
    Decidable (group.Holds present) :=
  match group with
  | ⟨.allOf, members, _⟩ =>
      inferInstanceAs (Decidable (∀ concept ∈ members, concept ∈ present))
  | ⟨.anyOf, members, _⟩ =>
      inferInstanceAs (Decidable (∃ concept ∈ members, concept ∈ present))
  | ⟨.oneOf, members, _⟩ =>
      inferInstanceAs (Decidable
        (∃ concept ∈ members, concept ∈ present ∧
          ∀ other ∈ members, other ∈ present → other = concept))

end Group

/-- What a trigger looks for. -/
inductive Pattern where
  | single (concept : ConceptId)
  | grouped (group : Group)
  deriving DecidableEq

namespace Pattern

/-- The concepts that a pattern looks for, in the order in which it was
written. -/
def concepts : Pattern → List ConceptId
  | .single concept => [concept]
  | .grouped group => group.members

/-- What the pattern looks for is present. -/
def Holds (pattern : Pattern) (present : ConceptSet) : Prop :=
  match pattern with
  | .single concept => concept ∈ present
  | .grouped group => group.Holds present

instance (pattern : Pattern) (present : ConceptSet) :
    Decidable (pattern.Holds present) :=
  match pattern with
  | .single concept => inferInstanceAs (Decidable (concept ∈ present))
  | .grouped group => inferInstanceAs (Decidable (group.Holds present))

end Pattern

/-- A pattern that has to be present, or, if negated, has to be absent. -/
structure Trigger where
  negated : Bool
  pattern : Pattern
  deriving DecidableEq

namespace Trigger

/-- The pattern is present exactly as the polarity requires. -/
def Holds (trigger : Trigger) (present : ConceptSet) : Prop :=
  trigger.pattern.Holds present ↔ trigger.negated = false

instance (trigger : Trigger) (present : ConceptSet) :
    Decidable (trigger.Holds present) :=
  inferInstanceAs (Decidable (_ ↔ _))

end Trigger

end ConceptRules
