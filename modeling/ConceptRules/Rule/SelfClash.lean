import ConceptRules.Rule.Basic

/-!
# Rules that contradict themselves

A rule contradicts itself if its consequence asserts and denies one concept, or
if the consequence leaves no way for the trigger to hold.  The second happens,
for a group with members, when

* *all of* them are asked for and some are denied;
* *any of* them is asked for and all are denied;
* *one of* them is asked for and two are asserted, or all are denied;
* *not all of* them is asked for and all are asserted;
* *none of* them is asked for and some are asserted;
* *not one of* them is asked for, one is asserted and all others are denied.

The concepts named are those of the consequence: `asserted` what it asserts and
the trigger has to do without, `denied` what it denies and the trigger needs
(`Rule.selfClash_takenFrom`).
-/

namespace ConceptRules

/-- The members that a consequence asserts or denies and that keep the group,
or, if negated, its contrary, from being satisfied. -/
def Group.opposition
    (group : Group) (negated : Bool) (consequence : Facts) : Clash :=
  let asserted := group.found consequence.is
  let denied := group.found consequence.isnt
  match group.connective, negated with
  | .allOf, false => { denied := .ofList denied }
  | .allOf, true =>
      if asserted.length = group.members.length then
        { asserted := .ofList asserted }
      else
        {}
  | .anyOf, false =>
      if denied.length = group.members.length then
        { denied := .ofList denied }
      else
        {}
  | .anyOf, true => { asserted := .ofList asserted }
  | .oneOf, false =>
      if 1 < asserted.length then
        { asserted := .ofList asserted }
      else if denied.length = group.members.length then
        { denied := .ofList denied }
      else
        {}
  | .oneOf, true =>
      if asserted.length = 1 ∧ denied.length + 1 = group.members.length then
        { asserted := .ofList asserted, denied := .ofList denied }
      else
        {}

/-- The concepts through which a consequence keeps a trigger from holding. -/
def Trigger.opposition (trigger : Trigger) (consequence : Facts) : Clash :=
  match trigger.pattern with
  | .single concept =>
      if trigger.negated then
        if concept ∈ consequence.is then
          { asserted := .singleton concept }
        else
          {}
      else if concept ∈ consequence.isnt then
        { denied := .singleton concept }
      else
        {}
  | .grouped group => group.opposition trigger.negated consequence

/-- Where a rule contradicts itself. -/
def Rule.selfClash (rule : Rule) : Clash :=
  (rule.consequence.clash rule.consequence).merge
    (rule.trigger.opposition rule.consequence)

/-! ## What is named -/

/-- The clash names only concepts that the facts assert and that they deny. -/
structure Clash.TakenFrom (clash : Clash) (facts : Facts) : Prop where
  asserted : ∀ concept ∈ clash.asserted, facts.Holds .is concept
  denied : ∀ concept ∈ clash.denied, facts.Holds .isnt concept

section TakenFrom

variable {clash left right : Clash} {facts : Facts}

theorem Clash.takenFrom_none : ({} : Clash).TakenFrom facts :=
  ⟨fun _ named => absurd named ConceptSet.not_mem_empty,
    fun _ named => absurd named ConceptSet.not_mem_empty⟩

theorem Clash.TakenFrom.ite
    {condition : Prop} [Decidable condition]
    (leftTaken : left.TakenFrom facts) (rightTaken : right.TakenFrom facts) :
    (if condition then left else right).TakenFrom facts := by
  split
  case isTrue => exact leftTaken
  case isFalse => exact rightTaken

theorem Clash.TakenFrom.merge
    (leftTaken : left.TakenFrom facts) (rightTaken : right.TakenFrom facts) :
    (left.merge right).TakenFrom facts := by
  constructor
  · intro concept named
    rcases ConceptSet.mem_union.1 named with inLeft | inRight
    · exact leftTaken.asserted concept inLeft
    · exact rightTaken.asserted concept inRight
  · intro concept named
    rcases ConceptSet.mem_union.1 named with inLeft | inRight
    · exact leftTaken.denied concept inLeft
    · exact rightTaken.denied concept inRight

theorem Facts.clash_self_takenFrom (facts : Facts) :
    (facts.clash facts).TakenFrom facts := by
  constructor
  · intro concept named
    exact (ConceptSet.mem_inter.1 named).1
  · intro concept named
    exact (ConceptSet.mem_inter.1 named).1

end TakenFrom

theorem Group.opposition_takenFrom
    (group : Group) (negated : Bool) (consequence : Facts) :
    (group.opposition negated consequence).TakenFrom consequence := by
  have found_mem (present : ConceptSet) (concept : ConceptId)
      (named : concept ∈ ConceptSet.ofList (group.found present)) :
      concept ∈ present := by
    have isFound := ConceptSet.mem_ofList.1 named
    exact of_decide_eq_true (List.mem_filter.1 isFound).2
  have both :
      (⟨.ofList (group.found consequence.is),
          .ofList (group.found consequence.isnt)⟩ : Clash).TakenFrom
        consequence :=
    ⟨found_mem consequence.is, found_mem consequence.isnt⟩
  have assertedOnly :
      (⟨.ofList (group.found consequence.is), ∅⟩ : Clash).TakenFrom
        consequence :=
    ⟨both.asserted, Clash.takenFrom_none.denied⟩
  have deniedOnly :
      (⟨∅, .ofList (group.found consequence.isnt)⟩ : Clash).TakenFrom
        consequence :=
    ⟨Clash.takenFrom_none.asserted, both.denied⟩
  obtain ⟨connective, members, nodup⟩ := group
  cases connective with
  | allOf =>
      cases negated with
      | false => exact deniedOnly
      | true => exact assertedOnly.ite Clash.takenFrom_none
  | anyOf =>
      cases negated with
      | false => exact deniedOnly.ite Clash.takenFrom_none
      | true => exact assertedOnly
  | oneOf =>
      cases negated with
      | false =>
          exact assertedOnly.ite (deniedOnly.ite Clash.takenFrom_none)
      | true => exact both.ite Clash.takenFrom_none

theorem Trigger.opposition_takenFrom
    (trigger : Trigger) (consequence : Facts) :
    (trigger.opposition consequence).TakenFrom consequence := by
  obtain ⟨negated, pattern⟩ := trigger
  cases pattern with
  | grouped group => exact group.opposition_takenFrom negated consequence
  | single concept =>
      cases negated with
      | true =>
          by_cases isAsserted : concept ∈ consequence.is
          · simp only [opposition, if_true, if_pos isAsserted]
            refine ⟨?_, Clash.takenFrom_none.denied⟩
            intro named isNamed
            rw [ConceptSet.mem_singleton.1 isNamed]
            exact isAsserted
          · simp only [opposition, if_true, if_neg isAsserted]
            exact Clash.takenFrom_none
      | false =>
          by_cases isDenied : concept ∈ consequence.isnt
          · simp only [opposition, Bool.false_eq_true, if_false,
              if_pos isDenied]
            refine ⟨Clash.takenFrom_none.asserted, ?_⟩
            intro named isNamed
            rw [ConceptSet.mem_singleton.1 isNamed]
            exact isDenied
          · simp only [opposition, Bool.false_eq_true, if_false,
              if_neg isDenied]
            exact Clash.takenFrom_none

theorem Rule.selfClash_takenFrom (rule : Rule) :
    rule.selfClash.TakenFrom rule.consequence :=
  rule.consequence.clash_self_takenFrom.merge
    (rule.trigger.opposition_takenFrom rule.consequence)

end ConceptRules
