import ConceptRules.Amendment

/-!
# Completing what is present

A trigger may fail for want of concepts only, so that nothing has to be dropped
for it to hold.  There are four such cases (`Trigger.Wants`), and three of them
are those of triggers that are not negated.  In the fourth the group has no
members, and an amendment stops short.

Two things follow.  What is wanted is wanted of fewer concepts as well; and an
amendment that starts from such a case adds members of the pattern until the
trigger holds, and drops nothing.
-/

namespace ConceptRules

namespace Trigger

variable {trigger : Trigger} {present : ConceptSet} {missing : List ConceptId}

/-- The trigger fails and nothing is redundant.  Missing are the one concept, or
the absent members of a group that has to be present as a whole, or all members
of another group while none of them is present.  Nothing is missing (`void`) if
the whole of a group without members has to be absent. -/
inductive Wants : Trigger → ConceptSet → List ConceptId → Prop where
  | single {concept : ConceptId} {present : ConceptSet}
      (absent : concept ∉ present) :
      Wants ⟨false, .single concept⟩ present [concept]
  | allOf {group : Group} {present : ConceptSet}
      (isAllOf : group.connective = .allOf)
      (someAbsent : group.lacking present ≠ []) :
      Wants ⟨false, .grouped group⟩ present (group.lacking present)
  | someOf {group : Group} {present : ConceptSet}
      (notAllOf : group.connective ≠ .allOf)
      (nonePresent : ∀ member ∈ group.members, member ∉ present) :
      Wants ⟨false, .grouped group⟩ present group.members
  | void {group : Group} {present : ConceptSet}
      (isAllOf : group.connective = .allOf)
      (noMembers : group.members = []) :
      Wants ⟨true, .grouped group⟩ present []

theorem verdict_grouped_eq_fails_iff
    {negated : Bool} {group : Group} {gap : Gap} :
    (⟨negated, .grouped group⟩ : Trigger).verdict present = .fails gap ↔
      group.isSatisfied present = negated ∧ group.gap negated present = gap := by
  by_cases fails : group.isSatisfied present = negated
  · simp [Trigger.verdict, fails]
  · simp [Trigger.verdict, fails]

theorem Wants.of_gap
    {negated : Bool} {group : Group}
    (unsatisfied : group.isSatisfied present = negated)
    (sameGap : group.gap negated present = ⟨missing, []⟩) :
    Wants ⟨negated, .grouped group⟩ present missing := by
  have sameMissing := congrArg Gap.missing sameGap
  have noneRedundant := congrArg Gap.redundant sameGap
  obtain ⟨connective, members, nodup⟩ := group
  cases connective <;> cases negated
  case allOf.false =>
    subst sameMissing
    exact .allOf rfl (by simpa [Group.isSatisfied] using unsatisfied)
  case allOf.true =>
    subst sameMissing
    exact .void rfl noneRedundant
  case anyOf.false =>
    subst sameMissing
    refine .someOf (by simp) (Group.found_eq_nil_iff.1 ?_)
    simpa [Group.isSatisfied] using unsatisfied
  case anyOf.true =>
    have noneFound : Group.found _ present = [] := noneRedundant
    simp [Group.isSatisfied, noneFound] at unsatisfied
  case oneOf.false =>
    by_cases noneFound : Group.found ⟨.oneOf, members, nodup⟩ present = []
    · have allMissing : members = missing := by
        simpa [Group.gap, noneFound] using sameMissing
      subst allMissing
      exact .someOf (by simp) (Group.found_eq_nil_iff.1 noneFound)
    · simp [Group.gap, noneFound] at noneRedundant
  case oneOf.true =>
    have noneFound : Group.found _ present = [] := noneRedundant
    simp [Group.isSatisfied, noneFound] at unsatisfied

theorem Wants.of_verdict
    (verdict : trigger.verdict present = .fails ⟨missing, []⟩) :
    trigger.Wants present missing := by
  obtain ⟨negated, pattern⟩ := trigger
  cases pattern with
  | single concept =>
      by_cases isPresent : concept ∈ present <;> cases negated <;>
        simp [Trigger.verdict, isPresent] at verdict
      subst verdict
      exact .single isPresent
  | grouped group =>
      obtain ⟨unsatisfied, sameGap⟩ := verdict_grouped_eq_fails_iff.1 verdict
      exact Wants.of_gap unsatisfied sameGap

theorem Wants.verdict_eq (wants : trigger.Wants present missing) :
    trigger.verdict present = .fails ⟨missing, []⟩ := by
  cases wants with
  | single absent => simp [Trigger.verdict, absent]
  | @allOf group _ isAllOf someAbsent =>
      obtain ⟨_, members, nodup⟩ := group
      cases isAllOf
      rw [verdict_grouped_eq_fails_iff]
      exact ⟨by simpa [Group.isSatisfied] using someAbsent, rfl⟩
  | @someOf group _ notAllOf nonePresent =>
      have noneFound := Group.found_eq_nil_iff.2 nonePresent
      obtain ⟨connective, members, nodup⟩ := group
      rw [verdict_grouped_eq_fails_iff]
      cases connective with
      | allOf => exact absurd rfl notAllOf
      | anyOf => exact ⟨by simp [Group.isSatisfied, noneFound], rfl⟩
      | oneOf =>
          exact ⟨by simp [Group.isSatisfied, noneFound],
            by simp [Group.gap, noneFound]⟩
  | @void group _ isAllOf noMembers =>
      obtain ⟨_, members, nodup⟩ := group
      cases isAllOf
      cases noMembers
      rfl

theorem Wants.not_holds (wants : trigger.Wants present missing) :
    ¬trigger.Holds present :=
  not_holds_of_verdict_eq_fails wants.verdict_eq

theorem Wants.of_subset
    {smaller larger : ConceptSet} (subset : smaller ⊆ larger)
    (wants : trigger.Wants larger missing) :
    ∃ wanted, trigger.Wants smaller wanted := by
  cases wants with
  | single absent =>
      exact ⟨_, .single fun isPresent => absent (subset _ isPresent)⟩
  | @allOf group _ isAllOf someAbsent =>
      refine ⟨_, .allOf isAllOf fun noneAbsent => someAbsent ?_⟩
      rw [Group.lacking_eq_nil_iff] at noneAbsent ⊢
      intro member isMember
      exact subset member (noneAbsent member isMember)
  | someOf notAllOf nonePresent =>
      refine ⟨_, .someOf notAllOf fun member isMember isPresent => ?_⟩
      exact nonePresent member isMember (subset member isPresent)
  | void isAllOf noMembers => exact ⟨_, .void isAllOf noMembers⟩

/-- The first missing concept belongs to the pattern, and once it is added the
trigger holds or wants more. -/
theorem Wants.insert_head
    {concept : ConceptId} {others : List ConceptId}
    (wants : trigger.Wants present (concept :: others)) :
    concept ∈ trigger.pattern.concepts ∧
      (trigger.Holds (present.insert concept) ∨
        ∃ wanted, trigger.Wants (present.insert concept) wanted) := by
  generalize sameMissing : concept :: others = missing at wants
  cases wants with
  | @single only _ absent =>
      obtain ⟨rfl, rfl⟩ := List.cons.inj sameMissing
      exact ⟨List.mem_singleton_self concept,
        Or.inl (iff_of_true (ConceptSet.mem_insert.2 (Or.inl rfl)) rfl)⟩
  | @allOf group _ isAllOf someAbsent =>
      have isAbsent : concept ∈ group.lacking present :=
        sameMissing ▸ List.mem_cons_self
      refine ⟨(List.mem_filter.1 isAbsent).1, ?_⟩
      by_cases noneAbsent : group.lacking (present.insert concept) = []
      · left
        refine iff_of_true ?_ rfl
        obtain ⟨_, members, nodup⟩ := group
        cases isAllOf
        exact Group.lacking_eq_nil_iff.1 noneAbsent
      · exact Or.inr ⟨_, .allOf isAllOf noneAbsent⟩
  | @someOf group _ notAllOf nonePresent =>
      have isMember : concept ∈ group.members :=
        sameMissing ▸ List.mem_cons_self
      have isPresent : concept ∈ present.insert concept :=
        ConceptSet.mem_insert.2 (Or.inl rfl)
      refine ⟨isMember, Or.inl (iff_of_true ?_ rfl)⟩
      obtain ⟨connective, members, nodup⟩ := group
      cases connective with
      | allOf => exact absurd rfl notAllOf
      | anyOf => exact ⟨concept, isMember, isPresent⟩
      | oneOf =>
          refine ⟨concept, isMember, isPresent, fun other otherMember found => ?_⟩
          exact (ConceptSet.mem_insert.1 found).resolve_right
            (nonePresent other otherMember)
  | void isAllOf noMembers => cases sameMissing

theorem exists_added
    {smaller larger : ConceptSet} (subset : smaller ⊆ larger)
    (notTriggered : ¬trigger.Holds smaller) (triggered : trigger.Holds larger) :
    ∃ concept ∈ larger, concept ∉ smaller := by
  by_cases someAdded : ∃ concept ∈ larger, concept ∉ smaller
  · exact someAdded
  · have same : smaller = larger := by
      ext concept
      constructor
      · exact subset concept
      · intro member
        exact Decidable.byContradiction fun isNew =>
          someAdded ⟨concept, member, isNew⟩
    rw [same] at notTriggered
    exact absurd triggered notTriggered

/-! ## Amending -/

variable {steps : Nat} {result : ConceptSet}

theorem holds_of_amend_eq_ok
    (amended : trigger.amend steps present = .ok result) :
    trigger.Holds result := by
  fun_induction amend trigger steps present with
  | case1 steps present verdict =>
      cases amended
      exact verdict_eq_holds_iff.1 verdict
  | case2 => cases amended
  | case3 => cases amended
  | case4 present gap verdict remaining edit isFirst inductionHypothesis =>
      exact inductionHypothesis amended

/-- An amendment that has nothing to drop at first never drops anything. -/
theorem subset_and_mem_of_amend_eq_ok
    (ready : trigger.Holds present ∨ ∃ wanted, trigger.Wants present wanted)
    (amended : trigger.amend steps present = .ok result) :
    present ⊆ result ∧
      ∀ concept ∈ result,
        concept ∈ present ∨ concept ∈ trigger.pattern.concepts := by
  fun_induction amend trigger steps present with
  | case1 =>
      cases amended
      exact ⟨fun _ member => member, fun _ member => Or.inl member⟩
  | case2 => cases amended
  | case3 => cases amended
  | case4 present gap verdict remaining edit isFirst inductionHypothesis =>
      -- The edit adds what is wanted first, and the rest starts from there.
      rcases ready with holds | ⟨wanted, wants⟩
      · exact absurd holds (not_holds_of_verdict_eq_fails verdict)
      · rw [wants.verdict_eq] at verdict
        cases verdict
        cases wanted with
        | nil => cases isFirst
        | cons concept others =>
            cases isFirst
            obtain ⟨isMember, stillReady⟩ := wants.insert_head
            obtain ⟨subset, fromPattern⟩ :=
              inductionHypothesis stillReady amended
            constructor
            · intro other isPresent
              exact subset other (ConceptSet.mem_insert.2 (Or.inr isPresent))
            · intro other inResult
              rcases fromPattern other inResult with isPresent | matched
              · rcases ConceptSet.mem_insert.1 isPresent with rfl | before
                · exact Or.inr isMember
                · exact Or.inl before
              · exact Or.inr matched

/-- Nothing can be added to a group without members, so it is never completed. -/
theorem Wants.negated_eq_false
    (wants : trigger.Wants present missing)
    (amended : trigger.amend steps present = .ok result) :
    trigger.negated = false := by
  have verdict := wants.verdict_eq
  cases wants with
  | single => rfl
  | allOf => rfl
  | someOf => rfl
  | void =>
      unfold amend at amended
      rw [verdict] at amended
      cases steps <;> cases amended

end Trigger

theorem Rule.amend_eq_ok_iff
    {rule : Rule} {limit : Nat} {name : Option RuleId}
    {facts amended : Facts} :
    rule.amend limit name facts = .ok amended ↔
      ∃ present, rule.trigger.amend limit facts.is = .ok present ∧
        amended = { facts with is := present } := by
  rw [amend]
  cases rule.trigger.amend limit facts.is with
  | ok present => simp [eq_comm]
  | error obstacle => simp

end ConceptRules
