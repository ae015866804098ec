import ConceptRules.Draft.Step
import ConceptRules.Ontology.Basic
import ConceptRules.Proofs.Completion
import ConceptRules.Proofs.Diagnosis

/-!
# When an amendment succeeds

An amendment makes one edit after the other, and each edit that it tries brings
the trigger closer to holding by one (`Trigger.distance_eq_of_edit?`).  So it
needs as many steps as the distance of the trigger says, no more and no fewer.
What comes of it is known beforehand (`Foretold`): with enough steps it
succeeds, with too few it has spent them, and where no edits make the trigger
hold there is nothing to edit from the start.  That happens only to groups
without members.
-/

namespace ConceptRules

/-- Some edits make the trigger hold. -/
def Trigger.CanHold (trigger : Trigger) (present : ConceptSet) : Prop :=
  ∃ edits, trigger.Holds (Edit.applyAll present edits)

namespace Trigger

variable {trigger : Trigger} {present : ConceptSet} {gap : Gap} {edit : Edit}

/-! ## Triggers that can hold -/

theorem canHold_iff_distance_ne_top :
    trigger.CanHold present ↔ trigger.distance present ≠ ⊤ := by
  constructor
  · intro canHold
    obtain ⟨edits, holds⟩ := canHold
    have near : trigger.distance present ≤ edits.length :=
      distance_le_iff_exists_edits.2 ⟨edits, Nat.le_refl _, holds⟩
    exact ne_top_of_le_ne_top (ENat.natCast_ne_top _) near
  · intro finite
    obtain ⟨steps, isDistance⟩ := ENat.ne_top_iff_exists.1 finite
    obtain ⟨edits, _, holds⟩ :=
      distance_le_iff_exists_edits.1 (Eq.ge isDistance)
    exact ⟨edits, holds⟩

/-- The distance is at most the number of concepts that the trigger looks for. -/
theorem CanHold.distance_le_total (canHold : trigger.CanHold present) :
    trigger.distance present ≤ trigger.total := by
  obtain ⟨edits, holds⟩ := canHold
  have foundAtMost : trigger.found present ≤ trigger.total :=
    Group.length_found_le_length _ present
  have acceptedAtMost :
      trigger.found (Edit.applyAll present edits) ≤ trigger.total :=
    Group.length_found_le_length _ _
  exact distance_le_iff.2
    ⟨_, acceptedAtMost, holds_iff_accepts.1 holds, by omega, by omega⟩

/-- A group with members can be satisfied, and it can be spoilt. -/
theorem canHold_of_total_pos (someMember : 0 < trigger.total) :
    trigger.CanHold present := by
  have unopposed (negated : Bool) (connective : Connective) :
      connective.Tolerates negated 0 0 trigger.total := by
    cases connective <;> cases negated <;>
      simp only [Connective.Tolerates] <;>
      omega
  obtain ⟨count, _, possible, accepts⟩ :=
    Connective.exists_allows_of_tolerates someMember (Nat.zero_le _)
      (unopposed trigger.negated trigger.pattern.group.connective)
  have foundAtMost : trigger.found present ≤ trigger.total :=
    Group.length_found_le_length _ present
  have near : trigger.distance present ≤ trigger.total :=
    distance_le_iff.2 ⟨count, possible, accepts, by omega, by omega⟩
  exact canHold_iff_distance_ne_top.2
    (ne_top_of_le_ne_top (ENat.natCast_ne_top _) near)

theorem exists_empty_group_of_not_canHold
    (cannotHold : ¬trigger.CanHold present) :
    ∃ group, trigger.pattern = .grouped group ∧ group.members = [] := by
  have noMembers : trigger.pattern.group.members = [] := by
    by_contra someMember
    exact cannotHold (canHold_of_total_pos (List.length_pos_iff.2 someMember))
  cases shape : trigger.pattern with
  | single concept =>
      rw [shape] at noMembers
      cases noMembers
  | grouped group =>
      rw [shape] at noMembers
      exact ⟨group, rfl, noMembers⟩

theorem distance_eq_zero_iff :
    trigger.distance present = 0 ↔ trigger.Holds present := by
  rw [← nonpos_iff_eq_zero, ← Nat.cast_zero, distance_le_iff_exists_edits]
  constructor
  · intro reachable
    obtain ⟨edits, bounded, holds⟩ := reachable
    rw [List.eq_nil_of_length_eq_zero (Nat.le_zero.1 bounded)] at holds
    exact holds
  · intro holds
    exact ⟨[], Nat.le_refl 0, holds⟩

/-! ## The edit that is tried -/

theorem distance_le_distance_apply_add_one
    (trigger : Trigger) (present : ConceptSet) (edit : Edit) :
    trigger.distance present ≤ trigger.distance (edit.apply present) + 1 := by
  cases afterwards : trigger.distance (edit.apply present) with
  | top => exact le_top
  | coe steps =>
      obtain ⟨edits, bounded, holds⟩ :=
        distance_le_iff_exists_edits.1 (Eq.le afterwards)
      exact distance_le_iff_exists_edits.2
        ⟨edit :: edits, Nat.succ_le_succ bounded, holds⟩

theorem mem_of_edit?_eq_some (isFirst : gap.edit? = some edit) :
    match edit with
    | .add concept => concept ∈ gap.missing
    | .drop concept => concept ∈ gap.redundant := by
  obtain ⟨missing, redundant⟩ := gap
  cases missing with
  | cons concept others =>
      cases isFirst
      exact List.mem_cons_self
  | nil =>
      cases redundant with
      | nil => cases isFirst
      | cons concept others =>
          cases isFirst
          exact List.mem_cons_self

/-- The edit that is tried adds a missing concept or drops a redundant one, and
either of them is closer. -/
theorem distance_apply_lt
    (fails : trigger.verdict present = .fails gap)
    (isFirst : gap.edit? = some edit) :
    trigger.distance (edit.apply present) < trigger.distance present := by
  have diagnosed := trigger.diagnosedBy_verdict present
  rw [fails] at diagnosed
  have named := mem_of_edit?_eq_some isFirst
  cases edit with
  | add concept => exact ((diagnosed.missing_iff concept).1 named).2
  | drop concept => exact ((diagnosed.redundant_iff concept).1 named).2

theorem distance_eq_of_edit?
    (fails : trigger.verdict present = .fails gap)
    (isFirst : gap.edit? = some edit) :
    trigger.distance present = trigger.distance (edit.apply present) + 1 := by
  apply le_antisymm
  · exact distance_le_distance_apply_add_one trigger present edit
  · exact Order.add_one_le_of_lt (distance_apply_lt fails isFirst)

/-- If any edits make a failing trigger hold, the first of the fewest such edits
brings it closer. -/
theorem CanHold.exists_closer
    (canHold : trigger.CanHold present) (fails : ¬trigger.Holds present) :
    ∃ edit : Edit,
      trigger.distance (edit.apply present) < trigger.distance present := by
  obtain ⟨steps, isDistance⟩ :=
    ENat.ne_top_iff_exists.1 (canHold_iff_distance_ne_top.1 canHold)
  obtain ⟨edits, bounded, holds⟩ :=
    distance_le_iff_exists_edits.1 (Eq.ge isDistance)
  cases edits with
  | nil => exact absurd holds fails
  | cons edit rest =>
      refine ⟨edit, ?_⟩
      have near : trigger.distance (edit.apply present) ≤ rest.length :=
        distance_le_iff_exists_edits.2 ⟨rest, Nat.le_refl _, holds⟩
      rw [← isDistance]
      exact lt_of_le_of_lt near (Nat.cast_lt.2 bounded)

/-- The verdict names every edit that brings the trigger closer. -/
theorem edit?_ne_none_of_closer
    (fails : trigger.verdict present = .fails gap)
    (closer : trigger.distance (edit.apply present) <
      trigger.distance present) :
    gap.edit? ≠ none := by
  have diagnosed := trigger.diagnosedBy_verdict present
  rw [fails] at diagnosed
  obtain ⟨missing, redundant⟩ := gap
  intro noEdit
  cases missing with
  | cons concept others => cases noEdit
  | nil =>
      cases redundant with
      | cons concept others => cases noEdit
      | nil =>
          cases edit with
          | add concept =>
              by_cases isPresent : concept ∈ present
              · rw [Edit.apply,
                  ConceptSet.insert_eq_self_iff.2 isPresent] at closer
                exact lt_irrefl _ closer
              · exact List.not_mem_nil
                  ((diagnosed.missing_iff concept).2 ⟨isPresent, closer⟩)
          | drop concept =>
              by_cases isPresent : concept ∈ present
              · exact List.not_mem_nil
                  ((diagnosed.redundant_iff concept).2 ⟨isPresent, closer⟩)
              · rw [Edit.apply,
                  ConceptSet.erase_eq_self_iff.2 isPresent] at closer
                exact lt_irrefl _ closer

theorem distance_eq_top_of_edit?_eq_none
    (fails : trigger.verdict present = .fails gap)
    (noEdit : gap.edit? = none) :
    trigger.distance present = ⊤ := by
  by_contra finite
  obtain ⟨edit, closer⟩ :=
    (canHold_iff_distance_ne_top.2 finite).exists_closer
      (not_holds_of_verdict_eq_fails fails)
  exact edit?_ne_none_of_closer fails closer noEdit

end Trigger

/-! ## What is foretold -/

/-- What comes of an amendment with so many steps, by the distance of its
trigger. -/
inductive Foretold (steps : Nat) (distance : ℕ∞) :
    Except Obstacle ConceptSet → Prop where
  | reached {result : ConceptSet} (near : distance ≤ steps) :
      Foretold steps distance (.ok result)
  | short (far : steps < distance) (finite : distance ≠ ⊤) :
      Foretold steps distance (.error .stepsSpent)
  /-- Without steps it goes unnoticed that none would help. -/
  | idle (noSteps : steps = 0) (infinite : distance = ⊤) :
      Foretold steps distance (.error .stepsSpent)
  | stuck (someStep : 0 < steps) (infinite : distance = ⊤) :
      Foretold steps distance (.error .nothingToEdit)

namespace Foretold

variable {steps : Nat} {distance : ℕ∞} {outcome : Except Obstacle ConceptSet}

/-- An edit uses up one step and one unit of the distance. -/
theorem afterEdit
    (foretold : Foretold steps distance outcome) (finite : distance ≠ ⊤) :
    Foretold (steps + 1) (distance + 1) outcome := by
  cases foretold with
  | reached near =>
      refine .reached ?_
      rw [Nat.cast_add_one]
      exact add_le_add_left near 1
  | short far finite =>
      refine .short ?_ (by simpa using finite)
      rw [Nat.cast_add_one]
      exact (ENat.add_lt_add_iff_right ENat.one_ne_top).2 far
  | idle noSteps infinite => exact absurd infinite finite
  | stuck someStep infinite => exact absurd infinite finite

theorem ok_iff (foretold : Foretold steps distance outcome) :
    (∃ result, outcome = .ok result) ↔ distance ≤ steps := by
  cases foretold with
  | @reached result near => exact iff_of_true ⟨result, rfl⟩ near
  | short far _ =>
      exact iff_of_false (by simp) (not_le_of_gt far)
  | idle _ infinite =>
      exact iff_of_false (by simp) (by simp [infinite])
  | stuck _ infinite =>
      exact iff_of_false (by simp) (by simp [infinite])

theorem stepsSpent_iff (foretold : Foretold steps distance outcome) :
    outcome = .error .stepsSpent ↔
      (distance ≠ ⊤ ∧ steps < distance) ∨ (distance = ⊤ ∧ steps = 0) := by
  cases foretold with
  | reached near =>
      refine iff_of_false (by simp) ?_
      rintro (⟨_, far⟩ | ⟨infinite, _⟩)
      · exact not_le_of_gt far near
      · simp [infinite] at near
  | short far finite =>
      exact iff_of_true rfl (Or.inl ⟨finite, far⟩)
  | idle noSteps infinite =>
      exact iff_of_true rfl (Or.inr ⟨infinite, noSteps⟩)
  | stuck someStep infinite =>
      refine iff_of_false (by simp) ?_
      rintro (⟨finite, _⟩ | ⟨_, noSteps⟩)
      · exact finite infinite
      · exact Nat.ne_of_gt someStep noSteps

theorem nothingToEdit_iff (foretold : Foretold steps distance outcome) :
    outcome = .error .nothingToEdit ↔ distance = ⊤ ∧ 0 < steps := by
  cases foretold with
  | reached near =>
      refine iff_of_false (by simp) ?_
      rintro ⟨infinite, _⟩
      simp [infinite] at near
  | short _ finite =>
      exact iff_of_false (by simp) fun stuck => finite stuck.1
  | idle noSteps _ =>
      exact iff_of_false (by simp) fun stuck => Nat.ne_of_gt stuck.2 noSteps
  | stuck someStep infinite =>
      exact iff_of_true rfl ⟨infinite, someStep⟩

end Foretold

theorem Trigger.foretold_amend
    (trigger : Trigger) (steps : Nat) (present : ConceptSet) :
    Foretold steps (trigger.distance present)
      (trigger.amend steps present) := by
  fun_induction amend trigger steps present with
  | case1 steps present verdict =>
      rw [distance_eq_zero_iff.2 (verdict_eq_holds_iff.1 verdict)]
      exact .reached zero_le
  | case2 present gap verdict =>
      have doesNotHold := not_holds_of_verdict_eq_fails verdict
      by_cases infinite : trigger.distance present = ⊤
      · exact .idle rfl infinite
      · exact .short
          (pos_iff_ne_zero.2 (mt distance_eq_zero_iff.1 doesNotHold)) infinite
  | case3 present gap verdict remaining noEdit =>
      exact .stuck (Nat.succ_pos remaining)
        (distance_eq_top_of_edit?_eq_none verdict noEdit)
  | case4 present gap verdict remaining edit isFirst inductionHypothesis =>
      rw [distance_eq_of_edit? verdict isFirst]
      exact inductionHypothesis.afterEdit
        (ne_top_of_lt (distance_apply_lt verdict isFirst))

/-! ## Amending facts -/

namespace Rule

variable {rule : Rule} {limit : Nat} {name : Option RuleId} {facts : Facts}

theorem amend_eq_stepLimit_iff :
    rule.amend limit name facts =
        .error { fault := .stepLimit limit name } ↔
      rule.trigger.amend limit facts.is = .error .stepsSpent := by
  rw [amend]
  cases rule.trigger.amend limit facts.is with
  | ok present => simp
  | error obstacle => cases obstacle <;> simp [Obstacle.failure]

theorem amend_eq_emptyGroup_iff :
    rule.amend limit name facts = .error { fault := .emptyGroup } ↔
      rule.trigger.amend limit facts.is = .error .nothingToEdit := by
  rw [amend]
  cases rule.trigger.amend limit facts.is with
  | ok present => simp
  | error obstacle => cases obstacle <;> simp [Obstacle.failure]

end Rule

/-- What comes of amending facts for a rule is decided by the edits that make its
trigger hold, and by how many of them it takes at least. -/
structure Rule.AmendedByDistance
    (rule : Rule) (limit : Nat) (name : Option RuleId) (facts : Facts)
    (outcome : Except Failure Facts) : Prop where
  ok_iff :
    (∃ amended, outcome = .ok amended) ↔
      rule.trigger.CanHold facts.is ∧ rule.trigger.distance facts.is ≤ limit
  stepLimit_iff :
    outcome = .error { fault := .stepLimit limit name } ↔
      (rule.trigger.CanHold facts.is ∧
          limit < rule.trigger.distance facts.is) ∨
        (¬rule.trigger.CanHold facts.is ∧ limit = 0)
  emptyGroup_iff :
    outcome = .error { fault := .emptyGroup } ↔
      ¬rule.trigger.CanHold facts.is ∧ 0 < limit
  /-- Only a group without members may be beyond all edits. -/
  noMembers :
    ¬rule.trigger.CanHold facts.is →
      ∃ group, rule.trigger.pattern = .grouped group ∧ group.members = []
  distance_le :
    rule.trigger.CanHold facts.is →
      rule.trigger.distance facts.is ≤ rule.trigger.pattern.concepts.length
  /-- A step for each concept of the trigger is enough, if any number is. -/
  enough :
    rule.trigger.pattern.concepts.length ≤ limit →
      outcome = .error { fault := .stepLimit limit name } →
        ¬rule.trigger.CanHold facts.is ∧ limit = 0

theorem Rule.amendedByDistance
    (rule : Rule) (limit : Nat) (name : Option RuleId) (facts : Facts) :
    rule.AmendedByDistance limit name facts
      (rule.amend limit name facts) := by
  have foretold := rule.trigger.foretold_amend limit facts.is
  have cannotHold_iff :
      ¬rule.trigger.CanHold facts.is ↔ rule.trigger.distance facts.is = ⊤ :=
    (not_congr Trigger.canHold_iff_distance_ne_top).trans not_not
  have distanceAtMost (canHold : rule.trigger.CanHold facts.is) :
      rule.trigger.distance facts.is ≤
        rule.trigger.pattern.concepts.length := by
    rw [← Pattern.members_group]
    exact canHold.distance_le_total
  have stepLimit_iff :
      rule.amend limit name facts =
          .error { fault := .stepLimit limit name } ↔
        (rule.trigger.CanHold facts.is ∧
            limit < rule.trigger.distance facts.is) ∨
          (¬rule.trigger.CanHold facts.is ∧ limit = 0) := by
    rw [amend_eq_stepLimit_iff, foretold.stepsSpent_iff, cannotHold_iff,
      Trigger.canHold_iff_distance_ne_top]
  refine ⟨?_, stepLimit_iff, ?_, ?_, distanceAtMost, ?_⟩
  · have near_imp (near : rule.trigger.distance facts.is ≤ limit) :
        rule.trigger.CanHold facts.is :=
      Trigger.canHold_iff_distance_ne_top.2
        (ne_top_of_le_ne_top (ENat.natCast_ne_top limit) near)
    rw [and_iff_right_of_imp near_imp, ← foretold.ok_iff]
    simp only [amend_eq_ok_iff, exists_comm, exists_and_left, exists_eq,
      and_true]
  · rw [amend_eq_emptyGroup_iff, foretold.nothingToEdit_iff, cannotHold_iff]
  · intro cannotHold
    exact Trigger.exists_empty_group_of_not_canHold cannotHold
  · intro manySteps spent
    rcases stepLimit_iff.1 spent with ⟨canHold, far⟩ | idle
    · have near := (distanceAtMost canHold).trans (Nat.cast_le.2 manySteps)
      exact absurd far (not_lt_of_ge near)
    · exact idle

theorem Ontology.amend_eq_unknownRule_iff
    {ontology : Ontology} {limit : Nat} {id : RuleId} {facts : Facts} :
    ontology.amend limit id facts = .error { fault := .unknownRule id } ↔
      ontology.rules.length ≤ id.index := by
  rw [← List.getElem?_eq_none_iff, amend, rule?]
  cases ontology.rules[id.index]? with
  | none => simp
  | some rule =>
      simp only [Rule.amend, reduceCtorEq, iff_false]
      cases rule.trigger.amend limit facts.is with
      | ok present => simp
      | error obstacle => cases obstacle <;> simp [Obstacle.failure]

/-! ## Main result -/

/-- An amendment succeeds if the limit reaches as far as the trigger is from
holding, and fails for want of steps or of members otherwise.  In an ontology it
fails for want of a rule as well, and then at once. -/
theorem amend_by_distance (limit : Nat) (facts : Facts) :
    (∀ (rule : Rule) (name : Option RuleId),
        rule.AmendedByDistance limit name facts
          (rule.amend limit name facts)) ∧
      ∀ (ontology : Ontology) (id : RuleId),
        (∀ rule ∈ ontology.rule? id,
          rule.AmendedByDistance limit (some id) facts
            (ontology.amend limit id facts)) ∧
          (ontology.amend limit id facts =
              .error { fault := .unknownRule id } ↔
            ontology.rules.length ≤ id.index) := by
  constructor
  · intro rule name
    exact rule.amendedByDistance limit name facts
  · intro ontology id
    constructor
    · intro rule isRule
      have found : ontology.rule? id = some rule := isRule
      rw [Ontology.amend, found]
      exact rule.amendedByDistance limit (some id) facts
    · exact Ontology.amend_eq_unknownRule_iff

/-- Whoever is in just one of three seats is a guest. -/
def seating : Ontology where
  vocabulary :=
    (Draft.empty.defineAll ["guest", "window", "aisle", "middle"]).2.vocabulary
  rules :=
    [⟨⟨false, .grouped (.ofList .oneOf [⟨1⟩, ⟨2⟩, ⟨3⟩])⟩, [⟨.is, ⟨0⟩⟩]⟩]

/-- Whoever is in all three seats has two to leave. -/
theorem amend_by_distance_seating :
    seating.amend 1 ⟨0⟩ (.ofIs [⟨1⟩, ⟨2⟩, ⟨3⟩]) =
        .error { fault := .stepLimit 1 (some ⟨0⟩) } ∧
      seating.amend 2 ⟨0⟩ (.ofIs [⟨1⟩, ⟨2⟩, ⟨3⟩]) = .ok (.ofIs [⟨3⟩]) ∧
      (∃ rule ∈ seating.rule? ⟨0⟩,
        rule.trigger.distance (.ofList [⟨1⟩, ⟨2⟩, ⟨3⟩]) = 2) ∧
      seating.amend 2 ⟨1⟩ (.ofIs [⟨1⟩, ⟨2⟩, ⟨3⟩]) =
        .error { fault := .unknownRule ⟨1⟩ } := by
  have tooFew :
      seating.amend 1 ⟨0⟩ (.ofIs [⟨1⟩, ⟨2⟩, ⟨3⟩]) =
        .error { fault := .stepLimit 1 (some ⟨0⟩) } := by
    decide +kernel
  have enough :
      seating.amend 2 ⟨0⟩ (.ofIs [⟨1⟩, ⟨2⟩, ⟨3⟩]) = .ok (.ofIs [⟨3⟩]) := by
    decide +kernel
  have ofOne :=
    ((amend_by_distance 1 (.ofIs [⟨1⟩, ⟨2⟩, ⟨3⟩])).2 seating ⟨0⟩).1 _ rfl
  have ofTwo :=
    ((amend_by_distance 2 (.ofIs [⟨1⟩, ⟨2⟩, ⟨3⟩])).2 seating ⟨0⟩).1 _ rfl
  have atMost := (ofTwo.ok_iff.1 ⟨_, enough⟩).2
  have canHold := (ofTwo.ok_iff.1 ⟨_, enough⟩).1
  have above := (ofOne.stepLimit_iff.1 tooFew).resolve_right
    fun idle => idle.1 canHold
  refine ⟨tooFew, enough, ⟨_, rfl, ?_⟩, ?_⟩
  · exact le_antisymm atMost (Order.add_one_le_of_lt above.2)
  · exact ((amend_by_distance 2 (.ofIs [⟨1⟩, ⟨2⟩, ⟨3⟩])).2 seating ⟨1⟩).2.2
      (Nat.le_refl 1)

end ConceptRules
