import ConceptRules.Proofs.Rest

/-!
# What stands

A resolution ends with every standing rule in force: its trigger holds in the
closure and its consequence is part of it, and nothing else is but the base.
The rules that are admitted in one round do not look at each other, so the facts
may well become contradictory on the way.  None of these contradictions stays:
a settled state contradicts itself only where the base does.
-/

namespace ConceptRules

namespace Facts

theorem compatible_of_holds_imp
    {smaller larger candidate : Facts}
    (within : ∀ verb concept,
      smaller.Holds verb concept → larger.Holds verb concept)
    (compatible : larger.Compatible candidate) :
    smaller.Compatible candidate := by
  rw [compatible_iff] at compatible ⊢
  obtain ⟨noneDenied, noneAsserted⟩ := compatible
  constructor
  · intro concept asserted
    exact noneDenied concept (within .is concept asserted)
  · intro concept denied
    exact noneAsserted concept (within .isnt concept denied)

end Facts

namespace State

variable {base : Facts} {state : State}

/-- A standing rule states nothing that the closure denies, and denies nothing
that it states: so both sides of a contradiction come from the base. -/
theorem Settled.base_holds_of_contradiction
    (settled : state.Settled base) {concept : ConceptId}
    (asserted : (state.closure base).Holds .is concept)
    (denied : (state.closure base).Holds .isnt concept) :
    base.Holds .is concept ∧ base.Holds .isnt concept := by
  constructor
  · rcases holds_closure_iff.1 asserted with
      supposed | ⟨candidate, stands, states⟩
    · exact supposed
    · have fits := Candidate.fits_iff.1 (settled candidate stands)
      have noneAsserted := (Facts.compatible_iff.1 fits.2).2
      exact absurd states (noneAsserted concept denied)
  · rcases holds_closure_iff.1 denied with
      supposed | ⟨candidate, stands, states⟩
    · exact supposed
    · have fits := Candidate.fits_iff.1 (settled candidate stands)
      have noneDenied := (Facts.compatible_iff.1 fits.2).1
      exact absurd states (noneDenied concept asserted)

theorem Settled.holds_is_and_isnt_iff
    (settled : state.Settled base) {concept : ConceptId} :
    (state.closure base).Holds .is concept ∧
        (state.closure base).Holds .isnt concept ↔
      base.Holds .is concept ∧ base.Holds .isnt concept := by
  constructor
  · intro contradicted
    exact settled.base_holds_of_contradiction contradicted.1 contradicted.2
  · intro supposed
    obtain ⟨asserted, denied⟩ := supposed
    exact ⟨holds_closure_iff.2 (Or.inl asserted),
      holds_closure_iff.2 (Or.inl denied)⟩

theorem Settled.consequences_compatible
    (settled : state.Settled base) {left right : Candidate}
    (leftStands : left ∈ state.standing)
    (rightStands : right ∈ state.standing) :
    left.rule.consequence.Compatible right.rule.consequence := by
  have rightFits := Candidate.fits_iff.1 (settled right rightStands)
  apply Facts.compatible_of_holds_imp _ rightFits.2
  intro verb concept states
  exact holds_closure_iff.2 (Or.inr ⟨left, leftStands, states⟩)

end State

/-! ## Main results -/

theorem holds_closure_resolve_iff
    {base : Facts} {rules : List Rule} {verb : Verb} {concept : ConceptId} :
    (resolve base rules).closure.Holds verb concept ↔
      base.Holds verb concept ∨
        ∃ id ∈ (resolve base rules).standing, ∃ rule ∈ rules[id.index]?,
          rule.consequence.Holds verb concept := by
  simp only [mem_standing_resolve_iff]
  rw [closure_resolve, State.holds_closure_iff]
  apply or_congr_right
  constructor
  · intro stated
    obtain ⟨candidate, stands, states⟩ := stated
    have listed := State.getElem?_of_mem_members .standing stands
    exact ⟨candidate.id, ⟨candidate, stands, rfl⟩,
      candidate.rule, listed, states⟩
  · intro stated
    obtain ⟨_, ⟨candidate, stands, rfl⟩, rule, listed, states⟩ := stated
    have sameRule := State.rule_eq_of_mem_members .standing stands listed
    rw [← sameRule] at states
    exact ⟨candidate, stands, states⟩

/-- The closure is the base with the consequences of the standing rules, and in
it each of these rules is triggered and contradicts nothing. -/
theorem resolve_stands (base : Facts) (rules : List Rule) :
    (∀ verb concept,
        (resolve base rules).closure.Holds verb concept ↔
          base.Holds verb concept ∨
            ∃ id ∈ (resolve base rules).standing, ∃ rule ∈ rules[id.index]?,
              rule.consequence.Holds verb concept) ∧
      ∀ id ∈ (resolve base rules).standing, ∃ rule ∈ rules[id.index]?,
        rule.trigger.Holds (resolve base rules).closure.is ∧
          (resolve base rules).closure.Compatible rule.consequence := by
  constructor
  · intro verb concept
    exact holds_closure_resolve_iff
  · intro id idStands
    rw [mem_standing_resolve_iff] at idStands
    obtain ⟨candidate, stands, rfl⟩ := idStands
    have listed := State.getElem?_of_mem_members .standing stands
    have settled := State.settled_atRest base rules
    have fits := Candidate.fits_iff.1 (settled candidate stands)
    rw [closure_resolve]
    exact ⟨candidate.rule, listed, fits⟩

/-- Two rules at odds over one concept, and a third that neither of them
touches. -/
def quarrel : List Rule :=
  [⟨⟨false, .single ⟨0⟩⟩, [⟨.is, ⟨1⟩⟩]⟩,
    ⟨⟨false, .single ⟨0⟩⟩, [⟨.isnt, ⟨1⟩⟩]⟩,
    ⟨⟨false, .single ⟨0⟩⟩, [⟨.is, ⟨2⟩⟩, ⟨.isnt, ⟨3⟩⟩]⟩]

theorem resolve_stands_quarrel :
    ⟨2⟩ ∈ (resolve (.ofIs [⟨0⟩]) quarrel).standing ∧
      ∃ rule ∈ quarrel[2]?,
        rule.trigger.Holds (resolve (.ofIs [⟨0⟩]) quarrel).closure.is ∧
          (resolve (.ofIs [⟨0⟩]) quarrel).closure.Compatible
            rule.consequence := by
  have stands : ⟨2⟩ ∈ (resolve (.ofIs [⟨0⟩]) quarrel).standing := by
    decide +kernel
  exact ⟨stands, (resolve_stands (.ofIs [⟨0⟩]) quarrel).2 ⟨2⟩ stands⟩

/-- A resolution contradicts itself only where the base does. -/
theorem resolve_adds_no_contradiction (base : Facts) (rules : List Rule) :
    (resolve base rules).closure.is ∩ (resolve base rules).closure.isnt =
        base.is ∩ base.isnt ∧
      (base.is.Apart base.isnt →
        (resolve base rules).closure.is.Apart
          (resolve base rules).closure.isnt) ∧
      ∀ leftId ∈ (resolve base rules).standing,
        ∀ rightId ∈ (resolve base rules).standing,
          ∀ left ∈ rules[leftId.index]?, ∀ right ∈ rules[rightId.index]?,
            left.consequence.Compatible right.consequence := by
  have settled := State.settled_atRest base rules
  refine ⟨?_, ?_, ?_⟩
  · ext concept
    rw [ConceptSet.mem_inter, ConceptSet.mem_inter, closure_resolve]
    exact settled.holds_is_and_isnt_iff
  · intro apart concept asserted denied
    rw [closure_resolve] at asserted denied
    obtain ⟨supposed, baseDenied⟩ :=
      settled.base_holds_of_contradiction asserted denied
    exact apart concept supposed baseDenied
  · intro leftId leftIdStands rightId rightIdStands left leftListed
      right rightListed
    rw [mem_standing_resolve_iff] at leftIdStands rightIdStands
    obtain ⟨leftCandidate, leftStands, rfl⟩ := leftIdStands
    obtain ⟨rightCandidate, rightStands, rfl⟩ := rightIdStands
    have sameLeft :=
      State.rule_eq_of_mem_members .standing leftStands leftListed
    have sameRight :=
      State.rule_eq_of_mem_members .standing rightStands rightListed
    rw [← sameLeft, ← sameRight]
    exact settled.consequences_compatible leftStands rightStands

theorem resolve_adds_no_contradiction_quarrel :
    (Facts.ofIs [⟨0⟩]).is.Apart (Facts.ofIs [⟨0⟩]).isnt ∧
      (resolve (.ofIs [⟨0⟩]) quarrel).closure.is.Apart
        (resolve (.ofIs [⟨0⟩]) quarrel).closure.isnt := by
  have apart : (Facts.ofIs [⟨0⟩]).is.Apart (Facts.ofIs [⟨0⟩]).isnt := by
    decide
  exact ⟨apart,
    (resolve_adds_no_contradiction (.ofIs [⟨0⟩]) quarrel).2.1 apart⟩

end ConceptRules
