import ConceptRules.Proofs.Standing

/-!
# What becomes of a triggered rule

A rule whose trigger holds in the closure stands, or is reported as barred, or
was withdrawn on the way.  The third case cannot be left out: a withdrawn rule
is never read again, not even if its trigger comes to hold once more, and the
report of barred rules does not mention it.
-/

namespace ConceptRules

theorem Candidate.clash?_eq_some_iff
    {candidate : Candidate} {facts : Facts} {id : RuleId} {clash : Clash} :
    candidate.clash? facts = some (id, clash) ↔
      candidate.id = id ∧ candidate.rule.appraise facts = .barred clash := by
  rw [clash?]
  cases candidate.rule.appraise facts with
  | unmet gap => simp
  | barred other => simp
  | fits => simp

namespace State

variable {base : Facts} {rules : List Rule} {state : State}

theorem mem_barred_iff {facts : Facts} {id : RuleId} {clash : Clash} :
    (id, clash) ∈ state.barred facts ↔
      ∃ candidate ∈ state.pending,
        candidate.id = id ∧ candidate.rule.appraise facts = .barred clash := by
  simp only [barred, List.mem_filterMap, Candidate.clash?_eq_some_iff]

/-- At rest, only a contradiction keeps a triggered rule pending. -/
theorem not_compatible_of_mem_pending
    {candidate : Candidate}
    (pends : candidate ∈ (atRest base rules).pending)
    (triggered :
      candidate.rule.trigger.Holds ((atRest base rules).closure base).is) :
    ¬((atRest base rules).closure base).Compatible
      candidate.rule.consequence := by
  intro compatible
  have noneFits := admissible_eq_nil_iff.1 (admissible_atRest base rules)
  exact noneFits candidate pends
    (Candidate.fits_iff.2 ⟨triggered, compatible⟩)

theorem mem_barred_of_mem_pending
    {candidate : Candidate}
    (pends : candidate ∈ (atRest base rules).pending)
    (triggered :
      candidate.rule.trigger.Holds ((atRest base rules).closure base).is) :
    (candidate.id,
        ((atRest base rules).closure base).clash candidate.rule.consequence) ∈
      (atRest base rules).barred ((atRest base rules).closure base) := by
  have contradicted := not_compatible_of_mem_pending pends triggered
  have appraised :=
    Rule.appraise_eq_barred_iff.2 ⟨triggered, contradicted, rfl⟩
  exact mem_barred_iff.2 ⟨candidate, pends, rfl, appraised⟩

end State

/-! ## Main results -/

theorem standing_or_barred_or_withdrawn
    {base : Facts} {rules : List Rule} {id : RuleId} {rule : Rule}
    (listed : rules[id.index]? = some rule)
    (triggered : rule.trigger.Holds (resolve base rules).closure.is) :
    id ∈ (resolve base rules).standing ∨
      (id, (resolve base rules).closure.clash rule.consequence) ∈
        (resolve base rules).barred ∨
      id ∈ (resolve base rules).withdrawn := by
  have enrolled : (id, rule) ∈ (State.atRest base rules).roster :=
    State.mem_roster_atRest.2 listed
  rw [State.mem_roster_iff] at enrolled
  obtain ⟨stage, candidate, member, rfl, rfl⟩ := enrolled
  rw [closure_resolve] at triggered
  rw [standing_resolve, barred_resolve, withdrawn_resolve, closure_resolve]
  cases stage with
  | pending =>
      exact Or.inr (Or.inl (State.mem_barred_of_mem_pending member triggered))
  | standing => exact Or.inl (List.mem_map_of_mem member)
  | withdrawn => exact Or.inr (Or.inr (List.mem_map_of_mem member))

/-- No triggered rule goes unreported, and if none is barred, the closure has
the consequence of each that was not withdrawn. -/
theorem triggered_rule_reported (base : Facts) (rules : List Rule) :
    (∀ id : RuleId, ∀ rule ∈ rules[id.index]?,
        rule.trigger.Holds (resolve base rules).closure.is →
          id ∈ (resolve base rules).standing ∨
            (id, (resolve base rules).closure.clash rule.consequence) ∈
              (resolve base rules).barred ∨
            id ∈ (resolve base rules).withdrawn) ∧
      ((resolve base rules).isCompatible = true →
        ∀ id : RuleId, ∀ rule ∈ rules[id.index]?,
          rule.trigger.Holds (resolve base rules).closure.is →
            id ∉ (resolve base rules).withdrawn →
              ∀ verb concept, rule.consequence.Holds verb concept →
                (resolve base rules).closure.Holds verb concept) := by
  constructor
  · intro id rule listed triggered
    exact standing_or_barred_or_withdrawn listed triggered
  · intro isCompatible id rule listed triggered notWithdrawn verb concept states
    have noneBarred : (resolve base rules).barred = [] :=
      List.isEmpty_iff.1 isCompatible
    rcases standing_or_barred_or_withdrawn listed triggered with
      stands | isBarred | isWithdrawn
    · exact holds_closure_resolve_iff.2
        (Or.inr ⟨id, stands, rule, listed, states⟩)
    · rw [noneBarred] at isBarred
      exact absurd isBarred List.not_mem_nil
    · exact absurd isWithdrawn notWithdrawn

theorem triggered_rule_reported_quarrel :
    (resolve (.ofIs [⟨0⟩]) quarrel).isCompatible = true ∧
      quarrel[2].trigger.Holds
        (resolve (.ofIs [⟨0⟩]) quarrel).closure.is ∧
      ⟨2⟩ ∉ (resolve (.ofIs [⟨0⟩]) quarrel).withdrawn ∧
      (resolve (.ofIs [⟨0⟩]) quarrel).closure.Holds .isnt ⟨3⟩ := by
  have isCompatible :
      (resolve (.ofIs [⟨0⟩]) quarrel).isCompatible = true := by
    decide +kernel
  have triggered :
      quarrel[2].trigger.Holds
        (resolve (.ofIs [⟨0⟩]) quarrel).closure.is := by
    decide +kernel
  have notWithdrawn :
      ⟨2⟩ ∉ (resolve (.ofIs [⟨0⟩]) quarrel).withdrawn := by
    decide +kernel
  have states : quarrel[2].consequence.Holds .isnt ⟨3⟩ := by
    decide
  exact ⟨isCompatible, triggered, notWithdrawn,
    (triggered_rule_reported (.ofIs [⟨0⟩]) quarrel).2 isCompatible ⟨2⟩
      quarrel[2] rfl triggered notWithdrawn .isnt ⟨3⟩ states⟩

/-- The second rule rests on the first and upsets it. -/
def selfDefeat : List Rule :=
  [⟨⟨true, .single ⟨3⟩⟩, [⟨.is, ⟨1⟩⟩]⟩,
    ⟨⟨false, .single ⟨1⟩⟩, [⟨.is, ⟨3⟩⟩]⟩]

/-- Withdrawing the second rule triggers the first again, but the first is gone
by then: it neither stands nor is it barred. -/
theorem withdrawn_rule_triggered_again :
    ¬(∀ id : RuleId, ∀ rule ∈ selfDefeat[id.index]?,
        rule.trigger.Holds (resolve ∅ selfDefeat).closure.is →
          id ∈ (resolve ∅ selfDefeat).standing ∨
            id ∈ (resolve ∅ selfDefeat).barred.map Prod.fst) ∧
      ¬((resolve ∅ selfDefeat).isCompatible = true →
        ∀ id : RuleId, ∀ rule ∈ selfDefeat[id.index]?,
          rule.trigger.Holds (resolve ∅ selfDefeat).closure.is →
            ∀ verb concept, rule.consequence.Holds verb concept →
              (resolve ∅ selfDefeat).closure.Holds verb concept) := by
  have closureEmpty : (resolve ∅ selfDefeat).closure = ∅ := by
    decide +kernel
  have noneStands : (resolve ∅ selfDefeat).standing = [] := by
    decide +kernel
  have noneBarred : (resolve ∅ selfDefeat).barred = [] := by
    decide +kernel
  rw [closureEmpty, noneStands, noneBarred, Resolution.isCompatible,
    noneBarred]
  constructor
  · intro accounted
    have found := accounted ⟨0⟩ selfDefeat[0] rfl (by decide)
    revert found
    decide
  · intro complete
    have stated := complete rfl ⟨0⟩ selfDefeat[0] rfl (by decide) .is ⟨1⟩
      (by decide)
    revert stated
    decide

end ConceptRules
