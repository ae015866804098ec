import ConceptRules.Proofs.Partition
import ConceptRules.Proofs.Idempotence
import ConceptRules.Proofs.Rounds

/-!
# Replaying a closure

Facts that already state whatever the fitting rules entail are resolved in one
round: it admits these rules, settling withdraws none of them, and the next
round, if there is need of one, finds nothing admissible.  So the report can be
written down rule by rule, from the position of each against the facts.

The closure of a resolution is such a body of facts, unless a withdrawn rule
fits it.
-/

namespace ConceptRules

namespace State

variable {base : Facts} {state : State}

/-- What a round leaves pending does not fit the facts that it was held on. -/
theorem admissible_promote (facts : Facts) (state : State) :
    (state.promote facts).admissible facts = [] := by
  rw [admissible_eq_nil_iff]
  intro candidate pends fits
  obtain ⟨earlier, _, notFits, rfl⟩ := mem_pending_promote_iff.1 pends
  exact notFits (Candidate.fits_review_iff.1 fits)

theorem Settled.afterRound_eq_promote
    (settled : (state.promote (state.closure base)).Settled base) :
    state.afterRound base = state.promote (state.closure base) := by
  rw [afterRound, settled.settle_eq]

end State

/-! ## Resolving saturated facts to the end -/

section Saturated

variable {facts : Facts} {rules : List Rule}
  (saturated : Saturated facts rules)

include saturated

theorem State.addsNothing_promote_start :
    ((State.start rules).promote facts).AddsNothing facts := by
  have promoted :
      State.Reaches facts (State.start rules)
        ((State.start rules).promote facts) :=
    Relation.ReflTransGen.single State.Move.promote
  exact (promoted.addsNothing saturated).1

theorem State.afterRound_start_of_saturated :
    (State.start rules).afterRound facts = (State.start rules).promote facts :=
  State.Settled.afterRound_eq_promote
    (State.addsNothing_promote_start saturated).settled

theorem State.admissible_afterRound_start :
    ((State.start rules).afterRound facts).admissible
      (((State.start rules).afterRound facts).closure facts) = [] := by
  rw [State.afterRound_start_of_saturated saturated,
    (State.addsNothing_promote_start saturated).closure_eq]
  exact State.admissible_promote facts _

theorem State.standing_atRest_of_saturated :
    (State.atRest facts rules).standing =
      (State.start rules).admissible facts := by
  by_cases noneAdmissible : (State.start rules).admissible facts = []
  · rw [State.atRest, State.rest_of_admissible_eq_nil noneAdmissible,
      noneAdmissible]
    rfl
  · rw [State.atRest, State.rest_of_admissible_ne_nil noneAdmissible,
      State.rest_of_admissible_eq_nil
        (State.admissible_afterRound_start saturated),
      State.afterRound_start_of_saturated saturated]
    rfl

theorem rounds_resolve_of_saturated :
    (resolve facts rules).rounds =
      if (resolve facts rules).standing = [] then 1 else 2 := by
  have noneStands_iff :
      (resolve facts rules).standing = [] ↔
        (State.start rules).admissible facts = [] := by
    rw [standing_resolve, State.standing_atRest_of_saturated saturated,
      List.map_eq_nil_iff]
  have counted :
      (resolve facts rules).rounds =
        ((State.start rules).saturate facts).rounds.length :=
    rfl
  rw [counted]
  split
  case isTrue noneStands =>
    exact State.length_rounds_of_admissible_eq_nil
      (noneStands_iff.1 noneStands)
  case isFalse someStands =>
    rw [State.length_rounds_of_admissible_ne_nil
        (mt noneStands_iff.2 someStands),
      State.length_rounds_of_admissible_eq_nil
        (State.admissible_afterRound_start saturated)]

theorem standing_resolve_ascending_of_saturated :
    (resolve facts rules).standing.Pairwise
      fun left right => left.index < right.index := by
  rw [standing_resolve, State.standing_atRest_of_saturated saturated,
    List.pairwise_map]
  exact (State.inListOrder_start rules).filter _

theorem mem_unmet_iff_of_saturated {id : RuleId} {gap : Gap} :
    (id, gap) ∈ (resolve facts rules).unmet ↔
      ∃ rule ∈ rules[id.index]?,
        rule.trigger.verdict facts.is = .fails gap := by
  obtain ⟨sameClosure, noneWithdrawn⟩ := resolve_of_saturated saturated
  constructor
  · intro reported
    -- a gap on record was seen at some moment, and the facts never changed
    obtain ⟨_, rule, listed, state, reached, observed⟩ :=
      not_standing_and_observed_of_mem_unmet reported
    rw [(reached.addsNothing saturated).1.closure_eq] at observed
    exact ⟨rule, listed, observed⟩
  · intro found
    obtain ⟨rule, listed, verdict⟩ := found
    have notTriggered : ¬rule.trigger.Holds facts.is := by
      rw [← Trigger.verdict_eq_holds_iff, verdict]
      exact Verdict.noConfusion
    have notAdmitted : id ∉ (Run.ofRules facts rules).admissions := by
      rw [mem_admissions_iff, mem_standing_iff_of_saturated saturated,
        noneWithdrawn]
      intro admitted
      obtain ⟨other, otherListed, fits⟩ :=
        admitted.resolve_right List.not_mem_nil
      rw [Option.mem_def.1 listed] at otherListed
      cases otherListed
      exact notTriggered (Rule.appraise_eq_fits_iff.1 fits).1
    rw [← sameClosure] at notTriggered
    obtain ⟨reported, reportedVerdict, isReported⟩ :=
      mem_unmet_of_applies listed ⟨notAdmitted, notTriggered⟩
    rw [sameClosure, verdict] at reportedVerdict
    cases reportedVerdict
    exact isReported

end Saturated

/-! ## Replaying -/

section Replay

variable
  {base : Facts} {rules : List Rule}
  (noneFits : ∀ id ∈ (resolve base rules).withdrawn,
    ∀ rule ∈ rules[id.index]?,
      rule.trigger.Holds (resolve base rules).closure.is →
        ¬(resolve base rules).closure.Compatible rule.consequence)

include noneFits

theorem standing_resolve_again :
    (resolve (resolve base rules).closure rules).standing =
      sortOn RuleId.index (resolve base rules).standing := by
  have saturated := saturated_closure noneFits
  have distinct := indices_resolve_nodup base rules
  rw [List.map_append] at distinct
  apply eq_of_ascending_of_mem_iff RuleId.index
    (standing_resolve_ascending_of_saturated saturated)
    (sortOn_strictlyAscending (List.nodup_append.1 distinct).1)
  intro id
  rw [mem_sortOn, mem_standing_iff_of_saturated saturated,
    mem_standing_iff_fits noneFits]

theorem mem_barred_resolve_again_iff {id : RuleId} {clash : Clash} :
    (id, clash) ∈ (resolve (resolve base rules).closure rules).barred ↔
      id ∉ (resolve base rules).standing ∧ ∃ rule ∈ rules[id.index]?,
        rule.trigger.Holds (resolve base rules).closure.is ∧
          clash = (resolve base rules).closure.clash rule.consequence := by
  obtain ⟨sameClosure, noneWithdrawn⟩ :=
    resolve_of_saturated (saturated_closure noneFits)
  have admitted_iff :
      id ∈ (Run.ofRules (resolve base rules).closure rules).admissions ↔
        id ∈ (resolve base rules).standing := by
    rw [mem_admissions_iff, standing_resolve_again noneFits, mem_sortOn,
      noneWithdrawn]
    exact or_iff_left List.not_mem_nil
  rw [mem_barred_iff_applies]
  simp only [Outcome.Applies, admitted_iff, sameClosure]
  constructor
  · intro isBarred
    obtain ⟨rule, listed, ⟨notStanding, triggered⟩, sameClash⟩ := isBarred
    exact ⟨notStanding, rule, listed, triggered, sameClash⟩
  · intro isBarred
    obtain ⟨notStanding, rule, listed, triggered, sameClash⟩ := isBarred
    exact ⟨rule, listed, ⟨notStanding, triggered⟩, sameClash⟩

end Replay

/-! ## Main result -/

/-- If no withdrawn rule fits the closure, then the closure is resolved in one
round of admissions.  The same rules stand, now in list order.  Of the others,
those that were withdrawn included, each that is triggered is barred, and each
that is not is reported with its gap. -/
theorem resolve_closure_settles
    {base : Facts} {rules : List Rule} {first again : Resolution}
    (isFirst : resolve base rules = first)
    (isAgain : resolve first.closure rules = again)
    (noneFits : ∀ id ∈ first.withdrawn, ∀ rule ∈ rules[id.index]?,
      rule.trigger.Holds first.closure.is →
        ¬first.closure.Compatible rule.consequence) :
    again.closure = first.closure ∧
      again.standing = sortOn RuleId.index first.standing ∧
      again.withdrawn = [] ∧
      again.rounds = (if first.standing = [] then 1 else 2) ∧
      (∀ id clash, (id, clash) ∈ again.barred ↔
        id ∉ first.standing ∧ ∃ rule ∈ rules[id.index]?,
          rule.trigger.Holds first.closure.is ∧
            clash = first.closure.clash rule.consequence) ∧
      (again.barred.Pairwise
        fun earlier later => earlier.1.index < later.1.index) ∧
      (∀ id gap, (id, gap) ∈ again.unmet ↔
        ∃ rule ∈ rules[id.index]?,
          rule.trigger.verdict first.closure.is = .fails gap) ∧
      again.unmet.Pairwise
        fun earlier later => earlier.1.index < later.1.index := by
  subst isFirst isAgain
  have saturated := saturated_closure noneFits
  have noneStands_iff :
      (resolve (resolve base rules).closure rules).standing = [] ↔
        (resolve base rules).standing = [] := by
    rw [standing_resolve_again noneFits, List.eq_nil_iff_forall_not_mem,
      List.eq_nil_iff_forall_not_mem]
    simp only [mem_sortOn]
  refine ⟨(resolve_of_saturated saturated).1, standing_resolve_again noneFits,
    (resolve_of_saturated saturated).2, ?_,
    fun id clash => mem_barred_resolve_again_iff noneFits,
    barred_resolve_ascending _ _,
    fun id gap => mem_unmet_iff_of_saturated saturated,
    unmet_resolve_ascending _ _⟩
  rw [rounds_resolve_of_saturated saturated]
  simp only [noneStands_iff]

/-- The second and third rules below contradict each other and are withdrawn.
Then the first one settles the matter, so that the third, though still
triggered, cannot come back. -/
def overruled : List Rule :=
  [⟨⟨false, .single ⟨1⟩⟩, [⟨.is, ⟨2⟩⟩]⟩,
    ⟨⟨true, .single ⟨1⟩⟩, [⟨.is, ⟨2⟩⟩]⟩,
    ⟨⟨false, .single ⟨0⟩⟩, [⟨.isnt, ⟨2⟩⟩]⟩,
    ⟨⟨false, .single ⟨0⟩⟩, [⟨.is, ⟨1⟩⟩]⟩,
    ⟨⟨false, .single ⟨0⟩⟩, [⟨.isnt, ⟨0⟩⟩]⟩,
    ⟨⟨false, .single ⟨3⟩⟩, [⟨.is, ⟨4⟩⟩]⟩]

theorem resolve_closure_settles_overruled :
    (resolve (.ofIs [⟨0⟩]) overruled).withdrawn = [⟨1⟩, ⟨2⟩] ∧
      overruled[2].trigger.Holds
        (resolve (.ofIs [⟨0⟩]) overruled).closure.is ∧
      (resolve (resolve (.ofIs [⟨0⟩]) overruled).closure overruled).standing =
        [⟨0⟩, ⟨3⟩] ∧
      (resolve (resolve (.ofIs [⟨0⟩]) overruled).closure overruled).rounds =
        2 ∧
      ⟨2⟩ ∈ (resolve (resolve (.ofIs [⟨0⟩]) overruled).closure
        overruled).barred.map Prod.fst := by
  have standing : (resolve (.ofIs [⟨0⟩]) overruled).standing = [⟨3⟩, ⟨0⟩] := by
    decide +kernel
  have withdrawn :
      (resolve (.ofIs [⟨0⟩]) overruled).withdrawn = [⟨1⟩, ⟨2⟩] := by
    decide +kernel
  have triggered :
      overruled[2].trigger.Holds
        (resolve (.ofIs [⟨0⟩]) overruled).closure.is := by
    decide +kernel
  have noneFits :
      ∀ id ∈ (resolve (.ofIs [⟨0⟩]) overruled).withdrawn,
        ∀ rule ∈ overruled[id.index]?,
          rule.trigger.Holds
              (resolve (.ofIs [⟨0⟩]) overruled).closure.is →
            ¬(resolve (.ofIs [⟨0⟩]) overruled).closure.Compatible
              rule.consequence := by
    decide +kernel
  have inListOrder : sortOn RuleId.index [⟨3⟩, ⟨0⟩] = [⟨0⟩, ⟨3⟩] := by
    apply eq_of_ascending_of_mem_iff RuleId.index
    · exact sortOn_strictlyAscending (by decide)
    · decide
    · intro id
      simp [or_comm]
  obtain ⟨_, sorted, _, twoRounds, barred_iff, _⟩ :=
    resolve_closure_settles rfl rfl noneFits
  rw [standing] at sorted twoRounds barred_iff
  have isBarred := (barred_iff ⟨2⟩ _).2
    ⟨by decide, overruled[2], rfl, triggered, rfl⟩
  exact ⟨withdrawn, triggered, sorted.trans inListOrder, twoRounds,
    List.mem_map_of_mem isBarred⟩

end ConceptRules
