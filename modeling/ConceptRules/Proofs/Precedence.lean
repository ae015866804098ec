import ConceptRules.Proofs.Bystanders
import ConceptRules.Proofs.Partition

/-!
# The base comes first

What is given is never given up: the base is part of the closure at every
moment of a resolution.  A rule is only admitted if it fits the closure of that
moment, so no rule that contradicts the base is ever admitted.  Such a rule has
no say in what becomes of the others, and is barred if triggered in the end.
-/

namespace ConceptRules

variable {base : Facts} {rules : List Rule}

namespace State

variable {state : State} {candidate : Candidate}

/-- Whatever became of it, a rule that was admitted did once fit. -/
theorem Reaches.exists_fits
    (reached : Reaches base (start rules) state)
    (stage : Stage) (notPending : stage ≠ .pending)
    (member : candidate ∈ state.members stage) :
    ∃ earlier, Reaches base (start rules) earlier ∧
      candidate.Fits (earlier.closure base) := by
  induction reached generalizing stage candidate with
  | refl => exact absurd (mem_members_start.1 member).1 notPending
  | @tail current _ reached move inductionHypothesis =>
      cases stage with
      | pending => exact absurd rfl notPending
      | standing =>
          cases move with
          | promote =>
              rcases mem_standing_promote_iff.1 member with stood | joins
              · exact inductionHypothesis .standing notPending stood
              · exact ⟨current, reached, joins.2⟩
          | withdraw =>
              exact inductionHypothesis .standing notPending
                (mem_standing_withdraw_iff.1 member).1
      | withdrawn =>
          cases move with
          | promote => exact inductionHypothesis .withdrawn notPending member
          | withdraw =>
              rcases mem_withdrawn_withdraw_iff.1 member with before | leaves
              · exact inductionHypothesis .withdrawn notPending before
              · -- the gap is noted anew, which does not matter to what fits
                obtain ⟨original, stood, _, rfl⟩ := leaves
                obtain ⟨earlier, reachedEarlier, fitted⟩ :=
                  inductionHypothesis .standing Stage.noConfusion stood
                exact ⟨earlier, reachedEarlier,
                  Candidate.fits_review_iff.2 fitted⟩

theorem Reaches.base_compatible
    (reached : Reaches base (start rules) state)
    (stage : Stage) (notPending : stage ≠ .pending)
    (member : candidate ∈ state.members stage) :
    base.Compatible candidate.rule.consequence := by
  obtain ⟨earlier, _, fitted⟩ := reached.exists_fits stage notPending member
  exact Facts.compatible_of_holds_imp (base_within_closure base earlier)
    (Candidate.fits_iff.1 fitted).2

end State

section Contradiction

variable {id : RuleId} {rule : Rule}
  (listed : rules[id.index]? = some rule)
  (contradicts : ¬base.Compatible rule.consequence)

include listed contradicts

theorem not_mem_admissions_of_not_compatible :
    id ∉ (Run.ofRules base rules).admissions := by
  intro isAdmitted
  obtain ⟨stage, notPending, candidate, member, rfl⟩ :=
    exists_member_of_mem_admissions isAdmitted
  have compatible :=
    (State.reaches_atRest base rules).base_compatible stage notPending member
  rw [State.rule_eq_of_mem_members stage member listed] at compatible
  exact contradicts compatible

theorem mem_map_barred_iff_of_not_compatible :
    id ∈ (resolve base rules).barred.map Prod.fst ↔
      rule.trigger.Holds (resolve base rules).closure.is := by
  have notAdmitted :=
    not_mem_admissions_of_not_compatible listed contradicts
  have barred_iff (clash : Clash) :
      (id, clash) ∈ (resolve base rules).barred ↔
        rule.trigger.Holds (resolve base rules).closure.is ∧
          clash = (resolve base rules).closure.clash rule.consequence := by
    rw [mem_barred_iff_applies, listed]
    simp [Outcome.Applies, notAdmitted]
  simp [barred_iff]

/-! ## Main result -/

/-- A rule that contradicts the base is not admitted in any round.  Without it
the resolution has the same closure and as many rounds, and reports the same of
each of the other rules.  The rule itself is barred exactly if it is triggered
by the closure. -/
theorem contradicting_base_never_admitted :
    (∀ round ∈ (Run.ofRules base rules).rounds, id ∉ round.admitted) ∧
      id ∉ (resolve base rules).standing ∧
      id ∉ (resolve base rules).withdrawn ∧
      (resolve base (chosenRules (· ≠ id) rules)).closure =
        (resolve base rules).closure ∧
      (resolve base (chosenRules (· ≠ id) rules)).rounds =
        (resolve base rules).rounds ∧
      (∀ other, other ≠ id →
        SameReport (resolve base rules) other
          (resolve base (chosenRules (· ≠ id) rules))
          (other.among (· ≠ id))) ∧
      (id ∈ (resolve base rules).barred.map Prod.fst ↔
        rule.trigger.Holds (resolve base rules).closure.is) := by
  have notAdmitted :=
    not_mem_admissions_of_not_compatible listed contradicts
  have othersAdmitted :
      ∀ other ∈ (Run.ofRules base rules).admissions,
        decide (other ≠ id) = true := by
    intro other isAdmitted
    refine decide_eq_true ?_
    intro same
    rw [same] at isAdmitted
    exact notAdmitted isAdmitted
  obtain ⟨notStanding, notWithdrawn⟩ :=
    not_or.1 (mt mem_admissions_iff.2 notAdmitted)
  refine ⟨?_, notStanding, notWithdrawn,
    closure_of_admits_chosen othersAdmitted,
    rounds_of_admits_chosen othersAdmitted,
    fun other isOther =>
      sameReport_of_admits_chosen othersAdmitted (decide_eq_true isOther),
    mem_map_barred_iff_of_not_compatible listed contradicts⟩
  intro round isRound admitted
  exact notAdmitted (List.mem_flatMap.2 ⟨round, isRound, admitted⟩)

end Contradiction

/-- Were the first rule admitted, it would contradict the second one. -/
def denial : List Rule :=
  [⟨⟨false, .single ⟨0⟩⟩, [⟨.isnt, ⟨0⟩⟩, ⟨.isnt, ⟨1⟩⟩]⟩,
    ⟨⟨false, .single ⟨0⟩⟩, [⟨.is, ⟨1⟩⟩]⟩]

theorem contradicting_base_never_admitted_denial :
    ¬(Facts.ofIs [⟨0⟩]).Compatible denial[0].consequence ∧
      ⟨0⟩ ∉ (resolve (.ofIs [⟨0⟩]) denial).standing ∧
      ⟨1⟩ ∈ (resolve (.ofIs [⟨0⟩]) denial).standing ∧
      ⟨0⟩ ∈ (resolve (.ofIs [⟨0⟩]) denial).barred.map Prod.fst ∧
      (resolve (.ofIs [⟨0⟩]) denial.tail).closure =
        (resolve (.ofIs [⟨0⟩]) denial).closure := by
  have contradicts :
      ¬(Facts.ofIs [⟨0⟩]).Compatible denial[0].consequence := by
    decide
  have triggered :
      denial[0].trigger.Holds (resolve (.ofIs [⟨0⟩]) denial).closure.is := by
    decide +kernel
  have otherStands : ⟨1⟩ ∈ (resolve (.ofIs [⟨0⟩]) denial).standing := by
    decide +kernel
  have listed : denial[(⟨0⟩ : RuleId).index]? = some denial[0] := rfl
  obtain ⟨_, notStanding, _, sameClosure, _, _, barred_iff⟩ :=
    contradicting_base_never_admitted listed contradicts
  exact ⟨contradicts, notStanding, otherStands, barred_iff.2 triggered,
    sameClosure⟩

end ConceptRules
