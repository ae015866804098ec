import Mathlib.Logic.Function.Iterate
import ConceptRules.Proofs.Rest

/-!
# Counting rounds

A resolution holds rounds until one admits nothing.  Rounds held after that
would change nothing, so a resolution that is over may be looked at as if it
went on: its last state is the state after any number of rounds that is large
enough (`State.Settled.last_eq_iterate`), and it takes as many rounds as it
takes to find nothing admissible (`State.Settled.length_rounds_le_iff`).
Resolutions of different length can be compared in this way.
-/

namespace ConceptRules

/-! ## Reviewing twice -/

theorem Rule.noted_noted (rule : Rule) (facts : Facts) (gap : Option Gap) :
    rule.noted facts (rule.noted facts gap) = rule.noted facts gap := by
  rw [noted, noted]
  cases rule.appraise facts with
  | unmet current => rfl
  | barred clash => rfl
  | fits => rfl

theorem Candidate.review_eq (facts : Facts) (candidate : Candidate) :
    candidate.review facts =
      { candidate with gap := candidate.rule.noted facts candidate.gap } := by
  rw [review, Rule.noted]
  cases candidate.rule.appraise facts with
  | unmet gap => rfl
  | barred clash => rfl
  | fits => rfl

theorem Candidate.review_review (facts : Facts) (candidate : Candidate) :
    (candidate.review facts).review facts = candidate.review facts := by
  rw [review_eq, review_eq, Rule.noted_noted]

theorem Candidate.fits_review_iff
    {facts tested : Facts} {candidate : Candidate} :
    (candidate.review facts).Fits tested ↔ candidate.Fits tested := by
  rw [Fits, Fits, rule_review]

theorem Candidate.clash?_review (facts tested : Facts) (candidate : Candidate) :
    (candidate.review facts).clash? tested = candidate.clash? tested := by
  rw [clash?, clash?, rule_review, id_review]

namespace State

variable {base : Facts} {state : State}

theorem eq_of_stages
    {left right : State}
    (samePending : left.pending = right.pending)
    (sameStanding : left.standing = right.standing)
    (sameWithdrawn : left.withdrawn = right.withdrawn) : left = right := by
  cases left
  cases right
  cases samePending
  cases sameStanding
  cases sameWithdrawn
  rfl

/-! ## Rounds that change nothing -/

/-- A round that admits nothing reviews the pending rules and does no more. -/
theorem promote_of_admissible_eq_nil
    {facts : Facts} (noneAdmissible : state.admissible facts = []) :
    state.promote facts =
      { state with pending := state.pending.map (Candidate.review facts) } := by
  have sameStanding : (state.promote facts).standing = state.standing := by
    rw [promote, noneAdmissible, List.append_nil]
  exact eq_of_stages (pending_promote_of_admissible_eq_nil noneAdmissible)
    sameStanding rfl

section OverAtOnce

variable (settled : state.Settled base)
  (noneAdmissible : state.admissible (state.closure base) = [])

include settled noneAdmissible

theorem Settled.afterRound_eq :
    state.afterRound base =
      { state with
        pending :=
          state.pending.map (Candidate.review (state.closure base)) } := by
  rw [afterRound, (settled.promote noneAdmissible).settle_eq]
  exact promote_of_admissible_eq_nil noneAdmissible

theorem Settled.closure_afterRound :
    (state.afterRound base).closure base = state.closure base := by
  rw [settled.afterRound_eq noneAdmissible]
  rfl

theorem Settled.admissible_afterRound :
    (state.afterRound base).admissible ((state.afterRound base).closure base) =
      [] := by
  rw [settled.closure_afterRound noneAdmissible,
    settled.afterRound_eq noneAdmissible, admissible_eq_nil_iff]
  rw [admissible_eq_nil_iff] at noneAdmissible
  intro candidate pends fits
  obtain ⟨earlier, pended, rfl⟩ := List.mem_map.1 pends
  exact noneAdmissible earlier pended (Candidate.fits_review_iff.1 fits)

/-- Another such round finds all rules reviewed. -/
theorem Settled.afterRound_afterRound :
    (state.afterRound base).afterRound base = state.afterRound base := by
  have stillNone := settled.admissible_afterRound noneAdmissible
  rw [(settled_afterRound base state).afterRound_eq stillNone,
    settled.closure_afterRound noneAdmissible,
    settled.afterRound_eq noneAdmissible, List.map_map]
  have reviewed :
      state.pending.map
          (Candidate.review (state.closure base) ∘
            Candidate.review (state.closure base)) =
        state.pending.map (Candidate.review (state.closure base)) :=
    List.map_congr_left fun candidate _ =>
      Candidate.review_review (state.closure base) candidate
  rw [reviewed]

theorem Settled.admissible_iterate (count : Nat) :
    ((afterRound base)^[count] state).admissible
        (((afterRound base)^[count] state).closure base) =
      [] := by
  cases count with
  | zero => exact noneAdmissible
  | succ count =>
      rw [Function.iterate_succ_apply,
        Function.iterate_fixed (settled.afterRound_afterRound noneAdmissible)]
      exact settled.admissible_afterRound noneAdmissible

end OverAtOnce

/-! ## The end, and how many rounds lead there -/

theorem reaches_iterate (base : Facts) (state : State) (count : Nat) :
    Reaches base state ((afterRound base)^[count] state) := by
  induction count with
  | zero => exact Relation.ReflTransGen.refl
  | succ count inductionHypothesis =>
      rw [Function.iterate_succ_apply']
      exact inductionHypothesis.trans (reaches_afterRound base _)

theorem length_rounds_of_admissible_eq_nil
    (noneAdmissible : state.admissible (state.closure base) = []) :
    (state.saturate base).rounds.length = 1 := by
  rw [saturate, dif_pos noneAdmissible]
  rfl

theorem length_rounds_of_admissible_ne_nil
    (someAdmissible : state.admissible (state.closure base) ≠ []) :
    (state.saturate base).rounds.length =
      ((state.afterRound base).saturate base).rounds.length + 1 := by
  rw [saturate, dif_neg someAdmissible]
  rfl

theorem last_of_admissible_eq_nil
    (noneAdmissible : state.admissible (state.closure base) = []) :
    (state.saturate base).last = state.afterRound base := by
  rw [saturate, dif_pos noneAdmissible]
  rfl

theorem last_of_admissible_ne_nil
    (someAdmissible : state.admissible (state.closure base) ≠ []) :
    (state.saturate base).last =
      ((state.afterRound base).saturate base).last := by
  rw [saturate, dif_neg someAdmissible]
  rfl

theorem length_rounds_pos (base : Facts) (state : State) :
    0 < (state.saturate base).rounds.length := by
  by_cases noneAdmissible : state.admissible (state.closure base) = []
  · rw [length_rounds_of_admissible_eq_nil noneAdmissible]
    exact Nat.one_pos
  · rw [length_rounds_of_admissible_ne_nil noneAdmissible]
    exact Nat.succ_pos _

theorem Settled.last_eq_iterate
    (settled : state.Settled base) {count : Nat}
    (enough : (state.saturate base).rounds.length ≤ count) :
    (state.saturate base).last = (afterRound base)^[count] state := by
  fun_induction State.rest base state generalizing count with
  | case1 state noneAdmissible =>
      rw [length_rounds_of_admissible_eq_nil noneAdmissible] at enough
      obtain ⟨further, rfl⟩ := Nat.exists_eq_add_of_le' enough
      rw [last_of_admissible_eq_nil noneAdmissible,
        Function.iterate_succ_apply,
        Function.iterate_fixed (settled.afterRound_afterRound noneAdmissible)]
  | case2 state someAdmissible inductionHypothesis =>
      rw [length_rounds_of_admissible_ne_nil someAdmissible] at enough
      obtain ⟨further, rfl⟩ :=
        Nat.exists_eq_add_of_le' (Nat.le_of_add_left_le enough)
      rw [last_of_admissible_ne_nil someAdmissible,
        Function.iterate_succ_apply]
      exact inductionHypothesis (settled_afterRound base state)
        (Nat.le_of_succ_le_succ enough)

theorem Settled.length_rounds_le_iff
    (settled : state.Settled base) {count : Nat} :
    (state.saturate base).rounds.length ≤ count + 1 ↔
      ((afterRound base)^[count] state).admissible
        (((afterRound base)^[count] state).closure base) = [] := by
  fun_induction State.rest base state generalizing count with
  | case1 state noneAdmissible =>
      rw [length_rounds_of_admissible_eq_nil noneAdmissible]
      exact iff_of_true (Nat.succ_le_succ (Nat.zero_le count))
        (settled.admissible_iterate noneAdmissible count)
  | case2 state someAdmissible inductionHypothesis =>
      rw [length_rounds_of_admissible_ne_nil someAdmissible,
        Nat.add_le_add_iff_right]
      cases count with
      | zero =>
          have atLeastOne := length_rounds_pos base (state.afterRound base)
          exact iff_of_false (Nat.not_le_of_gt atLeastOne) someAdmissible
      | succ count =>
          rw [Function.iterate_succ_apply]
          exact inductionHypothesis (settled_afterRound base state)

end State

/-! ## What is reported, read off the last state -/

theorem State.reaches_last (base : Facts) (rules : List Rule) :
    Reaches base (start rules) (Run.ofRules base rules).last := by
  rw [last_ofRules]
  exact (reaches_atRest base rules).tail Move.promote

theorem barred_resolve_eq_barred_last (base : Facts) (rules : List Rule) :
    (resolve base rules).barred =
      (Run.ofRules base rules).last.barred (resolve base rules).closure := by
  rw [barred_resolve, last_ofRules, closure_resolve, State.barred, State.barred,
    State.pending_promote_of_admissible_eq_nil
      (State.admissible_atRest base rules), List.filterMap_map]
  have sameClash :
      (fun candidate : Candidate =>
          candidate.clash? ((State.atRest base rules).closure base)) ∘
          Candidate.review ((State.atRest base rules).closure base) =
        fun candidate =>
          candidate.clash? ((State.atRest base rules).closure base) :=
    funext fun candidate => Candidate.clash?_review _ _ candidate
  rw [sameClash]

end ConceptRules
