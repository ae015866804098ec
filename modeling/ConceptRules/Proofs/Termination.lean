import Mathlib.Algebra.Order.BigOperators.Group.List
import Mathlib.Data.List.Nodup
import ConceptRules.Proofs.Admission
import ConceptRules.Proofs.Report
import ConceptRules.Proofs.Rounds

/-!
# How long a resolution takes

A resolution consists of two nested loops, of rounds and of the passes in which
a state settles.  `Control` tells where they have got to, and `Control.step`
takes one turn of one of them.  However the facts grow and shrink in turn, the
loops halt, as each turn that is not the last of its loop moves a rule on: a
round admits one that was pending, and a pass withdraws one that stood.  As no
rule comes back to where it was, the turns can be counted against the rules.
-/

namespace ConceptRules

/-- The passes that withdraw rules, round by round. -/
def Run.passes (run : Run) : List (List RuleId) :=
  run.rounds.flatMap Round.passes

/-- A round takes one turn to read the pending rules, one for each pass, and one
to find all standing rules fit. -/
def Run.turns (run : Run) : Nat :=
  2 * run.rounds.length + run.passes.length

/-- Where the loops of a resolution have got to. -/
inductive Control where
  | round (state : State)
  /-- The standing rules are to be read, in the last round or in another. -/
  | pass (isLast : Bool) (state : State)
  | halted (state : State)
  deriving DecidableEq

namespace Control

/-- What comes after a round whose state is settled. -/
def next (isLast : Bool) (state : State) : Control :=
  if isLast then .halted state else .round state

/-- One turn of one of the loops. -/
def step (base : Facts) : Control → Control
  | .round state =>
      .pass (state.admissible (state.closure base)).isEmpty
        (state.promote (state.closure base))
  | .pass isLast state =>
      if state.stale (state.closure base) = [] then
        next isLast state
      else
        .pass isLast (state.withdraw (state.closure base))
  | .halted state => .halted state

/-! ## The loops halt -/

theorem iterate_step_pass (base : Facts) (isLast : Bool) (state : State) :
    (step base)^[(state.settle base).passes.length + 1] (.pass isLast state) =
      next isLast (state.settle base).state := by
  fun_induction State.settle base state with
  | case1 state facts noneStale =>
      exact if_pos noneStale
  | case2 state facts someStale rest inductionHypothesis =>
      have withdrawal :
          step base (.pass isLast state) =
            .pass isLast (state.withdraw facts) :=
        if_neg someStale
      rw [List.length_cons, Function.iterate_succ_apply, withdrawal]
      exact inductionHypothesis

theorem iterate_step_round (base : Facts) (state : State) :
    (step base)^[((state.promote (state.closure base)).settle
          base).passes.length + 2]
        (.round state) =
      next (state.admissible (state.closure base)).isEmpty
        (state.afterRound base) := by
  rw [Function.iterate_succ_apply]
  exact iterate_step_pass base _ _

theorem iterate_step_saturate (base : Facts) (state : State) :
    (step base)^[(state.saturate base).turns] (.round state) =
      .halted (state.saturate base).last := by
  fun_induction State.saturate base state with
  | case1 state facts settlement round noneAdmissible =>
      have counted :
          ({ base, rounds := [round], last := settlement.state } : Run).turns =
            settlement.passes.length + 2 := by
        simp [Run.turns, Run.passes, round, Nat.add_comm]
      have isLast : (state.admissible facts).isEmpty = true :=
        List.isEmpty_iff.2 noneAdmissible
      rw [counted, iterate_step_round, isLast]
      rfl
  | case2 state facts settlement round someAdmissible rest
      inductionHypothesis =>
      have counted :
          ({ rest with rounds := round :: rest.rounds } : Run).turns =
            rest.turns + (settlement.passes.length + 2) := by
        simp only [Run.turns, Run.passes, round, List.length_cons,
          List.flatMap_cons, List.length_append]
        omega
      have notLast : (state.admissible facts).isEmpty = false :=
        List.isEmpty_eq_false_iff.2 someAdmissible
      rw [counted, Function.iterate_add_apply, iterate_step_round, notLast]
      exact inductionHypothesis

end Control

/-! ## Every pass withdraws a rule -/

namespace State

theorem ne_nil_of_mem_passes_settle
    (base : Facts) (state : State) {pass : List RuleId}
    (isPass : pass ∈ (state.settle base).passes) : pass ≠ [] := by
  fun_induction settle base state with
  | case1 => exact absurd isPass List.not_mem_nil
  | case2 state facts someStale rest inductionHypothesis =>
      rcases List.mem_cons.1 isPass with isFirst | isLater
      · rw [isFirst]
        exact mt List.map_eq_nil_iff.1 someStale
      · exact inductionHypothesis isLater

theorem withdrawn_settle (base : Facts) (state : State) :
    (state.settle base).state.withdrawn.map Candidate.id =
      state.withdrawn.map Candidate.id ++
        (state.settle base).passes.flatten := by
  fun_induction settle base state with
  | case1 => exact (List.append_nil _).symm
  | case2 state facts someStale rest inductionHypothesis =>
      have withdrawal :
          (state.withdraw facts).withdrawn.map Candidate.id =
            state.withdrawn.map Candidate.id ++
              (state.stale facts).map Candidate.id := by
        rw [withdraw, List.map_append, List.map_map]
        exact congrArg _ (List.map_congr_left fun candidate _ =>
          Candidate.id_review facts candidate)
      rw [List.flatten_cons, ← List.append_assoc, ← withdrawal]
      exact inductionHypothesis

section Saturate

variable {base : Facts} {state : State}

theorem passes_saturate_of_admissible_eq_nil
    (noneAdmissible : state.admissible (state.closure base) = []) :
    (state.saturate base).passes =
      ((state.promote (state.closure base)).settle base).passes := by
  rw [saturate, dif_pos noneAdmissible, Run.passes, List.flatMap_singleton]

theorem passes_saturate_of_admissible_ne_nil
    (someAdmissible : state.admissible (state.closure base) ≠ []) :
    (state.saturate base).passes =
      ((state.promote (state.closure base)).settle base).passes ++
        ((state.afterRound base).saturate base).passes := by
  rw [saturate, dif_neg someAdmissible, Run.passes, List.flatMap_cons]
  rfl

theorem withdrawn_afterRound :
    (state.afterRound base).withdrawn.map Candidate.id =
      state.withdrawn.map Candidate.id ++
        ((state.promote (state.closure base)).settle base).passes.flatten :=
  withdrawn_settle base _

end Saturate

theorem ne_nil_of_mem_passes_saturate
    (base : Facts) (state : State) {pass : List RuleId}
    (isPass : pass ∈ (state.saturate base).passes) : pass ≠ [] := by
  fun_induction rest base state with
  | case1 state noneAdmissible =>
      rw [passes_saturate_of_admissible_eq_nil noneAdmissible] at isPass
      exact ne_nil_of_mem_passes_settle base _ isPass
  | case2 state someAdmissible inductionHypothesis =>
      rw [passes_saturate_of_admissible_ne_nil someAdmissible] at isPass
      rcases List.mem_append.1 isPass with ofRound | ofLater
      · exact ne_nil_of_mem_passes_settle base _ ofRound
      · exact inductionHypothesis ofLater

theorem withdrawn_saturate (base : Facts) (state : State) :
    (state.saturate base).last.withdrawn.map Candidate.id =
      state.withdrawn.map Candidate.id ++
        (state.saturate base).passes.flatten := by
  fun_induction rest base state with
  | case1 state noneAdmissible =>
      rw [last_of_admissible_eq_nil noneAdmissible,
        passes_saturate_of_admissible_eq_nil noneAdmissible]
      exact withdrawn_afterRound
  | case2 state someAdmissible inductionHypothesis =>
      rw [last_of_admissible_ne_nil someAdmissible,
        passes_saturate_of_admissible_ne_nil someAdmissible,
        List.flatten_append, ← List.append_assoc, ← withdrawn_afterRound]
      exact inductionHypothesis

/-! ## Every round but the last admits a rule -/

theorem length_rounds_le (base : Facts) (state : State) :
    (state.saturate base).rounds.length ≤
      (state.saturate base).admissions.length + 1 := by
  fun_induction rest base state with
  | case1 state noneAdmissible =>
      rw [length_rounds_of_admissible_eq_nil noneAdmissible]
      omega
  | case2 state someAdmissible inductionHypothesis =>
      have someAdmitted := List.length_pos_iff.2 someAdmissible
      rw [length_rounds_of_admissible_ne_nil someAdmissible,
        admissions_saturate_of_admissible_ne_nil someAdmissible,
        List.length_append, List.length_map]
      omega

theorem length_rounds_eq_one_iff (base : Facts) (state : State) :
    (state.saturate base).rounds.length = 1 ↔
      (state.saturate base).admissions = [] := by
  by_cases noneAdmissible : state.admissible (state.closure base) = []
  · exact iff_of_true (length_rounds_of_admissible_eq_nil noneAdmissible)
      (admissions_saturate_of_admissible_eq_nil noneAdmissible)
  · have laterRound := length_rounds_pos base (state.afterRound base)
    rw [length_rounds_of_admissible_ne_nil noneAdmissible,
      admissions_saturate_of_admissible_ne_nil noneAdmissible]
    refine iff_of_false (by omega) ?_
    simp [noneAdmissible]

theorem length_stages_of_reaches
    {base : Facts} {rules : List Rule} {state : State}
    (reached : Reaches base (start rules) state) :
    state.pending.length + state.standing.length + state.withdrawn.length =
      rules.length := by
  have sameLength := reached.roster_perm.length_eq
  simpa [roster, start, Nat.add_assoc] using sameLength

end State

/-! ## What is reported -/

section Report

variable (base : Facts) (rules : List Rule)

theorem withdrawn_resolve_eq_flatten :
    (resolve base rules).withdrawn =
      (Run.ofRules base rules).passes.flatten :=
  State.withdrawn_saturate base (State.start rules)

theorem length_passes_le :
    (Run.ofRules base rules).passes.length ≤
      (resolve base rules).withdrawn.length := by
  rw [withdrawn_resolve_eq_flatten, List.length_flatten]
  refine Nat.le_trans (Nat.le_of_eq (List.length_map _).symm)
    (List.length_le_sum_of_one_le _ ?_)
  intro length isLength
  obtain ⟨pass, isPass, rfl⟩ := List.mem_map.1 isLength
  exact List.length_pos_iff.2
    (State.ne_nil_of_mem_passes_saturate base _ isPass)

theorem length_admissions :
    (Run.ofRules base rules).admissions.length =
      (resolve base rules).standing.length +
        (resolve base rules).withdrawn.length := by
  rw [(admissions_perm base rules).length_eq, List.length_append]

theorem length_admitted_le :
    (resolve base rules).standing.length +
        (resolve base rules).withdrawn.length ≤ rules.length := by
  have counted :=
    State.length_stages_of_reaches (State.reaches_atRest base rules)
  rw [standing_resolve, withdrawn_resolve, List.length_map, List.length_map]
  omega

theorem admitted_resolve_nodup :
    ((resolve base rules).standing ++ (resolve base rules).withdrawn).Nodup :=
  List.Nodup.of_map RuleId.index (indices_resolve_nodup base rules)

theorem index_lt_of_admitted {id : RuleId}
    (admitted :
      id ∈ (resolve base rules).standing ++ (resolve base rules).withdrawn) :
    id.index < rules.length := by
  have isAdmitted := (admissions_perm base rules).mem_iff.2 admitted
  obtain ⟨stage, _, candidate, member, rfl⟩ :=
    exists_member_of_mem_admissions isAdmitted
  obtain ⟨bound, _⟩ := List.getElem?_eq_some_iff.1
    (State.getElem?_of_mem_members stage member)
  exact bound

theorem rounds_resolve_le :
    (resolve base rules).rounds ≤
      (resolve base rules).standing.length +
        (resolve base rules).withdrawn.length + 1 := by
  rw [← length_admissions]
  exact State.length_rounds_le base (State.start rules)

theorem rounds_resolve_eq_one_iff :
    (resolve base rules).rounds = 1 ↔
      (resolve base rules).standing = [] ∧
        (resolve base rules).withdrawn = [] := by
  have noneAdmitted_iff :
      (Run.ofRules base rules).admissions = [] ↔
        (resolve base rules).standing = [] ∧
          (resolve base rules).withdrawn = [] := by
    rw [← List.length_eq_zero_iff, length_admissions, Nat.add_eq_zero_iff,
      List.length_eq_zero_iff, List.length_eq_zero_iff]
  rw [← noneAdmitted_iff]
  exact State.length_rounds_eq_one_iff base (State.start rules)

theorem closure_resolve_of_standing_eq_nil
    (noneStands : (resolve base rules).standing = []) :
    (resolve base rules).closure = base := by
  apply Facts.ext_of_holds
  intro verb concept
  rw [holds_closure_resolve_iff, noneStands]
  simp

end Report

/-! ## Main result -/

/-- The loops halt, and their turns are bounded by the number of rules.  Every
rule is admitted at most once; each round but the last admits a rule and each
pass withdraws one; and in a resolution of one round nothing happens. -/
theorem resolve_terminates (base : Facts) (rules : List Rule) :
    (Control.step base)^[(Run.ofRules base rules).turns]
        (.round (.start rules)) = .halted (Run.ofRules base rules).last ∧
      (Run.ofRules base rules).turns ≤ 3 * rules.length + 2 ∧
      (Run.ofRules base rules).admissions.Nodup ∧
      ((resolve base rules).standing ++ (resolve base rules).withdrawn).Nodup ∧
      (∀ id ∈ (resolve base rules).standing ++ (resolve base rules).withdrawn,
        id.index < rules.length) ∧
      (resolve base rules).rounds ≤
        (resolve base rules).standing.length +
          (resolve base rules).withdrawn.length + 1 ∧
      (resolve base rules).rounds ≤ rules.length + 1 ∧
      (Run.ofRules base rules).passes.flatten = (resolve base rules).withdrawn ∧
      (∀ pass ∈ (Run.ofRules base rules).passes, pass ≠ []) ∧
      (Run.ofRules base rules).passes.length ≤
        (resolve base rules).withdrawn.length ∧
      ((resolve base rules).rounds = 1 ↔
        (resolve base rules).standing = [] ∧
          (resolve base rules).withdrawn = []) ∧
      ((resolve base rules).rounds = 1 →
        (resolve base rules).closure = base) := by
  have admitted := length_admitted_le base rules
  have rounds := rounds_resolve_le base rules
  have passes := length_passes_le base rules
  have noneAdmitted := rounds_resolve_eq_one_iff base rules
  refine ⟨Control.iterate_step_saturate base (State.start rules), ?_, ?_,
    admitted_resolve_nodup base rules,
    fun id isAdmitted => index_lt_of_admitted base rules isAdmitted,
    rounds, by omega, (withdrawn_resolve_eq_flatten base rules).symm,
    fun pass isPass => State.ne_nil_of_mem_passes_saturate base _ isPass,
    passes, noneAdmitted, ?_⟩
  · have counted :
        (Run.ofRules base rules).turns =
          2 * (resolve base rules).rounds +
            (Run.ofRules base rules).passes.length :=
      rfl
    omega
  · exact (admissions_perm base rules).nodup_iff.2
      (admitted_resolve_nodup base rules)
  · intro oneRound
    exact closure_resolve_of_standing_eq_nil base rules
      (noneAdmitted.1 oneRound).1

/-- The rules that defeat themselves take three rounds and two passes; where no
rule is triggered, there is one round. -/
theorem resolve_terminates_selfDefeat :
    (Run.ofRules ∅ selfDefeat).turns = 8 ∧
      (Control.step ∅)^[8] (.round (.start selfDefeat)) =
        .halted (Run.ofRules ∅ selfDefeat).last ∧
      ⟨1⟩ ∈ (resolve ∅ selfDefeat).standing ++
        (resolve ∅ selfDefeat).withdrawn ∧
      1 < selfDefeat.length ∧
      [⟨1⟩] ∈ (Run.ofRules ∅ selfDefeat).passes ∧
      ([⟨1⟩] : List RuleId) ≠ [] ∧
      (resolve ∅ quarrel).rounds = 1 ∧
      (resolve ∅ quarrel).closure = ∅ := by
  have counted : (Run.ofRules ∅ selfDefeat).turns = 8 := by
    decide +kernel
  have admitted :
      ⟨1⟩ ∈ (resolve ∅ selfDefeat).standing ++
        (resolve ∅ selfDefeat).withdrawn := by
    decide +kernel
  have isPass : [⟨1⟩] ∈ (Run.ofRules ∅ selfDefeat).passes := by
    decide +kernel
  have oneRound : (resolve ∅ quarrel).rounds = 1 := by
    decide +kernel
  obtain ⟨halts, _, _, _, listed, _, _, _, withdraws, _⟩ :=
    resolve_terminates ∅ selfDefeat
  obtain ⟨_, _, _, _, _, _, _, _, _, _, _, unchanged⟩ :=
    resolve_terminates ∅ quarrel
  rw [counted] at halts
  exact ⟨counted, halts, admitted, listed ⟨1⟩ admitted, isPass,
    withdraws [⟨1⟩] isPass, oneRound, unchanged oneRound⟩

end ConceptRules
