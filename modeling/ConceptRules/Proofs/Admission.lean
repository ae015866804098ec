import ConceptRules.Proofs.Rest

/-!
# The order of admission

A run records for each round which rules it admits.  Taken together these are
the rules that stand in the end and the rules that were withdrawn, each of them
once (`admissions_perm`): a rule leaves the pending ones when it is admitted,
and never comes back to them.
-/

namespace ConceptRules

/-- The rules that a run admits, round by round. -/
def Run.admissions (run : Run) : List RuleId :=
  run.rounds.flatMap Round.admitted

namespace State

/-- The rules that stand or have stood. -/
def admitted (state : State) : List (RuleId × Rule) :=
  (state.standing ++ state.withdrawn).map Candidate.entry

theorem roster_eq_append (state : State) :
    state.roster = state.pending.map Candidate.entry ++ state.admitted := by
  rw [roster, admitted, List.append_assoc, List.map_append]

theorem admitted_promote_perm (state : State) (facts : Facts) :
    (state.promote facts).admitted.Perm
      (state.admitted ++ (state.admissible facts).map Candidate.entry) := by
  rw [admitted, admitted, promote, ← List.map_append]
  apply List.Perm.map
  rw [List.append_assoc, List.append_assoc]
  exact List.perm_append_comm.append_left state.standing

theorem admitted_withdraw_perm (state : State) (facts : Facts) :
    (state.withdraw facts).admitted.Perm state.admitted := by
  have rearranged := roster_withdraw_perm state facts
  rw [roster_eq_append, roster_eq_append] at rearranged
  exact (List.perm_append_left_iff _).1 rearranged

theorem admitted_settle_perm (base : Facts) (state : State) :
    (state.settle base).state.admitted.Perm state.admitted := by
  fun_induction settle base state with
  | case1 => exact List.Perm.refl _
  | case2 state facts someStale rest inductionHypothesis =>
      exact inductionHypothesis.trans (admitted_withdraw_perm state facts)

theorem admitted_afterRound_perm (base : Facts) (state : State) :
    (state.afterRound base).admitted.Perm
      (state.admitted ++
        (state.admissible (state.closure base)).map Candidate.entry) :=
  (admitted_settle_perm base _).trans (admitted_promote_perm state _)

theorem admittedIds_afterRound_perm (base : Facts) (state : State) :
    ((state.afterRound base).admitted.map Prod.fst).Perm
      (state.admitted.map Prod.fst ++
        (state.admissible (state.closure base)).map Candidate.id) := by
  have rearranged := (admitted_afterRound_perm base state).map Prod.fst
  rw [List.map_append, List.map_map] at rearranged
  exact rearranged

theorem admissions_saturate_of_admissible_eq_nil
    {base : Facts} {state : State}
    (noneAdmissible : state.admissible (state.closure base) = []) :
    (state.saturate base).admissions = [] := by
  rw [saturate, dif_pos noneAdmissible, Run.admissions, List.flatMap_cons,
    noneAdmissible]
  rfl

theorem admissions_saturate_of_admissible_ne_nil
    {base : Facts} {state : State}
    (someAdmissible : state.admissible (state.closure base) ≠ []) :
    (state.saturate base).admissions =
      (state.admissible (state.closure base)).map Candidate.id ++
        ((state.afterRound base).saturate base).admissions := by
  rw [saturate, dif_neg someAdmissible, Run.admissions, List.flatMap_cons]
  rfl

theorem admittedIds_rest_perm (base : Facts) (state : State) :
    ((state.rest base).admitted.map Prod.fst).Perm
      (state.admitted.map Prod.fst ++ (state.saturate base).admissions) := by
  fun_induction rest base state with
  | case1 state noneAdmissible =>
      rw [admissions_saturate_of_admissible_eq_nil noneAdmissible,
        List.append_nil]
  | case2 state someAdmissible inductionHypothesis =>
      rw [admissions_saturate_of_admissible_ne_nil someAdmissible,
        ← List.append_assoc]
      exact inductionHypothesis.trans
        ((admittedIds_afterRound_perm base state).append_right _)

/-- Settling keeps the order of the rules that go on standing. -/
theorem standing_settle_sublist (base : Facts) (state : State) :
    (state.settle base).state.standing.Sublist state.standing := by
  fun_induction settle base state with
  | case1 => exact List.Sublist.refl _
  | case2 state facts someStale rest inductionHypothesis =>
      exact inductionHypothesis.trans List.filter_sublist

theorem standing_afterRound_sublist (base : Facts) (state : State) :
    (state.afterRound base).standing.Sublist
      (state.standing ++ state.admissible (state.closure base)) :=
  standing_settle_sublist base _

theorem standingIds_rest_sublist (base : Facts) (state : State) :
    ((state.rest base).standing.map Candidate.id).Sublist
      (state.standing.map Candidate.id ++
        (state.saturate base).admissions) := by
  fun_induction rest base state with
  | case1 state noneAdmissible => exact List.sublist_append_left _ _
  | case2 state someAdmissible inductionHypothesis =>
      have afterRound :=
        (standing_afterRound_sublist base state).map Candidate.id
      rw [List.map_append] at afterRound
      rw [admissions_saturate_of_admissible_ne_nil someAdmissible,
        ← List.append_assoc]
      exact inductionHypothesis.trans
        (afterRound.append (List.Sublist.refl _))

end State

/-- The standing rules are reported in the order of their admission. -/
theorem standing_resolve_sublist (base : Facts) (rules : List Rule) :
    (resolve base rules).standing.Sublist
      (Run.ofRules base rules).admissions := by
  rw [standing_resolve]
  exact State.standingIds_rest_sublist base (State.start rules)

theorem admissions_perm (base : Facts) (rules : List Rule) :
    (Run.ofRules base rules).admissions.Perm
      ((resolve base rules).standing ++ (resolve base rules).withdrawn) := by
  have rearranged := State.admittedIds_rest_perm base (State.start rules)
  have noneAtFirst : (State.start rules).admitted = [] := rfl
  rw [noneAtFirst, List.map_nil, List.nil_append, State.admitted,
    List.map_map, List.map_append] at rearranged
  rw [standing_resolve, withdrawn_resolve]
  exact rearranged.symm

theorem mem_admissions_iff
    {base : Facts} {rules : List Rule} {id : RuleId} :
    id ∈ (Run.ofRules base rules).admissions ↔
      id ∈ (resolve base rules).standing ∨
        id ∈ (resolve base rules).withdrawn := by
  rw [(admissions_perm base rules).mem_iff, List.mem_append]

theorem exists_member_of_mem_admissions
    {base : Facts} {rules : List Rule} {id : RuleId}
    (isAdmitted : id ∈ (Run.ofRules base rules).admissions) :
    ∃ stage, stage ≠ .pending ∧
      ∃ candidate ∈ (State.atRest base rules).members stage,
        candidate.id = id := by
  rcases mem_admissions_iff.1 isAdmitted with stands | isWithdrawn
  · exact ⟨.standing, Stage.noConfusion,
      (mem_standing_resolve_iff base rules).1 stands⟩
  · exact ⟨.withdrawn, Stage.noConfusion,
      (mem_withdrawn_resolve_iff base rules).1 isWithdrawn⟩

/-- A rule that fits the base is admitted in the first round. -/
theorem mem_admissions_of_fits_base
    {base : Facts} {rules : List Rule} {id : RuleId} {rule : Rule}
    (listed : rules[id.index]? = some rule)
    (fits : rule.appraise base = .fits) :
    id ∈ (Run.ofRules base rules).admissions := by
  have pends : { id, rule } ∈ (State.start rules).members .pending :=
    State.mem_members_start.2 ⟨rfl, rfl, listed⟩
  have isAdmissible :
      { id, rule } ∈
        (State.start rules).admissible ((State.start rules).closure base) :=
    State.mem_admissible_iff.2 ⟨pends, fits⟩
  rw [Run.ofRules, State.admissions_saturate_of_admissible_ne_nil
    (List.ne_nil_of_mem isAdmissible)]
  exact List.mem_append_left _ (List.mem_map_of_mem isAdmissible)

end ConceptRules
