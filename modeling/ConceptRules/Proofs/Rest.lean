import ConceptRules.Proofs.Reachability

/-!
# The end of a resolution

The rounds come to rest in a state where nothing is admissible any more
(`State.rest`).  The last round does no more than review the rules that are
pending there, so whatever a resolution reports can be read off that state.  And
as a round ends only when every standing rule fits, the state is settled.
-/

namespace ConceptRules

namespace State

variable {base : Facts} {state : State}

/-! ## Settled states -/

/-- Every standing rule fits the closure. -/
def Settled (base : Facts) (state : State) : Prop :=
  ∀ candidate ∈ state.standing, candidate.Fits (state.closure base)

theorem settled_start (base : Facts) (rules : List Rule) :
    (start rules).Settled base := by
  intro candidate stands
  simp [start] at stands

theorem settled_afterRound (base : Facts) (state : State) :
    (state.afterRound base).Settled base := by
  intro candidate stands
  exact fits_closure_settle base _ candidate stands

/-- There is nothing to withdraw from a settled state. -/
theorem Settled.settle_eq (settled : state.Settled base) :
    state.settle base = { passes := [], state } := by
  have noneStale : state.stale (state.closure base) = [] :=
    stale_eq_nil_iff.2 settled
  rw [settle, dif_pos noneStale]

/-! ## The state at rest -/

/-- The state in which nothing is admissible any more. -/
def rest (base : Facts) (state : State) : State :=
  if _ : state.admissible (state.closure base) = [] then
    state
  else
    (state.afterRound base).rest base
termination_by state.pending.length
decreasing_by
  rw [afterRound, pending_settle]
  exact length_pending_promote_lt ‹_›

theorem rest_of_admissible_eq_nil
    (noneAdmissible : state.admissible (state.closure base) = []) :
    state.rest base = state := by
  rw [rest, dif_pos noneAdmissible]

theorem rest_of_admissible_ne_nil
    (someAdmissible : state.admissible (state.closure base) ≠ []) :
    state.rest base = (state.afterRound base).rest base := by
  rw [rest, dif_neg someAdmissible]

theorem admissible_rest (base : Facts) (state : State) :
    (state.rest base).admissible ((state.rest base).closure base) = [] := by
  fun_induction rest base state with
  | case1 state noneAdmissible => exact noneAdmissible
  | case2 state someAdmissible inductionHypothesis =>
      exact inductionHypothesis

theorem reaches_rest (base : Facts) (state : State) :
    Reaches base state (state.rest base) := by
  fun_induction rest base state with
  | case1 => exact Relation.ReflTransGen.refl
  | case2 state someAdmissible inductionHypothesis =>
      exact (reaches_afterRound base state).trans inductionHypothesis

theorem Settled.rest (settled : state.Settled base) :
    (state.rest base).Settled base := by
  fun_induction State.rest base state with
  | case1 => exact settled
  | case2 state someAdmissible inductionHypothesis =>
      exact inductionHypothesis (settled_afterRound base state)

/-- If nothing is admissible, a round lets nothing stand. -/
theorem closure_promote_of_admissible_eq_nil
    {facts : Facts} (noneAdmissible : state.admissible facts = []) :
    (state.promote facts).closure base = state.closure base := by
  rw [closure, closure, promote, noneAdmissible, List.append_nil]

theorem pending_promote_of_admissible_eq_nil
    {facts : Facts} (noneAdmissible : state.admissible facts = []) :
    (state.promote facts).pending =
      state.pending.map (Candidate.review facts) := by
  have allKept :
      state.pending.filter (fun candidate => ¬candidate.Fits facts) =
        state.pending := by
    rw [List.filter_eq_self]
    intro candidate pends
    exact decide_eq_true
      (admissible_eq_nil_iff.1 noneAdmissible candidate pends)
  rw [promote, allKept]

theorem Settled.promote
    (settled : state.Settled base) {facts : Facts}
    (noneAdmissible : state.admissible facts = []) :
    (state.promote facts).Settled base := by
  intro candidate stands
  rw [closure_promote_of_admissible_eq_nil noneAdmissible]
  rw [State.promote, noneAdmissible, List.append_nil] at stands
  exact settled candidate stands

/-- The record of the last round, which admits and withdraws nothing. -/
def closingRound (base : Facts) (state : State) : Round where
  barred := state.barred (state.closure base)
  admitted := []
  passes := []

/-- A run ends by reviewing the rules that are pending at rest. -/
theorem Settled.last_round (settled : state.Settled base) :
    (state.saturate base).last =
        (state.rest base).promote ((state.rest base).closure base) ∧
      ∃ earlier,
        (state.saturate base).rounds =
          earlier ++ [(state.rest base).closingRound base] := by
  fun_induction State.saturate base state with
  | case1 state facts settlement round noneAdmissible =>
      have nothingWithdrawn :
          settlement = { passes := [], state := state.promote facts } :=
        (settled.promote noneAdmissible).settle_eq
      rw [rest_of_admissible_eq_nil noneAdmissible]
      refine ⟨?_, [], ?_⟩
      · simp only [nothingWithdrawn, facts]
      · simp [round, closingRound, nothingWithdrawn, noneAdmissible, facts]
  | case2 state facts settlement round someAdmissible rest
      inductionHypothesis =>
      obtain ⟨sameLast, earlier, sameRounds⟩ :=
        inductionHypothesis (settled_afterRound base state)
      rw [rest_of_admissible_ne_nil someAdmissible]
      refine ⟨sameLast, round :: earlier, ?_⟩
      rw [List.cons_append]
      exact congrArg (round :: ·) sameRounds

theorem base_saturate (base : Facts) (state : State) :
    (state.saturate base).base = base := by
  fun_induction saturate base state with
  | case1 => rfl
  | case2 state facts settlement round someAdmissible rest
      inductionHypothesis =>
      exact inductionHypothesis

/-- The state in which the resolution of a rule list comes to rest. -/
def atRest (base : Facts) (rules : List Rule) : State :=
  (start rules).rest base

theorem admissible_atRest (base : Facts) (rules : List Rule) :
    (atRest base rules).admissible ((atRest base rules).closure base) = [] :=
  admissible_rest base (start rules)

theorem settled_atRest (base : Facts) (rules : List Rule) :
    (atRest base rules).Settled base :=
  (settled_start base rules).rest

theorem reaches_atRest (base : Facts) (rules : List Rule) :
    Reaches base (start rules) (atRest base rules) :=
  reaches_rest base (start rules)

theorem mem_roster_atRest
    {rules : List Rule} {id : RuleId} {rule : Rule} :
    (id, rule) ∈ (atRest base rules).roster ↔
      rules[id.index]? = some rule :=
  (reaches_atRest base rules).mem_roster_iff

theorem getElem?_of_mem_members
    {rules : List Rule} {candidate : Candidate} (stage : Stage)
    (member : candidate ∈ (atRest base rules).members stage) :
    rules[candidate.id.index]? = some candidate.rule :=
  (reaches_atRest base rules).getElem?_of_mem stage member

theorem rule_eq_of_mem_members
    {rules : List Rule} {candidate : Candidate} {rule : Rule} (stage : Stage)
    (member : candidate ∈ (atRest base rules).members stage)
    (listed : rules[candidate.id.index]? = some rule) :
    candidate.rule = rule := by
  have candidateListed := getElem?_of_mem_members stage member
  rw [listed] at candidateListed
  exact (Option.some.inj candidateListed).symm

theorem mem_unmet_iff {id : RuleId} {gap : Gap} :
    (id, gap) ∈ state.unmet ↔
      ∃ candidate ∈ state.pending ++ state.withdrawn,
        candidate.id = id ∧ candidate.gap = some gap := by
  simp only [unmet, List.mem_filterMap, mem_sortOn, Option.map_eq_some_iff,
    Prod.mk.injEq]
  constructor
  · rintro ⟨candidate, member, _, noted, sameId, rfl⟩
    exact ⟨candidate, member, sameId, noted⟩
  · rintro ⟨candidate, member, sameId, noted⟩
    exact ⟨candidate, member, gap, noted, sameId, rfl⟩

end State

/-! ## What a resolution reports -/

section Report

variable (base : Facts) (rules : List Rule)

theorem last_ofRules :
    (Run.ofRules base rules).last =
      (State.atRest base rules).promote
        ((State.atRest base rules).closure base) :=
  (State.settled_start base rules).last_round.1

theorem base_resolve : (resolve base rules).base = base :=
  State.base_saturate base (State.start rules)

theorem closure_resolve_eq_closure_last :
    (resolve base rules).closure =
      (Run.ofRules base rules).last.closure base := by
  have reported :
      (resolve base rules).closure =
        (Run.ofRules base rules).last.closure
          (Run.ofRules base rules).base :=
    rfl
  rw [reported, Run.ofRules, State.base_saturate]

theorem closure_resolve :
    (resolve base rules).closure =
      (State.atRest base rules).closure base := by
  rw [closure_resolve_eq_closure_last, last_ofRules]
  exact State.closure_promote_of_admissible_eq_nil
    (State.admissible_atRest base rules)

theorem standing_resolve :
    (resolve base rules).standing =
      (State.atRest base rules).standing.map Candidate.id := by
  have reported :
      (resolve base rules).standing =
        (Run.ofRules base rules).last.standing.map Candidate.id :=
    rfl
  rw [reported, last_ofRules, State.promote,
    State.admissible_atRest, List.append_nil]

theorem mem_standing_resolve_iff {id : RuleId} :
    id ∈ (resolve base rules).standing ↔
      ∃ candidate ∈ (State.atRest base rules).standing, candidate.id = id := by
  rw [standing_resolve, List.mem_map]

theorem withdrawn_resolve :
    (resolve base rules).withdrawn =
      (State.atRest base rules).withdrawn.map Candidate.id := by
  have reported :
      (resolve base rules).withdrawn =
        (Run.ofRules base rules).last.withdrawn.map Candidate.id :=
    rfl
  rw [reported, last_ofRules, State.promote]

theorem mem_withdrawn_resolve_iff {id : RuleId} :
    id ∈ (resolve base rules).withdrawn ↔
      ∃ candidate ∈ (State.atRest base rules).withdrawn, candidate.id = id := by
  rw [withdrawn_resolve, List.mem_map]

theorem barred_resolve :
    (resolve base rules).barred =
      (State.atRest base rules).barred
        ((State.atRest base rules).closure base) := by
  obtain ⟨_, earlier, sameRounds⟩ :=
    (State.settled_start base rules).last_round
  have reported :
      (resolve base rules).barred = (Run.ofRules base rules).barred :=
    rfl
  rw [reported, Run.barred, Run.ofRules, sameRounds,
    List.getLast?_concat]
  rfl

/-- A gap is reported as the last review left it. -/
theorem mem_unmet_resolve_iff {id : RuleId} {gap : Gap} :
    (id, gap) ∈ (resolve base rules).unmet ↔
      (∃ candidate ∈ (State.atRest base rules).pending,
          candidate.id = id ∧
            candidate.rule.noted ((State.atRest base rules).closure base)
              candidate.gap = some gap) ∨
        ∃ candidate ∈ (State.atRest base rules).withdrawn,
          candidate.id = id ∧ candidate.gap = some gap := by
  have reported :
      (resolve base rules).unmet = (Run.ofRules base rules).last.unmet :=
    rfl
  have noneAdmissible := State.admissible_atRest base rules
  rw [reported, last_ofRules, State.mem_unmet_iff,
    State.pending_promote_of_admissible_eq_nil noneAdmissible]
  simp only [State.promote, List.mem_append, or_and_right, exists_or,
    List.mem_map, exists_exists_and_eq_and, Candidate.id_review,
    Candidate.gap_review]

end Report

end ConceptRules
