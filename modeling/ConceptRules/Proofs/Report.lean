import ConceptRules.Proofs.Accounting

/-!
# Reading a report

Rules are told apart by their places in the list, and each of them has got to
one stage when a resolution comes to rest.  Which report mentions a rule depends
on that stage and on how the rule appraises the closure: the lemmas of the last
section say so without going back to the run.

The pending rules keep the order of the list, as a move only drops some of
them.  So the barred rules are reported in list order, and the gaps, which are
sorted, as well: no rule occurs twice in either report.
-/

namespace ConceptRules

namespace State

variable {base : Facts} {state target : State} {rules : List Rule}

/-! ## Pending rules -/

/-- The pending rules are in list order. -/
def InListOrder (state : State) : Prop :=
  state.pending.Pairwise fun left right => left.id.index < right.id.index

theorem inListOrder_start (rules : List Rule) :
    (start rules).InListOrder := by
  rw [InListOrder, List.pairwise_iff_getElem]
  intro earlier later earlierBound laterBound precedes
  simp only [start, List.getElem_mapIdx]
  exact precedes

theorem InListOrder.move
    (ordered : state.InListOrder) (move : Move base state target) :
    target.InListOrder := by
  cases move with
  | promote =>
      rw [InListOrder, promote, List.pairwise_map]
      simp only [Candidate.id_review]
      exact ordered.filter _
  | withdraw => exact ordered

theorem Reaches.inListOrder
    (reached : Reaches base (start rules) state) : state.InListOrder := by
  induction reached with
  | refl => exact inListOrder_start rules
  | tail earlier move inductionHypothesis =>
      exact inductionHypothesis.move move

theorem InListOrder.barred_ascending
    (ordered : state.InListOrder) (facts : Facts) :
    (state.barred facts).Pairwise
      fun left right => left.1.index < right.1.index := by
  refine ordered.filterMap _ ?_
  intro left right precedes leftEntry leftBarred rightEntry rightBarred
  have sameLeft := (Candidate.clash?_eq_some_iff.1 leftBarred).1
  have sameRight := (Candidate.clash?_eq_some_iff.1 rightBarred).1
  rw [← sameLeft, ← sameRight]
  exact precedes

/-! ## All rules -/

theorem Reaches.indices_nodup
    (reached : Reaches base (start rules) state) :
    ((state.pending ++ state.standing ++ state.withdrawn).map
      fun candidate => candidate.id.index).Nodup := by
  have startNodup :
      ((start rules).roster.map fun entry => entry.1.index).Nodup := by
    rw [roster, List.map_map]
    simp only [start, List.append_nil]
    exact List.pairwise_map.2
      ((inListOrder_start rules).imp fun precedes => Nat.ne_of_lt precedes)
  have nodup :=
    (reached.roster_perm.map fun entry => entry.1.index).nodup_iff.2 startNodup
  rw [roster, List.map_map] at nodup
  exact nodup

/-- A rule has got to one stage only. -/
theorem Reaches.stage_unique
    (reached : Reaches base (start rules) state)
    (leftStage rightStage : Stage) {left right : Candidate}
    (leftMember : left ∈ state.members leftStage)
    (rightMember : right ∈ state.members rightStage)
    (sameId : left.id = right.id) : leftStage = rightStage := by
  obtain ⟨distinctEarlier, _, notWithdrawn⟩ :=
    List.pairwise_append.1 (List.pairwise_map.1 reached.indices_nodup)
  obtain ⟨_, _, notStanding⟩ := List.pairwise_append.1 distinctEarlier
  have sameIndex : left.id.index = right.id.index :=
    congrArg RuleId.index sameId
  cases leftStage with
  | pending =>
      cases rightStage with
      | pending => rfl
      | standing =>
          exact absurd sameIndex
            (notStanding left leftMember right rightMember)
      | withdrawn =>
          exact absurd sameIndex (notWithdrawn left
            (List.mem_append_left _ leftMember) right rightMember)
  | standing =>
      cases rightStage with
      | pending =>
          exact absurd sameIndex.symm
            (notStanding right rightMember left leftMember)
      | standing => rfl
      | withdrawn =>
          exact absurd sameIndex (notWithdrawn left
            (List.mem_append_right _ leftMember) right rightMember)
  | withdrawn =>
      cases rightStage with
      | pending =>
          exact absurd sameIndex.symm (notWithdrawn right
            (List.mem_append_left _ rightMember) left leftMember)
      | standing =>
          exact absurd sameIndex.symm (notWithdrawn right
            (List.mem_append_right _ rightMember) left leftMember)
      | withdrawn => rfl

/-- The gaps are reported in list order, one for a rule. -/
theorem Reaches.unmet_ascending
    (reached : Reaches base (start rules) state) :
    state.unmet.Pairwise fun left right => left.1.index < right.1.index := by
  have distinct :
      ((state.pending ++ state.withdrawn).map
        fun candidate => candidate.id.index).Nodup := by
    refine List.Nodup.sublist (List.Sublist.map _ ?_) reached.indices_nodup
    exact (List.sublist_append_left _ _).append (List.Sublist.refl _)
  -- Sorted by places that do not repeat, so strictly.
  refine (sortOn_strictlyAscending distinct).filterMap _ ?_
  intro left right precedes leftEntry leftNoted rightEntry rightNoted
  obtain ⟨_, _, rfl⟩ := Option.map_eq_some_iff.1 leftNoted
  obtain ⟨_, _, rfl⟩ := Option.map_eq_some_iff.1 rightNoted
  exact precedes

end State

/-! ## What is reported -/

section Report

variable (base : Facts) (rules : List Rule)

/-- The rules that stand and those that were withdrawn are different rules, and
none is reported twice. -/
theorem indices_resolve_nodup :
    (((resolve base rules).standing ++ (resolve base rules).withdrawn).map
      RuleId.index).Nodup := by
  have nodup := (State.reaches_atRest base rules).indices_nodup
  rw [List.append_assoc, List.map_append] at nodup
  rw [standing_resolve, withdrawn_resolve, ← List.map_append, List.map_map]
  exact (List.nodup_append.1 nodup).2.1

theorem barred_resolve_ascending :
    (resolve base rules).barred.Pairwise
      fun left right => left.1.index < right.1.index := by
  rw [barred_resolve]
  exact (State.reaches_atRest base rules).inListOrder.barred_ascending _

theorem unmet_resolve_ascending :
    (resolve base rules).unmet.Pairwise
      fun left right => left.1.index < right.1.index := by
  have reported :
      (resolve base rules).unmet = (Run.ofRules base rules).last.unmet :=
    rfl
  have reached :
      State.Reaches base (State.start rules)
        ((State.atRest base rules).promote
          ((State.atRest base rules).closure base)) :=
    (State.reaches_atRest base rules).tail State.Move.promote
  rw [reported, last_ofRules]
  exact reached.unmet_ascending

end Report

section Rule

variable {base : Facts} {rules : List Rule} {id : RuleId} {rule : Rule}

/-- A rule that neither stands nor was withdrawn is pending at rest. -/
theorem exists_pending_of_not_admitted
    (listed : rules[id.index]? = some rule)
    (notStanding : id ∉ (resolve base rules).standing)
    (notWithdrawn : id ∉ (resolve base rules).withdrawn) :
    ∃ candidate ∈ (State.atRest base rules).pending,
      candidate.id = id ∧ candidate.rule = rule := by
  have enrolled : (id, rule) ∈ (State.atRest base rules).roster :=
    State.mem_roster_atRest.2 listed
  obtain ⟨stage, candidate, member, rfl, rfl⟩ :=
    State.mem_roster_iff.1 enrolled
  cases stage with
  | pending => exact ⟨candidate, member, rfl, rfl⟩
  | standing =>
      exact absurd ((mem_standing_resolve_iff _ _).2 ⟨candidate, member, rfl⟩)
        notStanding
  | withdrawn =>
      exact absurd ((mem_withdrawn_resolve_iff _ _).2 ⟨candidate, member, rfl⟩)
        notWithdrawn

theorem not_mem_standing_of_mem_members
    (stage : Stage) (notStanding : stage ≠ .standing) {candidate : Candidate}
    (member : candidate ∈ (State.atRest base rules).members stage) :
    candidate.id ∉ (resolve base rules).standing := by
  intro idStands
  obtain ⟨other, stands, sameId⟩ := (mem_standing_resolve_iff _ _).1 idStands
  exact notStanding ((State.reaches_atRest base rules).stage_unique
    stage .standing member stands sameId.symm)

theorem not_mem_withdrawn_of_mem_members
    (stage : Stage) (notWithdrawn : stage ≠ .withdrawn) {candidate : Candidate}
    (member : candidate ∈ (State.atRest base rules).members stage) :
    candidate.id ∉ (resolve base rules).withdrawn := by
  intro isWithdrawn
  obtain ⟨other, otherWithdrawn, sameId⟩ :=
    (mem_withdrawn_resolve_iff _ _).1 isWithdrawn
  exact notWithdrawn ((State.reaches_atRest base rules).stage_unique
    stage .withdrawn member otherWithdrawn sameId.symm)

/-- The standing rules are those that fit the closure, but for the withdrawn
ones. -/
theorem mem_standing_iff :
    id ∈ (resolve base rules).standing ↔
      id ∉ (resolve base rules).withdrawn ∧
        ∃ rule ∈ rules[id.index]?,
          rule.appraise (resolve base rules).closure = .fits := by
  rw [closure_resolve]
  constructor
  · intro idStands
    rw [mem_standing_resolve_iff] at idStands
    obtain ⟨candidate, stands, rfl⟩ := idStands
    refine ⟨?_, candidate.rule, ?_, ?_⟩
    · exact not_mem_withdrawn_of_mem_members .standing (by decide) stands
    · exact State.getElem?_of_mem_members .standing stands
    · exact State.settled_atRest base rules candidate stands
  · rintro ⟨notWithdrawn, rule, listed, fits⟩
    by_cases stands : id ∈ (resolve base rules).standing
    · exact stands
    · obtain ⟨candidate, pends, rfl, rfl⟩ :=
        exists_pending_of_not_admitted listed stands notWithdrawn
      have noneFits :=
        State.admissible_eq_nil_iff.1 (State.admissible_atRest base rules)
      exact absurd fits (noneFits candidate pends)

/-- The barred rules are those that the closure triggers and contradicts, but
for the withdrawn ones. -/
theorem mem_barred_iff {clash : Clash} :
    (id, clash) ∈ (resolve base rules).barred ↔
      id ∉ (resolve base rules).withdrawn ∧
        ∃ rule ∈ rules[id.index]?,
          rule.appraise (resolve base rules).closure = .barred clash := by
  rw [barred_resolve, State.mem_barred_iff, closure_resolve]
  constructor
  · rintro ⟨candidate, pends, rfl, appraised⟩
    refine ⟨?_, candidate.rule, ?_, appraised⟩
    · exact not_mem_withdrawn_of_mem_members .pending (by decide) pends
    · exact State.getElem?_of_mem_members .pending pends
  · rintro ⟨notWithdrawn, rule, listed, appraised⟩
    have notStanding : id ∉ (resolve base rules).standing := by
      intro idStands
      rw [mem_standing_resolve_iff] at idStands
      obtain ⟨candidate, stands, rfl⟩ := idStands
      have fits := State.settled_atRest base rules candidate stands
      rw [Candidate.Fits,
        State.rule_eq_of_mem_members .standing stands listed] at fits
      rw [fits] at appraised
      cases appraised
    obtain ⟨candidate, pends, rfl, rfl⟩ :=
      exists_pending_of_not_admitted listed notStanding notWithdrawn
    exact ⟨candidate, pends, rfl, appraised⟩

end Rule

end ConceptRules
