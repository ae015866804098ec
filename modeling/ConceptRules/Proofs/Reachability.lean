import Mathlib.Logic.Basic
import Mathlib.Logic.Relation
import ConceptRules.Resolution.Basic

/-!
# Where a resolution gets to

A resolution makes two kinds of moves, and both read the rules against the
closure as it stands.  What both moves keep is kept by every resolution
(`State.Reaches`), so an invariant needs a lemma for each move and no induction
over the loops.  The first such invariant is that no rule is lost on the way:
the roster of a state is that of the rule list, rearranged.
-/

namespace ConceptRules

/-- How far a rule has got in a resolution. -/
inductive Stage where
  | pending
  | standing
  | withdrawn
  deriving DecidableEq

/-- What never changes about a candidate. -/
def Candidate.entry (candidate : Candidate) : RuleId × Rule :=
  (candidate.id, candidate.rule)

@[simp]
theorem Candidate.entry_review (facts : Facts) (candidate : Candidate) :
    (candidate.review facts).entry = candidate.entry := by
  rw [entry, id_review, rule_review, entry]

/-- The gap on record for a rule after a review. -/
def Rule.noted (rule : Rule) (facts : Facts) (gap : Option Gap) : Option Gap :=
  match rule.appraise facts with
  | .unmet current => some current
  | _ => gap

theorem Candidate.gap_review (facts : Facts) (candidate : Candidate) :
    (candidate.review facts).gap =
      candidate.rule.noted facts candidate.gap := by
  rw [review, Rule.noted]
  cases candidate.rule.appraise facts with
  | unmet gap => rfl
  | barred clash => rfl
  | fits => rfl

theorem Candidate.fits_iff {candidate : Candidate} {facts : Facts} :
    candidate.Fits facts ↔
      candidate.rule.trigger.Holds facts.is ∧
        facts.Compatible candidate.rule.consequence :=
  Rule.appraise_eq_fits_iff

namespace State

variable {base : Facts} {state target : State}

theorem holds_closure_iff {verb : Verb} {concept : ConceptId} :
    (state.closure base).Holds verb concept ↔
      base.Holds verb concept ∨
        ∃ candidate ∈ state.standing,
          candidate.rule.consequence.Holds verb concept := by
  rw [closure, Facts.holds_mergeAll]
  simp only [List.mem_map, exists_exists_and_eq_and]

/-! ## What a move does -/

theorem mem_admissible_iff {facts : Facts} {candidate : Candidate} :
    candidate ∈ state.admissible facts ↔
      candidate ∈ state.pending ∧ candidate.Fits facts := by
  simp only [admissible, List.mem_filter, decide_eq_true_eq]

theorem admissible_eq_nil_iff {facts : Facts} :
    state.admissible facts = [] ↔
      ∀ candidate ∈ state.pending, ¬candidate.Fits facts := by
  rw [admissible, List.filter_eq_nil_iff]
  simp only [decide_eq_true_eq]

theorem stale_eq_nil_iff {facts : Facts} :
    state.stale facts = [] ↔
      ∀ candidate ∈ state.standing, candidate.Fits facts := by
  rw [stale, List.filter_eq_nil_iff]
  simp only [decide_eq_true_eq, Decidable.not_not]

theorem mem_pending_promote_iff {facts : Facts} {candidate : Candidate} :
    candidate ∈ (state.promote facts).pending ↔
      ∃ earlier ∈ state.pending,
        ¬earlier.Fits facts ∧ earlier.review facts = candidate := by
  simp only [promote, List.mem_map, List.mem_filter, decide_eq_true_eq,
    and_assoc]

theorem mem_standing_promote_iff {facts : Facts} {candidate : Candidate} :
    candidate ∈ (state.promote facts).standing ↔
      candidate ∈ state.standing ∨
        candidate ∈ state.pending ∧ candidate.Fits facts := by
  simp only [promote, admissible, List.mem_append, List.mem_filter,
    decide_eq_true_eq]

theorem mem_standing_withdraw_iff {facts : Facts} {candidate : Candidate} :
    candidate ∈ (state.withdraw facts).standing ↔
      candidate ∈ state.standing ∧ candidate.Fits facts := by
  simp only [withdraw, List.mem_filter, decide_eq_true_eq]

theorem mem_withdrawn_withdraw_iff {facts : Facts} {candidate : Candidate} :
    candidate ∈ (state.withdraw facts).withdrawn ↔
      candidate ∈ state.withdrawn ∨
        ∃ earlier ∈ state.standing,
          ¬earlier.Fits facts ∧ earlier.review facts = candidate := by
  simp only [withdraw, stale, List.mem_append, List.mem_map, List.mem_filter,
    decide_eq_true_eq, and_assoc]

/-! ## Moves -/

/-- A move of a resolution. -/
inductive Move (base : Facts) (state : State) : State → Prop
  | promote : Move base state (state.promote (state.closure base))
  | withdraw : Move base state (state.withdraw (state.closure base))

/-- Any number of moves. -/
def Reaches (base : Facts) : State → State → Prop :=
  Relation.ReflTransGen (Move base)

theorem reaches_settle (base : Facts) (state : State) :
    Reaches base state (state.settle base).state := by
  fun_induction settle base state with
  | case1 => exact Relation.ReflTransGen.refl
  | case2 state facts someStale rest inductionHypothesis =>
      exact Relation.ReflTransGen.head Move.withdraw inductionHypothesis

theorem Move.withdrawn_subset
    (move : Move base state target) :
    state.withdrawn ⊆ target.withdrawn := by
  cases move with
  | promote => exact List.Subset.refl _
  | withdraw => exact List.subset_append_left _ _

theorem Reaches.withdrawn_subset
    (reached : Reaches base state target) :
    state.withdrawn ⊆ target.withdrawn := by
  induction reached with
  | refl => exact List.Subset.refl _
  | tail earlier move inductionHypothesis =>
      exact List.Subset.trans inductionHypothesis move.withdrawn_subset

/-- The state after a round. -/
def afterRound (base : Facts) (state : State) : State :=
  ((state.promote (state.closure base)).settle base).state

theorem reaches_afterRound (base : Facts) (state : State) :
    Reaches base state (state.afterRound base) :=
  Relation.ReflTransGen.head Move.promote (reaches_settle base _)

/-! ## The roster -/

/-- The candidates that have got to a stage. -/
def members (state : State) : Stage → List Candidate
  | .pending => state.pending
  | .standing => state.standing
  | .withdrawn => state.withdrawn

/-- Every rule of the state, whatever its stage. -/
def roster (state : State) : List (RuleId × Rule) :=
  (state.pending ++ state.standing ++ state.withdrawn).map Candidate.entry

theorem mem_roster_iff {id : RuleId} {rule : Rule} :
    (id, rule) ∈ state.roster ↔
      ∃ stage, ∃ candidate ∈ state.members stage,
        candidate.id = id ∧ candidate.rule = rule := by
  simp only [roster, List.mem_map, List.mem_append, Candidate.entry,
    Prod.mk.injEq]
  constructor
  · intro enrolled
    obtain ⟨candidate, place, sameId, sameRule⟩ := enrolled
    rcases place with (pends | stands) | isWithdrawn
    · exact ⟨.pending, candidate, pends, sameId, sameRule⟩
    · exact ⟨.standing, candidate, stands, sameId, sameRule⟩
    · exact ⟨.withdrawn, candidate, isWithdrawn, sameId, sameRule⟩
  · intro enrolled
    obtain ⟨stage, candidate, member, sameId, sameRule⟩ := enrolled
    refine ⟨candidate, ?_, sameId, sameRule⟩
    cases stage with
    | pending => exact Or.inl (Or.inl member)
    | standing => exact Or.inl (Or.inr member)
    | withdrawn => exact Or.inr member

private theorem map_entry_review (facts : Facts) (candidates : List Candidate) :
    (candidates.map (Candidate.review facts)).map Candidate.entry =
      candidates.map Candidate.entry := by
  rw [List.map_map]
  apply List.map_congr_left
  intro candidate _
  exact Candidate.entry_review facts candidate

/-- How often an entry occurs does not change when the candidates are split in
two. -/
private theorem count_entry_split
    (kept : Candidate → Bool) (candidates : List Candidate)
    (tested : RuleId × Rule) :
    ((candidates.filter kept).map Candidate.entry).count tested +
        ((candidates.filter fun candidate => !kept candidate).map
          Candidate.entry).count tested =
      (candidates.map Candidate.entry).count tested := by
  have split := (List.filter_append_perm kept candidates).map Candidate.entry
  have sameCount := split.count_eq tested
  rw [List.map_append, List.count_append] at sameCount
  exact sameCount

theorem roster_promote_perm (state : State) (facts : Facts) :
    (state.promote facts).roster.Perm state.roster := by
  rw [List.perm_iff_count]
  intro tested
  have split := count_entry_split (fun candidate => candidate.Fits facts)
    state.pending tested
  simp only [roster, promote, admissible, List.map_append, map_entry_review,
    List.count_append, decide_not] at split ⊢
  omega

theorem roster_withdraw_perm (state : State) (facts : Facts) :
    (state.withdraw facts).roster.Perm state.roster := by
  rw [List.perm_iff_count]
  intro tested
  have split := count_entry_split (fun candidate => candidate.Fits facts)
    state.standing tested
  simp only [roster, withdraw, stale, List.map_append, map_entry_review,
    List.count_append, decide_not] at split ⊢
  omega

theorem Move.roster_perm (move : Move base state target) :
    target.roster.Perm state.roster := by
  cases move with
  | promote => exact roster_promote_perm state _
  | withdraw => exact roster_withdraw_perm state _

/-- No rule is lost, and none is repeated. -/
theorem Reaches.roster_perm (reached : Reaches base state target) :
    target.roster.Perm state.roster := by
  induction reached with
  | refl => exact List.Perm.refl _
  | tail earlier move inductionHypothesis =>
      exact move.roster_perm.trans inductionHypothesis

theorem mem_members_start
    {rules : List Rule} {stage : Stage} {candidate : Candidate} :
    candidate ∈ (start rules).members stage ↔
      stage = .pending ∧ candidate.gap = none ∧
        rules[candidate.id.index]? = some candidate.rule := by
  cases stage with
  | standing => simp [start, members]
  | withdrawn => simp [start, members]
  | pending =>
      rw [List.getElem?_eq_some_iff]
      simp only [start, members, List.mem_mapIdx, true_and]
      constructor
      · intro listed
        obtain ⟨index, bound, rfl⟩ := listed
        exact ⟨rfl, bound, rfl⟩
      · intro listed
        obtain ⟨id, rule, gap⟩ := candidate
        obtain ⟨rfl, bound, sameRule⟩ := listed
        exact ⟨id.index, bound, by rw [sameRule]⟩

theorem mem_roster_start {rules : List Rule} {id : RuleId} {rule : Rule} :
    (id, rule) ∈ (start rules).roster ↔ rules[id.index]? = some rule := by
  simp only [mem_roster_iff, mem_members_start]
  constructor
  · intro enrolled
    obtain ⟨_, candidate, ⟨_, _, listed⟩, rfl, rfl⟩ := enrolled
    exact listed
  · intro listed
    exact ⟨.pending, { id, rule }, ⟨rfl, rfl, listed⟩, rfl, rfl⟩

section Listed

variable {rules : List Rule} {candidate : Candidate}

theorem Reaches.mem_roster_iff
    (reached : Reaches base (start rules) state) {id : RuleId} {rule : Rule} :
    (id, rule) ∈ state.roster ↔ rules[id.index]? = some rule := by
  rw [← mem_roster_start]
  exact reached.roster_perm.mem_iff

theorem Reaches.getElem?_of_mem
    (reached : Reaches base (start rules) state) (stage : Stage)
    (member : candidate ∈ state.members stage) :
    rules[candidate.id.index]? = some candidate.rule := by
  have enrolled : (candidate.id, candidate.rule) ∈ state.roster :=
    State.mem_roster_iff.2 ⟨stage, candidate, member, rfl, rfl⟩
  exact reached.mem_roster_iff.1 enrolled

theorem Reaches.rule_mem
    (reached : Reaches base (start rules) state) (stage : Stage)
    (member : candidate ∈ state.members stage) :
    candidate.rule ∈ rules :=
  List.mem_of_getElem? (reached.getElem?_of_mem stage member)

end Listed

end State

end ConceptRules
