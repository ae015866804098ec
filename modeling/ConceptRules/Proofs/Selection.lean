import Mathlib.Data.Nat.Count
import ConceptRules.Proofs.Growth
import ConceptRules.Proofs.Rearrangement
import ConceptRules.Proofs.Rounds

/-!
# Some of the rules

To choose places of a rule list is to choose rules, and they have places of
their own among themselves (`RuleId.among`).  A state of the whole list
restricts to a state of the chosen rules (`State.only`).  As long as the chosen
rules read the facts of both states alike, a move of the whole list is a move of
the chosen rules, and settling the one settles the other.
-/

namespace ConceptRules

variable {chosen : RuleId → Bool}

/-! ## Chosen places -/

/-- The rules at the chosen places, in list order. -/
def chosenRules (chosen : RuleId → Bool) (rules : List Rule) : List Rule :=
  (rules.zipIdx.filter fun entry => chosen ⟨entry.2⟩).map Prod.fst

/-- The place of a rule among the chosen ones. -/
def RuleId.among (chosen : RuleId → Bool) (id : RuleId) : RuleId where
  index := Nat.count (fun index => chosen ⟨index⟩ = true) id.index

theorem RuleId.eq_of_among_eq
    {left right : RuleId} (leftChosen : chosen left = true)
    (rightChosen : chosen right = true)
    (samePlace : left.among chosen = right.among chosen) : left = right := by
  have sameCount :
      Nat.count (fun index => chosen ⟨index⟩ = true) left.index =
        Nat.count (fun index => chosen ⟨index⟩ = true) right.index :=
    congrArg RuleId.index samePlace
  have sameIndex : left.index = right.index := by
    refine Nat.count_injective ?_ ?_ sameCount
    · exact leftChosen
    · exact rightChosen
  exact congrArg RuleId.mk sameIndex

theorem chosenRules_concat (rules : List Rule) (rule : Rule) :
    chosenRules chosen (rules ++ [rule]) =
      chosenRules chosen rules ++
        if chosen ⟨rules.length⟩ then [rule] else [] := by
  rw [chosenRules, List.zipIdx_append, List.filter_append, List.map_append]
  cases isChosen : chosen ⟨rules.length⟩ <;> simp [chosenRules, isChosen]

theorem length_chosenRules (chosen : RuleId → Bool) (rules : List Rule) :
    (chosenRules chosen rules).length =
      (RuleId.among chosen ⟨rules.length⟩).index := by
  induction rules using List.reverseRecOn with
  | nil => rfl
  | append_singleton rules rule inductionHypothesis =>
      rw [chosenRules_concat, List.length_append, inductionHypothesis,
        List.length_append, RuleId.among, RuleId.among, List.length_singleton,
        Nat.count_succ]
      cases chosen ⟨rules.length⟩ <;> rfl

/-! ## Chosen candidates -/

/-- The candidate at its place among the chosen ones. -/
def Candidate.among
    (chosen : RuleId → Bool) (candidate : Candidate) : Candidate :=
  { candidate with id := candidate.id.among chosen }

/-- The chosen candidates of a list, renumbered. -/
def onlyChosen
    (chosen : RuleId → Bool) (candidates : List Candidate) : List Candidate :=
  (candidates.filter fun candidate => chosen candidate.id).map
    (Candidate.among chosen)

theorem mem_onlyChosen_iff
    {candidates : List Candidate} {candidate : Candidate} :
    candidate ∈ onlyChosen chosen candidates ↔
      ∃ original ∈ candidates,
        chosen original.id = true ∧ original.among chosen = candidate := by
  simp only [onlyChosen, List.mem_map, List.mem_filter, and_assoc]

/-- What is said of a chosen candidate at its place in the list can be said of
it at its place among the chosen ones. -/
theorem exists_onlyChosen_iff
    {candidates : List Candidate} {id : RuleId} (isChosen : chosen id = true)
    (said saidAmong : Candidate → Prop)
    (agree : ∀ candidate ∈ candidates, chosen candidate.id = true →
      (said candidate ↔ saidAmong (candidate.among chosen))) :
    (∃ candidate ∈ candidates, candidate.id = id ∧ said candidate) ↔
      ∃ candidate ∈ onlyChosen chosen candidates,
        candidate.id = id.among chosen ∧ saidAmong candidate := by
  constructor
  · rintro ⟨candidate, member, rfl, isSaid⟩
    exact ⟨candidate.among chosen,
      mem_onlyChosen_iff.2 ⟨candidate, member, isChosen, rfl⟩, rfl,
      (agree candidate member isChosen).1 isSaid⟩
  · rintro ⟨candidate, member, sameId, isSaid⟩
    obtain ⟨original, originalMember, originalChosen, rfl⟩ :=
      mem_onlyChosen_iff.1 member
    exact ⟨original, originalMember,
      RuleId.eq_of_among_eq originalChosen isChosen sameId,
      (agree original originalMember originalChosen).2 isSaid⟩

theorem mem_map_id_onlyChosen_iff
    {candidates : List Candidate} {id : RuleId} (isChosen : chosen id = true) :
    id ∈ candidates.map Candidate.id ↔
      id.among chosen ∈ (onlyChosen chosen candidates).map Candidate.id := by
  have sameMembers :=
    exists_onlyChosen_iff isChosen (fun _ => True) (fun _ => True)
      fun candidate (_ : candidate ∈ candidates) _ => Iff.rfl
  simp only [and_true] at sameMembers
  rw [List.mem_map, List.mem_map]
  exact sameMembers

theorem map_id_onlyChosen
    {candidates : List Candidate}
    (allChosen : ∀ candidate ∈ candidates, chosen candidate.id = true) :
    (onlyChosen chosen candidates).map Candidate.id =
      (candidates.map Candidate.id).map (RuleId.among chosen) := by
  rw [onlyChosen, List.filter_eq_self.2 allChosen, List.map_map, List.map_map]
  rfl

/-- A candidate is chosen, or it is one of the others. -/
theorem eq_nil_iff_onlyChosen_eq_nil
    (chosen : RuleId → Bool) (candidates : List Candidate) :
    candidates = [] ↔
      onlyChosen chosen candidates = [] ∧
        onlyChosen (fun id => !chosen id) candidates = [] := by
  constructor
  · rintro rfl
    exact ⟨rfl, rfl⟩
  · rintro ⟨noneChosen, noOthers⟩
    rw [List.eq_nil_iff_forall_not_mem]
    intro candidate member
    cases isChosen : chosen candidate.id with
    | true =>
        have found : candidate.among chosen ∈ onlyChosen chosen candidates :=
          mem_onlyChosen_iff.2 ⟨candidate, member, isChosen, rfl⟩
        rw [noneChosen] at found
        exact List.not_mem_nil found
    | false =>
        have found :
            candidate.among (fun id => !chosen id) ∈
              onlyChosen (fun id => !chosen id) candidates :=
          mem_onlyChosen_iff.2 ⟨candidate, member, by simp [isChosen], rfl⟩
        rw [noOthers] at found
        exact List.not_mem_nil found

theorem onlyChosen_append (earlier later : List Candidate) :
    onlyChosen chosen (earlier ++ later) =
      onlyChosen chosen earlier ++ onlyChosen chosen later := by
  rw [onlyChosen, List.filter_append, List.map_append]
  rfl

theorem onlyChosen_filter
    {candidates : List Candidate} {kept keptAmong : Candidate → Bool}
    (agree : ∀ candidate ∈ candidates, chosen candidate.id = true →
      keptAmong (candidate.among chosen) = kept candidate) :
    onlyChosen chosen (candidates.filter kept) =
      (onlyChosen chosen candidates).filter keptAmong := by
  rw [onlyChosen, onlyChosen, List.filter_map, List.filter_filter,
    List.filter_filter]
  refine congrArg (List.map (Candidate.among chosen)) (List.filter_congr ?_)
  intro candidate member
  rw [Function.comp_apply]
  cases isChosen : chosen candidate.id with
  | false => simp
  | true => simp [agree candidate member isChosen]

theorem onlyChosen_map
    {candidates : List Candidate} {change changeAmong : Candidate → Candidate}
    (sameId : ∀ candidate, (change candidate).id = candidate.id)
    (agree : ∀ candidate ∈ candidates, chosen candidate.id = true →
      changeAmong (candidate.among chosen) = (change candidate).among chosen) :
    onlyChosen chosen (candidates.map change) =
      (onlyChosen chosen candidates).map changeAmong := by
  have sameChoice :
      (fun candidate : Candidate => chosen candidate.id) ∘ change =
        fun candidate => chosen candidate.id :=
    funext fun candidate => congrArg chosen (sameId candidate)
  rw [onlyChosen, onlyChosen, List.filter_map, sameChoice, List.map_map,
    List.map_map]
  apply List.map_congr_left
  intro candidate member
  obtain ⟨listed, isChosen⟩ := List.mem_filter.1 member
  exact (agree candidate listed isChosen).symm

/-! ## Reading alike -/

section Reading

variable {facts ownFacts : Facts} {candidate : Candidate}
  (alike :
    candidate.rule.appraise ownFacts = candidate.rule.appraise facts)

include alike

theorem Candidate.fits_among_iff :
    (candidate.among chosen).Fits ownFacts ↔ candidate.Fits facts := by
  rw [Fits, Fits, ← alike]
  rfl

theorem Candidate.review_among :
    (candidate.among chosen).review ownFacts =
      (candidate.review facts).among chosen := by
  have sameNote :
      candidate.rule.noted ownFacts candidate.gap =
        candidate.rule.noted facts candidate.gap := by
    rw [Rule.noted, Rule.noted, alike]
  rw [review_eq, review_eq]
  exact congrArg
    (fun gap => ({ candidate with id := candidate.id.among chosen, gap } :
      Candidate))
    sameNote

end Reading

/-! ## Chosen rules of a state -/

namespace State

variable {base ownBase facts ownFacts : Facts} {state : State}

/-- The state with the chosen rules only. -/
def only (chosen : RuleId → Bool) (state : State) : State where
  pending := onlyChosen chosen state.pending
  standing := onlyChosen chosen state.standing
  withdrawn := onlyChosen chosen state.withdrawn

theorem only_start (chosen : RuleId → Bool) (rules : List Rule) :
    (start rules).only chosen = start (chosenRules chosen rules) := by
  have samePending :
      onlyChosen chosen (start rules).pending =
        (start (chosenRules chosen rules)).pending := by
    induction rules using List.reverseRecOn with
    | nil => rfl
    | append_singleton rules rule inductionHypothesis =>
        rw [start, start] at inductionHypothesis ⊢
        rw [List.mapIdx_concat, onlyChosen_append, inductionHypothesis,
          chosenRules_concat, List.mapIdx_append]
        refine congrArg _ ?_
        have place := length_chosenRules chosen rules
        cases isChosen : chosen ⟨rules.length⟩ with
        | false => simp [onlyChosen, isChosen]
        | true => simp [onlyChosen, isChosen, Candidate.among, place]
  exact eq_of_stages samePending rfl rfl

section Pending

variable
  (agree : ∀ candidate ∈ state.pending, chosen candidate.id = true →
    candidate.rule.appraise ownFacts = candidate.rule.appraise facts)

include agree

theorem onlyChosen_admissible :
    onlyChosen chosen (state.admissible facts) =
      (state.only chosen).admissible ownFacts := by
  apply onlyChosen_filter
  intro candidate pends isChosen
  exact decide_eq_decide.2
    (Candidate.fits_among_iff (agree candidate pends isChosen))

theorem only_promote :
    (state.promote facts).only chosen =
      (state.only chosen).promote ownFacts := by
  have samePending :
      onlyChosen chosen (state.promote facts).pending =
        ((state.only chosen).promote ownFacts).pending := by
    rw [promote, promote, only, onlyChosen_map (Candidate.id_review facts),
      onlyChosen_filter]
    · intro candidate pends isChosen
      exact decide_eq_decide.2 (not_congr
        (Candidate.fits_among_iff (agree candidate pends isChosen)))
    · intro candidate kept isChosen
      have pends := (List.mem_filter.1 kept).1
      exact Candidate.review_among (agree candidate pends isChosen)
  have sameStanding :
      onlyChosen chosen (state.promote facts).standing =
        ((state.only chosen).promote ownFacts).standing := by
    rw [promote, promote, onlyChosen_append, onlyChosen_admissible agree]
    rfl
  exact eq_of_stages samePending sameStanding rfl

end Pending

theorem only_withdraw
    (agree : ∀ candidate ∈ state.standing, chosen candidate.id = true →
      candidate.rule.appraise ownFacts = candidate.rule.appraise facts) :
    (state.withdraw facts).only chosen =
      (state.only chosen).withdraw ownFacts := by
  have sameStanding :
      onlyChosen chosen (state.withdraw facts).standing =
        ((state.only chosen).withdraw ownFacts).standing := by
    apply onlyChosen_filter
    intro candidate stands isChosen
    exact decide_eq_decide.2
      (Candidate.fits_among_iff (agree candidate stands isChosen))
  have sameStale :
      onlyChosen chosen (state.stale facts) =
        (state.only chosen).stale ownFacts := by
    apply onlyChosen_filter
    intro candidate stands isChosen
    exact decide_eq_decide.2 (not_congr
      (Candidate.fits_among_iff (agree candidate stands isChosen)))
  have sameWithdrawn :
      onlyChosen chosen (state.withdraw facts).withdrawn =
        ((state.only chosen).withdraw ownFacts).withdrawn := by
    rw [withdraw, withdraw, onlyChosen_append,
      onlyChosen_map (Candidate.id_review facts), sameStale]
    · rfl
    · intro candidate isStale isChosen
      have stands := (List.mem_filter.1 isStale).1
      exact Candidate.review_among (agree candidate stands isChosen)
  exact eq_of_stages rfl sameStanding sameWithdrawn

/-! ## Settling the chosen rules -/

/-- Settling starts with a withdrawal, be there something to withdraw or not. -/
theorem state_settle_withdraw (base : Facts) (state : State) :
    ((state.withdraw (state.closure base)).settle base).state =
      (state.settle base).state := by
  by_cases noneStale : state.stale (state.closure base) = []
  · rw [Settled.withdraw_eq (stale_eq_nil_iff.1 noneStale)]
  · conv_rhs => rw [settle, dif_neg noneStale]

/-- The chosen rules settle by themselves, if what withdrawals preserve lets
them read the facts of both states alike. -/
theorem only_settle
    (Invariant : State → Prop)
    (kept : ∀ state, Invariant state →
      Invariant (state.withdraw (state.closure base)))
    (agree : ∀ state, Invariant state → ∀ candidate ∈ state.standing,
      chosen candidate.id = true →
        candidate.rule.appraise ((state.only chosen).closure ownBase) =
          candidate.rule.appraise (state.closure base))
    (holds : Invariant state) :
    (state.settle base).state.only chosen =
      ((state.only chosen).settle ownBase).state := by
  fun_induction settle base state with
  | case1 state facts noneStale =>
      have settled : (state.only chosen).Settled ownBase := by
        intro candidate stands
        obtain ⟨original, stood, isChosen, rfl⟩ := mem_onlyChosen_iff.1 stands
        exact (Candidate.fits_among_iff
          (agree state holds original stood isChosen)).2
            (stale_eq_nil_iff.1 noneStale original stood)
      rw [settled.settle_eq]
  | case2 state facts someStale rest inductionHypothesis =>
      have sameWithdrawal :
          (state.withdraw facts).only chosen =
            (state.only chosen).withdraw
              ((state.only chosen).closure ownBase) :=
        only_withdraw (agree state holds)
      rw [inductionHypothesis (kept state holds), sameWithdrawal,
        state_settle_withdraw]

end State

/-! ## Reports about the chosen rules -/

theorem getElem?_chosenRules
    {rules : List Rule} {id : RuleId} {rule : Rule}
    (isChosen : chosen id = true) (listed : rules[id.index]? = some rule) :
    (chosenRules chosen rules)[(id.among chosen).index]? = some rule := by
  have pends : { id, rule } ∈ (State.start rules).members .pending :=
    State.mem_members_start.2 ⟨rfl, rfl, listed⟩
  have chosenPends :
      Candidate.among chosen { id, rule } ∈
        (State.start (chosenRules chosen rules)).members .pending := by
    rw [← State.only_start]
    exact mem_onlyChosen_iff.2 ⟨_, pends, isChosen, rfl⟩
  exact (State.mem_members_start.1 chosenPends).2.2

/-- If the chosen rules come to the same end by themselves, then the same is
reported of them. -/
theorem sameReport_of_last_only_eq
    {base ownBase : Facts} {rules : List Rule}
    (sameLast :
      (Run.ofRules base rules).last.only chosen =
        (Run.ofRules ownBase (chosenRules chosen rules)).last)
    (agree : ∀ candidate ∈ (Run.ofRules base rules).last.pending,
      chosen candidate.id = true →
        candidate.rule.appraise
            (resolve ownBase (chosenRules chosen rules)).closure =
          candidate.rule.appraise (resolve base rules).closure)
    {id : RuleId} (isChosen : chosen id = true) :
    SameReport (resolve base rules) id
      (resolve ownBase (chosenRules chosen rules)) (id.among chosen) := by
  constructor
  · change id ∈ (Run.ofRules base rules).last.standing.map Candidate.id ↔
      id.among chosen ∈
        (Run.ofRules ownBase (chosenRules chosen rules)).last.standing.map
          Candidate.id
    rw [← sameLast]
    exact mem_map_id_onlyChosen_iff isChosen
  · change id ∈ (Run.ofRules base rules).last.withdrawn.map Candidate.id ↔
      id.among chosen ∈
        (Run.ofRules ownBase (chosenRules chosen rules)).last.withdrawn.map
          Candidate.id
    rw [← sameLast]
    exact mem_map_id_onlyChosen_iff isChosen
  · intro clash
    rw [barred_resolve_eq_barred_last, barred_resolve_eq_barred_last,
      ← sameLast, State.mem_barred_iff, State.mem_barred_iff]
    apply exists_onlyChosen_iff isChosen
    intro candidate pends candidateChosen
    rw [← agree candidate pends candidateChosen]
    rfl
  · intro gap
    change (id, gap) ∈ (Run.ofRules base rules).last.unmet ↔
      (id.among chosen, gap) ∈
        (Run.ofRules ownBase (chosenRules chosen rules)).last.unmet
    rw [← sameLast, State.mem_unmet_iff, State.mem_unmet_iff, State.only,
      ← onlyChosen_append]
    exact exists_onlyChosen_iff isChosen _ _ fun _ _ _ => Iff.rfl

end ConceptRules
