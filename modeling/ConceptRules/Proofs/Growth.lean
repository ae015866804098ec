import ConceptRules.Proofs.Bilinearity
import ConceptRules.Proofs.Standing

/-!
# Facts that only grow

A trigger that asks for concepts to be present, and for none to be absent, is
not upset by further facts.  Where all triggers are of this kind, and the facts
stay free of contradiction, a resolution has nothing to withdraw: it makes
promotions only (`State.Reaches.calm`), and its closure grows from round to
round.
-/

namespace ConceptRules

/-! ## Comparing bodies of facts -/

namespace Facts

/-- Whatever the first side states, the second one states as well. -/
def Within (inner outer : Facts) : Prop :=
  ∀ verb concept, inner.Holds verb concept → outer.Holds verb concept

theorem Within.refl (facts : Facts) : facts.Within facts :=
  fun _ _ holds => holds

theorem Within.trans
    {first second third : Facts}
    (inner : first.Within second) (outer : second.Within third) :
    first.Within third :=
  fun verb concept holds => outer verb concept (inner verb concept holds)

theorem Within.antisymm
    {left right : Facts}
    (rightward : left.Within right) (leftward : right.Within left) :
    left = right :=
  ext_of_holds fun verb concept =>
    ⟨rightward verb concept, leftward verb concept⟩

theorem mergeAll_within_iff
    {facts outer : Facts} {sources : List Facts} :
    (facts.mergeAll sources).Within outer ↔
      facts.Within outer ∧ ∀ source ∈ sources, source.Within outer := by
  constructor
  · intro within
    constructor
    · intro verb concept holds
      exact within verb concept (holds_mergeAll.2 (Or.inl holds))
    · intro source member verb concept holds
      exact within verb concept
        (holds_mergeAll.2 (Or.inr ⟨source, member, holds⟩))
  · rintro ⟨factsWithin, sourcesWithin⟩ verb concept holds
    rcases holds_mergeAll.1 holds with holds | ⟨source, member, holds⟩
    · exact factsWithin verb concept holds
    · exact sourcesWithin source member verb concept holds

/-- Parts of a body of facts that does not contradict itself are compatible. -/
theorem compatible_of_within_of_apart
    {left right whole : Facts} (apart : whole.is.Apart whole.isnt)
    (leftWithin : left.Within whole) (rightWithin : right.Within whole) :
    left.Compatible right := by
  rw [compatible_iff]
  constructor
  · intro concept asserted denied
    exact apart concept (leftWithin .is concept asserted)
      (rightWithin .isnt concept denied)
  · intro concept denied asserted
    exact apart concept (rightWithin .is concept asserted)
      (leftWithin .isnt concept denied)

end Facts

/-! ## Positive triggers -/

namespace Trigger

/-- The trigger asks for concepts to be present and for none to be absent: it is
not negated, and looks for a single concept, for all or for any of a group. -/
def Positive (trigger : Trigger) : Prop :=
  trigger.negated = false ∧
    match trigger.pattern with
    | .single _ => True
    | .grouped group => group.connective ≠ .oneOf

instance (trigger : Trigger) : Decidable trigger.Positive :=
  match trigger with
  | ⟨negated, .single _⟩ =>
      inferInstanceAs (Decidable (negated = false ∧ True))
  | ⟨negated, .grouped group⟩ =>
      inferInstanceAs (Decidable (negated = false ∧ group.connective ≠ .oneOf))

theorem Positive.holds_of_subset
    {trigger : Trigger} (positive : trigger.Positive)
    {smaller larger : ConceptSet} (subset : smaller ⊆ larger)
    (triggered : trigger.Holds smaller) : trigger.Holds larger := by
  obtain ⟨negated, pattern⟩ := trigger
  obtain ⟨notNegated, noneExcluded⟩ := positive
  refine iff_of_true ?_ notNegated
  have present : pattern.Holds smaller := triggered.2 notNegated
  cases pattern with
  | single concept => exact subset concept present
  | grouped group =>
      obtain ⟨connective, members, nodup⟩ := group
      cases connective with
      | allOf =>
          intro concept member
          exact subset concept (present concept member)
      | anyOf =>
          obtain ⟨concept, member, isPresent⟩ := present
          exact ⟨concept, member, subset concept isPresent⟩
      | oneOf => exact absurd rfl noneExcluded

/-- More facts leave a positive trigger in force. -/
theorem Positive.holds_of_within
    {trigger : Trigger} (positive : trigger.Positive)
    {smaller larger : Facts} (within : smaller.Within larger)
    (triggered : trigger.Holds smaller.is) : trigger.Holds larger.is :=
  positive.holds_of_subset (within .is) triggered

end Trigger

/-! ## Closures in comparison -/

namespace State

variable {base outer : Facts} {state origin target : State}

theorem closure_within_iff :
    (state.closure base).Within outer ↔
      base.Within outer ∧
        ∀ candidate ∈ state.standing,
          candidate.rule.consequence.Within outer := by
  rw [closure, Facts.mergeAll_within_iff, List.forall_mem_map]

theorem base_within_closure (base : Facts) (state : State) :
    base.Within (state.closure base) :=
  (closure_within_iff.1 (Facts.Within.refl _)).1

theorem consequence_within_closure
    {candidate : Candidate} (stands : candidate ∈ state.standing) :
    candidate.rule.consequence.Within (state.closure base) :=
  (closure_within_iff.1 (Facts.Within.refl _)).2 candidate stands

theorem closure_promote_within_iff {facts : Facts} :
    ((state.promote facts).closure base).Within outer ↔
      (state.closure base).Within outer ∧
        ∀ candidate ∈ state.pending, candidate.Fits facts →
          candidate.rule.consequence.Within outer := by
  simp only [closure_within_iff, mem_standing_promote_iff, or_imp,
    forall_and, and_assoc, and_imp]

theorem closure_promote_compatible_iff {facts candidate : Facts} :
    ((state.promote facts).closure base).Compatible candidate ↔
      (state.closure base).Compatible candidate ∧
        ∀ admitted ∈ state.pending, admitted.Fits facts →
          admitted.rule.consequence.Compatible candidate := by
  simp only [closure, Facts.mergeAll_compatible_iff, List.forall_mem_map,
    mem_standing_promote_iff, or_imp, forall_and, and_assoc, and_imp]

theorem closure_within_promote (base facts : Facts) (state : State) :
    (state.closure base).Within ((state.promote facts).closure base) :=
  (closure_promote_within_iff.1 (Facts.Within.refl _)).1

theorem closure_withdraw_within (base facts : Facts) (state : State) :
    ((state.withdraw facts).closure base).Within (state.closure base) := by
  refine closure_within_iff.2 ⟨base_within_closure base state, ?_⟩
  intro candidate stands
  exact consequence_within_closure (mem_standing_withdraw_iff.1 stands).1

theorem closure_settle_within (base : Facts) (state : State) :
    ((state.settle base).state.closure base).Within (state.closure base) := by
  fun_induction settle base state with
  | case1 => exact Facts.Within.refl _
  | case2 state facts someStale rest inductionHypothesis =>
      exact inductionHypothesis.trans (closure_withdraw_within base facts state)

/-! ## Nothing to withdraw -/

theorem filter_fits_eq_self
    {facts : Facts} {candidates : List Candidate}
    (allFit : ∀ candidate ∈ candidates, candidate.Fits facts) :
    candidates.filter (fun candidate => candidate.Fits facts) =
      candidates := by
  rw [List.filter_eq_self]
  intro candidate member
  exact decide_eq_true (allFit candidate member)

theorem Settled.withdraw_eq (settled : state.Settled base) :
    state.withdraw (state.closure base) = state := by
  have noneStale : state.stale (state.closure base) = [] :=
    stale_eq_nil_iff.2 settled
  rw [withdraw, noneStale, filter_fits_eq_self settled, List.map_nil,
    List.append_nil]

/-- If promotions preserve a property of settled states, then a resolution that
starts from a state of this property keeps it, and withdraws nothing. -/
theorem Reaches.calm
    {Calm : State → Prop}
    (settled : ∀ state, Calm state → state.Settled base)
    (promoted : ∀ state, Reaches base origin state → Calm state →
      Calm (state.promote (state.closure base)))
    (reached : Reaches base origin target) (calm : Calm origin) :
    Calm target ∧ target.withdrawn = origin.withdrawn := by
  induction reached with
  | refl => exact ⟨calm, rfl⟩
  | tail earlier move inductionHypothesis =>
      obtain ⟨stillCalm, noneWithdrawn⟩ := inductionHypothesis
      cases move with
      | promote => exact ⟨promoted _ earlier stillCalm, noneWithdrawn⟩
      | withdraw =>
          rw [(settled _ stillCalm).withdraw_eq]
          exact ⟨stillCalm, noneWithdrawn⟩

end State

theorem base_within_closure_resolve (base : Facts) (rules : List Rule) :
    base.Within (resolve base rules).closure := by
  rw [closure_resolve]
  exact State.base_within_closure base _

end ConceptRules
