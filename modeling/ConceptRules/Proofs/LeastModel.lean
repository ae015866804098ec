import ConceptRules.Proofs.Growth
import ConceptRules.Proofs.Report

/-!
# Least models

A model of a base under a list of rules contains the base, and with each rule
that it triggers the consequence of that rule.  If all triggers are positive,
there is a least model, which forward chaining computes (`leastModel`): no
regard is paid to contradictions, and nothing is ever withdrawn.

A resolution reads rules against contradictions, round by round.  As long as
the least model does not contradict itself, this makes no difference: the
closure is the least model.
-/

namespace ConceptRules

/-- The facts contain the base and what each rule that they trigger entails. -/
structure IsModel (base : Facts) (rules : List Rule) (model : Facts) : Prop where
  base_within : base.Within model
  closed : ∀ rule ∈ rules,
    rule.trigger.Holds model.is → rule.consequence.Within model

/-- A model that every model contains. -/
structure IsLeastModel
    (base : Facts) (rules : List Rule) (model : Facts) : Prop
    extends IsModel base rules model where
  least : ∀ other, IsModel base rules other → model.Within other

/-! ## Forward chaining -/

/-- The rules that some facts trigger. -/
def triggered (facts : Facts) (rules : List Rule) : List Rule :=
  rules.filter fun rule => rule.trigger.Holds facts.is

/-- The rules that some facts leave untriggered. -/
def untriggered (facts : Facts) (rules : List Rule) : List Rule :=
  rules.filter fun rule => ¬rule.trigger.Holds facts.is

/-- The facts with the consequences of the rules that they trigger. -/
def chainStep (facts : Facts) (rules : List Rule) : Facts :=
  facts.mergeAll ((triggered facts rules).map Rule.consequence)

theorem mem_triggered {facts : Facts} {rules : List Rule} {rule : Rule} :
    rule ∈ triggered facts rules ↔
      rule ∈ rules ∧ rule.trigger.Holds facts.is := by
  simp only [triggered, List.mem_filter, decide_eq_true_eq]

theorem mem_untriggered {facts : Facts} {rules : List Rule} {rule : Rule} :
    rule ∈ untriggered facts rules ↔
      rule ∈ rules ∧ ¬rule.trigger.Holds facts.is := by
  simp only [untriggered, List.mem_filter, decide_eq_true_eq]

theorem length_untriggered_lt
    {facts : Facts} {rules : List Rule}
    (someTriggered : triggered facts rules ≠ []) :
    (untriggered facts rules).length < rules.length := by
  obtain ⟨rule, member⟩ := List.exists_mem_of_ne_nil _ someTriggered
  obtain ⟨listed, holds⟩ := mem_triggered.1 member
  exact List.length_filter_lt_length_iff_exists.2
    ⟨rule, listed, by simpa using holds⟩

/-- State the consequences of the triggered rules until no further rule is
triggered. -/
def leastModel (facts : Facts) (rules : List Rule) : Facts :=
  if _ : triggered facts rules = [] then
    facts
  else
    leastModel (chainStep facts rules) (untriggered facts rules)
termination_by rules.length
decreasing_by
  exact length_untriggered_lt ‹_›

theorem chainStep_within_iff
    {facts outer : Facts} {rules : List Rule} :
    (chainStep facts rules).Within outer ↔
      facts.Within outer ∧
        ∀ rule ∈ rules, rule.trigger.Holds facts.is →
          rule.consequence.Within outer := by
  simp only [chainStep, Facts.mergeAll_within_iff, List.forall_mem_map,
    mem_triggered, and_imp]

theorem isModel_leastModel (facts : Facts) (rules : List Rule) :
    IsModel facts rules (leastModel facts rules) := by
  fun_induction leastModel facts rules with
  | case1 facts rules noneTriggered =>
      refine ⟨Facts.Within.refl facts, fun rule listed holds => ?_⟩
      have isTriggered : rule ∈ triggered facts rules :=
        mem_triggered.2 ⟨listed, holds⟩
      rw [noneTriggered] at isTriggered
      exact absurd isTriggered List.not_mem_nil
  | case2 facts rules someTriggered inductionHypothesis =>
      obtain ⟨factsWithin, triggeredWithin⟩ :=
        chainStep_within_iff.1 inductionHypothesis.base_within
      refine ⟨factsWithin, fun rule listed holds => ?_⟩
      by_cases already : rule.trigger.Holds facts.is
      · exact triggeredWithin rule listed already
      · exact inductionHypothesis.closed rule
          (mem_untriggered.2 ⟨listed, already⟩) holds

theorem IsModel.chainStep
    {facts model : Facts} {rules : List Rule}
    (positive : ∀ rule ∈ rules, rule.trigger.Positive)
    (isModel : IsModel facts rules model) :
    IsModel (chainStep facts rules) (untriggered facts rules) model := by
  constructor
  · refine chainStep_within_iff.2 ⟨isModel.base_within, ?_⟩
    -- A model triggers all that the facts below it trigger.
    intro rule listed holds
    exact isModel.closed rule listed
      ((positive rule listed).holds_of_within isModel.base_within holds)
  · intro rule remains
    exact isModel.closed rule (mem_untriggered.1 remains).1

theorem IsModel.leastModel_within
    {facts model : Facts} {rules : List Rule}
    (positive : ∀ rule ∈ rules, rule.trigger.Positive)
    (isModel : IsModel facts rules model) :
    (leastModel facts rules).Within model := by
  fun_induction leastModel facts rules with
  | case1 facts rules noneTriggered => exact isModel.base_within
  | case2 facts rules someTriggered inductionHypothesis =>
      have remainPositive :
          ∀ rule ∈ untriggered facts rules, rule.trigger.Positive := by
        intro rule remains
        exact positive rule (mem_untriggered.1 remains).1
      exact inductionHypothesis remainPositive (isModel.chainStep positive)

theorem isLeastModel_leastModel
    (base : Facts) {rules : List Rule}
    (positive : ∀ rule ∈ rules, rule.trigger.Positive) :
    IsLeastModel base rules (leastModel base rules) :=
  ⟨isModel_leastModel base rules,
    fun _ isModel => isModel.leastModel_within positive⟩

/-! ## Resolutions within a model -/

namespace State

variable
  {base model : Facts} {rules : List Rule} {state : State}

/-- The standing rules fit, and the closure keeps within a model. -/
structure WithinModel (base model : Facts) (state : State) : Prop where
  settled : state.Settled base
  closure_within : (state.closure base).Within model

theorem withinModel_start
    (isModel : IsModel base rules model) :
    (start rules).WithinModel base model := by
  refine ⟨settled_start base rules, closure_within_iff.2 ?_⟩
  refine ⟨isModel.base_within, fun candidate stands => ?_⟩
  simp [start] at stands

theorem WithinModel.promote
    (positive : ∀ rule ∈ rules, rule.trigger.Positive)
    (isModel : IsModel base rules model)
    (apart : model.is.Apart model.isnt)
    (reached : Reaches base (start rules) state)
    (within : state.WithinModel base model) :
    (state.promote (state.closure base)).WithinModel base model := by
  have closureWithin :
      ((state.promote (state.closure base)).closure base).Within model := by
    refine closure_promote_within_iff.2 ⟨within.closure_within, ?_⟩
    intro candidate pends fits
    have listed := reached.rule_mem .pending pends
    have triggered := (positive _ listed).holds_of_within
      within.closure_within (Candidate.fits_iff.1 fits).1
    exact isModel.closed _ listed triggered
  refine ⟨fun candidate stands => ?_, closureWithin⟩
  have reachedNext :
      Reaches base (start rules) (state.promote (state.closure base)) :=
    reached.tail Move.promote
  have listed := reachedNext.rule_mem .standing stands
  have fitted : candidate.Fits (state.closure base) := by
    rcases mem_standing_promote_iff.1 stands with stood | ⟨_, fits⟩
    · exact within.settled candidate stood
    · exact fits
  refine Candidate.fits_iff.2 ⟨?_, ?_⟩
  · exact (positive _ listed).holds_of_within
      (closure_within_promote base _ state) (Candidate.fits_iff.1 fitted).1
  · exact Facts.compatible_of_within_of_apart apart closureWithin
      ((consequence_within_closure stands).trans closureWithin)

end State

section ConsistentModel

variable
  {base model : Facts} {rules : List Rule}
  (positive : ∀ rule ∈ rules, rule.trigger.Positive)
  (isModel : IsModel base rules model)
  (apart : model.is.Apart model.isnt)

include positive isModel apart

/-- A resolution that keeps within a consistent model withdraws nothing. -/
theorem resolve_within_model :
    (resolve base rules).closure.Within model ∧
      (resolve base rules).withdrawn = [] := by
  obtain ⟨within, noneWithdrawn⟩ :=
    (State.reaches_atRest base rules).calm
      (fun _ within => within.settled)
      (fun _ reached within => within.promote positive isModel apart reached)
      (State.withinModel_start isModel)
  rw [closure_resolve, withdrawn_resolve, noneWithdrawn]
  exact ⟨within.closure_within, rfl⟩

theorem compatible_of_triggered
    {rule : Rule} (isRule : rule ∈ rules)
    (triggered : rule.trigger.Holds (resolve base rules).closure.is) :
    (resolve base rules).closure.Compatible rule.consequence := by
  obtain ⟨within, _⟩ := resolve_within_model positive isModel apart
  have modelTriggered :=
    (positive rule isRule).holds_of_within within triggered
  -- The closure and the consequence are both in the model, so that a
  -- contradiction between them would be one of the model.
  exact Facts.compatible_of_within_of_apart apart within
    (isModel.closed rule isRule modelTriggered)

theorem mem_standing_iff_triggered {id : RuleId} :
    id ∈ (resolve base rules).standing ↔
      ∃ rule ∈ rules[id.index]?,
        rule.trigger.Holds (resolve base rules).closure.is := by
  obtain ⟨_, noneWithdrawn⟩ := resolve_within_model positive isModel apart
  rw [mem_standing_iff, noneWithdrawn]
  constructor
  · rintro ⟨_, rule, listed, fits⟩
    exact ⟨rule, listed, (Rule.appraise_eq_fits_iff.1 fits).1⟩
  · rintro ⟨rule, listed, triggered⟩
    have compatible := compatible_of_triggered positive isModel apart
      (List.mem_of_getElem? listed) triggered
    exact ⟨List.not_mem_nil, rule, listed,
      Rule.appraise_eq_fits_iff.2 ⟨triggered, compatible⟩⟩

theorem isModel_closure : IsModel base rules (resolve base rules).closure := by
  constructor
  · intro verb concept holds
    exact holds_closure_resolve_iff.2 (Or.inl holds)
  · intro rule isRule triggered verb concept states
    obtain ⟨index, listed⟩ := List.mem_iff_getElem?.1 isRule
    have stands : ⟨index⟩ ∈ (resolve base rules).standing :=
      (mem_standing_iff_triggered positive isModel apart).2
        ⟨rule, listed, triggered⟩
    exact holds_closure_resolve_iff.2
      (Or.inr ⟨⟨index⟩, stands, rule, listed, states⟩)

theorem barred_eq_nil : (resolve base rules).barred = [] := by
  rw [List.eq_nil_iff_forall_not_mem]
  rintro ⟨id, clash⟩ isBarred
  obtain ⟨_, rule, listed, appraised⟩ := mem_barred_iff.1 isBarred
  obtain ⟨triggered, contradicted, _⟩ :=
    Rule.appraise_eq_barred_iff.1 appraised
  exact contradicted (compatible_of_triggered positive isModel apart
    (List.mem_of_getElem? listed) triggered)

end ConsistentModel

/-! ## Main result -/

/-- Under rules with positive triggers, resolving gives the least model, unless
that contradicts itself: the rules that it triggers stand, and none is barred or
withdrawn. -/
theorem resolve_eq_leastModel
    (base : Facts) {rules : List Rule}
    (positive : ∀ rule ∈ rules, rule.trigger.Positive) :
    IsLeastModel base rules (leastModel base rules) ∧
      ((leastModel base rules).is.Apart (leastModel base rules).isnt →
        (resolve base rules).closure = leastModel base rules ∧
          (∀ id, id ∈ (resolve base rules).standing ↔
            ∃ rule ∈ rules[id.index]?,
              rule.trigger.Holds (leastModel base rules).is) ∧
          (resolve base rules).withdrawn = [] ∧
          (resolve base rules).barred = []) := by
  have isLeast := isLeastModel_leastModel base positive
  have isModel := isLeast.toIsModel
  refine ⟨isLeast, fun apart => ?_⟩
  obtain ⟨within, noneWithdrawn⟩ :=
    resolve_within_model positive isModel apart
  have sameClosure : (resolve base rules).closure = leastModel base rules :=
    within.antisymm
      (isLeast.least _ (isModel_closure positive isModel apart))
  refine ⟨sameClosure, fun id => ?_, noneWithdrawn,
    barred_eq_nil positive isModel apart⟩
  rw [← sameClosure]
  exact mem_standing_iff_triggered positive isModel apart

/-- The rules of a chain, listed backwards, with a group at its end. -/
def chain : List Rule :=
  [⟨⟨false, .grouped (.ofList .allOf [⟨1⟩, ⟨2⟩])⟩, [⟨.isnt, ⟨3⟩⟩]⟩,
    ⟨⟨false, .single ⟨1⟩⟩, [⟨.is, ⟨2⟩⟩]⟩,
    ⟨⟨false, .single ⟨0⟩⟩, [⟨.is, ⟨1⟩⟩]⟩]

theorem resolve_eq_leastModel_chain :
    (∀ rule ∈ chain, rule.trigger.Positive) ∧
      (leastModel (.ofIs [⟨0⟩]) chain).is.Apart
        (leastModel (.ofIs [⟨0⟩]) chain).isnt ∧
      (resolve (.ofIs [⟨0⟩]) chain).closure =
        leastModel (.ofIs [⟨0⟩]) chain ∧
      (resolve (.ofIs [⟨0⟩]) chain).closure.Holds .isnt ⟨3⟩ := by
  have positive : ∀ rule ∈ chain, rule.trigger.Positive := by
    decide +kernel
  have apart :
      (leastModel (.ofIs [⟨0⟩]) chain).is.Apart
        (leastModel (.ofIs [⟨0⟩]) chain).isnt := by
    decide +kernel
  have sameClosure :=
    ((resolve_eq_leastModel (.ofIs [⟨0⟩]) positive).2 apart).1
  refine ⟨positive, apart, sameClosure, ?_⟩
  rw [sameClosure]
  decide +kernel

end ConceptRules
