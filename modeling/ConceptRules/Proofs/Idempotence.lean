import ConceptRules.Proofs.Growth
import ConceptRules.Proofs.Report

/-!
# Resolving a closure again

A closure states what the standing rules entail, so another resolution that
starts from it has nothing to add for them.  It does not know of the rules that
were withdrawn, however, and gives them a second chance.  If none of these fits
the closure, then nothing changes (`resolve_closure_again`).  One that does fit
is admitted in the first round, and may stay: by then the rule that upset it is
no longer triggered (`resolve_closure_again_differs`).
-/

namespace ConceptRules

/-- The facts state whatever the rules that fit them entail. -/
def Saturated (facts : Facts) (rules : List Rule) : Prop :=
  ∀ rule ∈ rules, rule.appraise facts = .fits →
    rule.consequence.Within facts

/-! ## Resolving saturated facts -/

section Resume

variable {facts : Facts} {rules : List Rule}

/-- The standing rules fit, and add nothing to the facts. -/
structure State.AddsNothing (facts : Facts) (state : State) : Prop where
  settled : state.Settled facts
  closure_eq : state.closure facts = facts

theorem State.AddsNothing.promote
    {state : State} (saturated : Saturated facts rules)
    (reached : State.Reaches facts (State.start rules) state)
    (addsNothing : state.AddsNothing facts) :
    (state.promote (state.closure facts)).AddsNothing facts := by
  have sameClosure :
      (state.promote (state.closure facts)).closure facts = facts := by
    apply Facts.Within.antisymm _ (State.base_within_closure facts _)
    rw [State.closure_promote_within_iff, addsNothing.closure_eq]
    refine ⟨Facts.Within.refl facts, fun candidate pends fits => ?_⟩
    exact saturated candidate.rule (reached.rule_mem .pending pends) fits
  refine ⟨fun candidate stands => ?_, sameClosure⟩
  rw [sameClosure]
  rcases State.mem_standing_promote_iff.1 stands with stood | ⟨_, fits⟩
  · have fits := addsNothing.settled candidate stood
    rw [addsNothing.closure_eq] at fits
    exact fits
  · rw [addsNothing.closure_eq] at fits
    exact fits

/-- A resolution of saturated facts adds nothing on the way, and withdraws
nothing. -/
theorem State.Reaches.addsNothing
    {state : State} (saturated : Saturated facts rules)
    (reached : State.Reaches facts (State.start rules) state) :
    state.AddsNothing facts ∧ state.withdrawn = [] := by
  have addsNothingAtFirst : (State.start rules).AddsNothing facts :=
    ⟨State.settled_start facts rules, rfl⟩
  exact reached.calm
    (fun _ addsNothing => addsNothing.settled)
    (fun _ reached addsNothing => addsNothing.promote saturated reached)
    addsNothingAtFirst

theorem resolve_of_saturated (saturated : Saturated facts rules) :
    (resolve facts rules).closure = facts ∧
      (resolve facts rules).withdrawn = [] := by
  obtain ⟨addsNothing, noneWithdrawn⟩ :=
    (State.reaches_atRest facts rules).addsNothing saturated
  rw [closure_resolve, withdrawn_resolve, noneWithdrawn]
  exact ⟨addsNothing.closure_eq, rfl⟩

theorem mem_standing_iff_of_saturated
    (saturated : Saturated facts rules) {id : RuleId} :
    id ∈ (resolve facts rules).standing ↔
      ∃ rule ∈ rules[id.index]?, rule.appraise facts = .fits := by
  obtain ⟨sameClosure, noneWithdrawn⟩ := resolve_of_saturated saturated
  rw [mem_standing_iff, sameClosure, noneWithdrawn]
  exact and_iff_right List.not_mem_nil

theorem mem_barred_iff_of_saturated
    (saturated : Saturated facts rules) {id : RuleId} {clash : Clash} :
    (id, clash) ∈ (resolve facts rules).barred ↔
      ∃ rule ∈ rules[id.index]?, rule.appraise facts = .barred clash := by
  obtain ⟨sameClosure, noneWithdrawn⟩ := resolve_of_saturated saturated
  rw [mem_barred_iff, sameClosure, noneWithdrawn]
  exact and_iff_right List.not_mem_nil

end Resume

/-! ## The closure of a resolution -/

section Again

variable
  {base : Facts} {rules : List Rule}
  (noneFits : ∀ id ∈ (resolve base rules).withdrawn,
    ∀ rule ∈ rules[id.index]?,
      rule.trigger.Holds (resolve base rules).closure.is →
        ¬(resolve base rules).closure.Compatible rule.consequence)

include noneFits

theorem mem_standing_iff_fits {id : RuleId} :
    id ∈ (resolve base rules).standing ↔
      ∃ rule ∈ rules[id.index]?,
        rule.appraise (resolve base rules).closure = .fits := by
  rw [mem_standing_iff]
  constructor
  · exact And.right
  · rintro ⟨rule, listed, fits⟩
    refine ⟨fun isWithdrawn => ?_, rule, listed, fits⟩
    obtain ⟨triggered, compatible⟩ := Rule.appraise_eq_fits_iff.1 fits
    exact noneFits id isWithdrawn rule listed triggered compatible

theorem saturated_closure : Saturated (resolve base rules).closure rules := by
  intro rule isRule fits verb concept states
  obtain ⟨index, listed⟩ := List.mem_iff_getElem?.1 isRule
  have stands : ⟨index⟩ ∈ (resolve base rules).standing :=
    (mem_standing_iff_fits noneFits).2 ⟨rule, listed, fits⟩
  exact holds_closure_resolve_iff.2
    (Or.inr ⟨⟨index⟩, stands, rule, listed, states⟩)

end Again

/-! ## Main results -/

/-- If no withdrawn rule fits the closure, resolving the closure gives the same
closure and the same standing rules.  The same rules are then barred exactly if
no withdrawn rule is triggered. -/
theorem resolve_closure_again
    {base : Facts} {rules : List Rule}
    (noneFits : ∀ id ∈ (resolve base rules).withdrawn,
      ∀ rule ∈ rules[id.index]?,
        rule.trigger.Holds (resolve base rules).closure.is →
          ¬(resolve base rules).closure.Compatible rule.consequence) :
    (resolve (resolve base rules).closure rules).closure =
        (resolve base rules).closure ∧
      (∀ id, id ∈ (resolve (resolve base rules).closure rules).standing ↔
        id ∈ (resolve base rules).standing) ∧
      ((resolve (resolve base rules).closure rules).barred =
          (resolve base rules).barred ↔
        ∀ id ∈ (resolve base rules).withdrawn, ∀ rule ∈ rules[id.index]?,
          ¬rule.trigger.Holds (resolve base rules).closure.is) := by
  have saturated := saturated_closure noneFits
  refine ⟨(resolve_of_saturated saturated).1, fun id => ?_, ?_⟩
  · rw [mem_standing_iff_of_saturated saturated,
      mem_standing_iff_fits noneFits]
  · constructor
    · -- A withdrawn rule is never reported as barred, but nothing is
      -- withdrawn the second time.
      intro sameBarred id isWithdrawn rule listed triggered
      have contradicted := noneFits id isWithdrawn rule listed triggered
      have barredAgain :=
        (mem_barred_iff_of_saturated saturated).2 ⟨rule, listed,
          Rule.appraise_eq_barred_iff.2 ⟨triggered, contradicted, rfl⟩⟩
      rw [sameBarred] at barredAgain
      exact (mem_barred_iff.1 barredAgain).1 isWithdrawn
    · intro noneTriggered
      apply eq_of_ascending_of_mem_iff (fun entry => entry.1.index)
        (barred_resolve_ascending _ _) (barred_resolve_ascending _ _)
      rintro ⟨id, clash⟩
      rw [mem_barred_iff_of_saturated saturated, mem_barred_iff]
      constructor
      · rintro ⟨rule, listed, appraised⟩
        refine ⟨fun isWithdrawn => ?_, rule, listed, appraised⟩
        have triggered := (Rule.appraise_eq_barred_iff.1 appraised).1
        exact noneTriggered id isWithdrawn rule listed triggered
      · exact And.right

/-- The first rule gives way to the second one, and the third contradicts what
triggers it. -/
def exception : List Rule :=
  [⟨⟨true, .single ⟨1⟩⟩, [⟨.is, ⟨2⟩⟩]⟩,
    ⟨⟨false, .single ⟨0⟩⟩, [⟨.is, ⟨1⟩⟩]⟩,
    ⟨⟨false, .single ⟨0⟩⟩, [⟨.isnt, ⟨0⟩⟩]⟩]

theorem resolve_closure_again_exception :
    (resolve (.ofIs [⟨0⟩]) exception).withdrawn = [⟨0⟩] ∧
      (∀ rule ∈ exception[0]?,
        ¬rule.trigger.Holds (resolve (.ofIs [⟨0⟩]) exception).closure.is) ∧
      (resolve (resolve (.ofIs [⟨0⟩]) exception).closure exception).closure =
        (resolve (.ofIs [⟨0⟩]) exception).closure ∧
      (resolve (resolve (.ofIs [⟨0⟩]) exception).closure exception).barred =
        (resolve (.ofIs [⟨0⟩]) exception).barred := by
  have withdrawn :
      (resolve (.ofIs [⟨0⟩]) exception).withdrawn = [⟨0⟩] := by
    decide +kernel
  have notTriggered :
      ∀ rule ∈ exception[0]?,
        ¬rule.trigger.Holds
          (resolve (.ofIs [⟨0⟩]) exception).closure.is := by
    decide +kernel
  have noneTriggered :
      ∀ id ∈ (resolve (.ofIs [⟨0⟩]) exception).withdrawn,
        ∀ rule ∈ exception[id.index]?,
          ¬rule.trigger.Holds
            (resolve (.ofIs [⟨0⟩]) exception).closure.is := by
    rw [withdrawn]
    intro id isWithdrawn
    cases List.mem_singleton.1 isWithdrawn
    exact notTriggered
  have noneFits :
      ∀ id ∈ (resolve (.ofIs [⟨0⟩]) exception).withdrawn,
        ∀ rule ∈ exception[id.index]?,
          rule.trigger.Holds
              (resolve (.ofIs [⟨0⟩]) exception).closure.is →
            ¬(resolve (.ofIs [⟨0⟩]) exception).closure.Compatible
              rule.consequence := by
    intro id isWithdrawn rule listed triggered
    exact absurd triggered (noneTriggered id isWithdrawn rule listed)
  obtain ⟨sameClosure, _, sameBarred⟩ := resolve_closure_again noneFits
  exact ⟨withdrawn, notTriggered, sameClosure, sameBarred.2 noneTriggered⟩

/-- The second rule upsets the first, and is upset by the third: all three are
admitted in one round. -/
def secondChance : List Rule :=
  [⟨⟨true, .single ⟨3⟩⟩, [⟨.is, ⟨1⟩⟩]⟩,
    ⟨⟨true, .single ⟨4⟩⟩, [⟨.is, ⟨3⟩⟩]⟩,
    ⟨⟨false, .single ⟨0⟩⟩, [⟨.is, ⟨4⟩⟩]⟩]

/-- The closure has what keeps the second rule out, so that now the first one
stands. -/
theorem resolve_closure_again_differs :
    (resolve (resolve (.ofIs [⟨0⟩]) secondChance).closure
        secondChance).closure ≠
      (resolve (.ofIs [⟨0⟩]) secondChance).closure := by
  decide +kernel

end ConceptRules
