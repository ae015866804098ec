import ConceptRules.Proofs.Admission
import ConceptRules.Proofs.Growth

/-!
# What derived facts rest on

A rule is admitted because of the facts of its time.  So every rule with a
positive trigger has its ground in the base and in rules that were admitted
earlier: the order of admission is a derivation (`Founded`).

It may be that some of these earlier rules do not stand any more.  Withdrawing
asks whether the facts still trigger a rule, and not where they come from: rules
that have come to support each other outlast the rule that they started from
(`standing_unfounded`).  This takes the withdrawal of a rule that asks for the
absence of concepts.  A rule that stands when a round begins is not upset by the
rules admitted in it unless they add a concept that its trigger excludes
(`State.Settled.compatible_closure_promote`).
-/

namespace ConceptRules

/-! ## Derivations -/

/-- Each rule with a positive trigger is triggered by the facts and by what the
rules before it entail. -/
def Founded (facts : Facts) : List Rule → Prop
  | [] => True
  | rule :: later =>
      (rule.trigger.Positive → rule.trigger.Holds facts.is) ∧
        Founded (facts.merge rule.consequence) later

instance decidableFounded (facts : Facts) (rules : List Rule) :
    Decidable (Founded facts rules) :=
  match rules with
  | [] => inferInstanceAs (Decidable True)
  | rule :: later =>
      have := decidableFounded (facts.merge rule.consequence) later
      inferInstanceAs (Decidable (_ ∧ _))

theorem founded_append {facts : Facts} {earlier later : List Rule} :
    Founded facts (earlier ++ later) ↔
      Founded facts earlier ∧
        Founded (facts.mergeAll (earlier.map Rule.consequence)) later := by
  induction earlier generalizing facts with
  | nil => exact (and_iff_right trivial).symm
  | cons rule rest inductionHypothesis =>
      rw [List.cons_append, Founded, Founded, inductionHypothesis, and_assoc]
      rfl

/-- Rules that the facts trigger can follow in any order. -/
theorem founded_of_triggered
    {smaller facts : Facts} {rules : List Rule}
    (within : smaller.Within facts)
    (triggered : ∀ rule ∈ rules, rule.trigger.Holds smaller.is) :
    Founded facts rules := by
  induction rules generalizing facts with
  | nil => trivial
  | cons rule later inductionHypothesis =>
      obtain ⟨ruleTriggered, laterTriggered⟩ :=
        List.forall_mem_cons.1 triggered
      constructor
      · intro positive
        exact positive.holds_of_within within ruleTriggered
      · apply inductionHypothesis _ laterTriggered
        intro verb concept holds
        exact Facts.holds_merge.2 (Or.inl (within verb concept holds))

/-- The rules at some places of a rule list. -/
def rulesAt (rules : List Rule) (ids : List RuleId) : List Rule :=
  ids.filterMap fun id => rules[id.index]?

theorem rulesAt_append
    (rules : List Rule) (earlier later : List RuleId) :
    rulesAt rules (earlier ++ later) =
      rulesAt rules earlier ++ rulesAt rules later :=
  List.filterMap_append

theorem rulesAt_map_id
    {rules : List Rule} {candidates : List Candidate}
    (listed : ∀ candidate ∈ candidates,
      rules[candidate.id.index]? = some candidate.rule) :
    rulesAt rules (candidates.map Candidate.id) =
      candidates.map Candidate.rule := by
  induction candidates with
  | nil => rfl
  | cons candidate rest inductionHypothesis =>
      obtain ⟨candidateListed, restListed⟩ := List.forall_mem_cons.1 listed
      rw [List.map_cons, List.map_cons, ← inductionHypothesis restListed,
        rulesAt, List.filterMap_cons, candidateListed]
      rfl

namespace State

variable {base : Facts} {rules : List Rule} {state origin : State}

/-! ## The order of admission is a derivation -/

/-- The facts that some rules account for, with the consequences of the rules
admitted next, account for the closure after the round. -/
theorem closure_afterRound_within
    {past : List Rule}
    (covered : (state.closure base).Within
      (base.mergeAll (past.map Rule.consequence))) :
    ((state.afterRound base).closure base).Within
      (base.mergeAll
        ((past ++ (state.admissible (state.closure base)).map
          Candidate.rule).map Rule.consequence)) := by
  rw [List.map_append]
  obtain ⟨baseWithin, sourcesWithin⟩ :=
    Facts.mergeAll_within_iff.1 (Facts.Within.refl
      (base.mergeAll (past.map Rule.consequence ++
        ((state.admissible (state.closure base)).map Candidate.rule).map
          Rule.consequence)))
  refine (closure_settle_within base _).trans
    (closure_promote_within_iff.2 ⟨covered.trans ?_, ?_⟩)
  · refine Facts.mergeAll_within_iff.2 ⟨baseWithin, fun source isPast => ?_⟩
    exact sourcesWithin source (List.mem_append_left _ isPast)
  · intro candidate pends fits
    have isAdmissible := mem_admissible_iff.2 ⟨pends, fits⟩
    exact sourcesWithin candidate.rule.consequence (List.mem_append_right _
      (List.mem_map_of_mem (List.mem_map_of_mem isAdmissible)))

theorem founded_admissions_saturate
    (reached : Reaches base (start rules) state) {past : List Rule}
    (founded : Founded base past)
    (covered : (state.closure base).Within
      (base.mergeAll (past.map Rule.consequence))) :
    Founded base (past ++ rulesAt rules (state.saturate base).admissions) := by
  -- The past has the withdrawn rules as well, and so covers the closure even
  -- where supporters of a standing rule are gone.
  fun_induction State.rest base state generalizing past with
  | case1 state noneAdmissible =>
      rw [admissions_saturate_of_admissible_eq_nil noneAdmissible]
      exact founded_append.2 ⟨founded, trivial⟩
  | case2 state someAdmissible inductionHypothesis =>
      have listed : ∀ candidate ∈ state.admissible (state.closure base),
          rules[candidate.id.index]? = some candidate.rule := by
        intro candidate isAdmissible
        exact reached.getElem?_of_mem .pending
          (mem_admissible_iff.1 isAdmissible).1
      have triggered :
          ∀ rule ∈ (state.admissible (state.closure base)).map Candidate.rule,
            rule.trigger.Holds (state.closure base).is := by
        rw [List.forall_mem_map]
        intro candidate isAdmissible
        exact (Candidate.fits_iff.1 (mem_admissible_iff.1 isAdmissible).2).1
      rw [admissions_saturate_of_admissible_ne_nil someAdmissible,
        rulesAt_append, rulesAt_map_id listed, ← List.append_assoc]
      apply inductionHypothesis
      · exact reached.trans (reaches_afterRound base state)
      · exact founded_append.2
          ⟨founded, founded_of_triggered covered triggered⟩
      · exact closure_afterRound_within covered

/-! ## When the standing rules are a derivation of their own -/

/-- What a round admits does not contradict the rules that stand when it
begins. -/
theorem Settled.compatible_closure_promote
    (settled : state.Settled base) {candidate : Candidate}
    (stands : candidate ∈ state.standing) :
    ((state.promote (state.closure base)).closure base).Compatible
      candidate.rule.consequence := by
  have fits := Candidate.fits_iff.1 (settled candidate stands)
  refine closure_promote_compatible_iff.2 ⟨fits.2, ?_⟩
  intro admitted _ admittedFits
  have entailed : candidate.rule.consequence.Within (state.closure base) :=
    consequence_within_closure stands
  have admittedCompatible := (Candidate.fits_iff.1 admittedFits).2
  exact (Facts.compatible_of_holds_imp entailed admittedCompatible).symm

/-- All rules that stood at the origin stand, followed by rules that were
admissible there. -/
def Extends (base : Facts) (origin state : State) : Prop :=
  ∃ fresh, state.standing = origin.standing ++ fresh ∧
    ∀ candidate ∈ fresh, candidate ∈ origin.admissible (origin.closure base)

theorem extends_promote (base : Facts) (origin : State) :
    Extends base origin (origin.promote (origin.closure base)) :=
  ⟨_, rfl, fun _ isAdmissible => isAdmissible⟩

theorem Extends.stands
    (extension : Extends base origin state) {candidate : Candidate}
    (stood : candidate ∈ origin.standing) : candidate ∈ state.standing := by
  obtain ⟨fresh, sameStanding, _⟩ := extension
  rw [sameStanding]
  exact List.mem_append_left fresh stood

theorem Extends.origin_within (extension : Extends base origin state) :
    (origin.closure base).Within (state.closure base) :=
  closure_within_iff.2 ⟨base_within_closure base state,
    fun _ stood => consequence_within_closure (extension.stands stood)⟩

theorem Extends.within_promote (extension : Extends base origin state) :
    (state.closure base).Within
      ((origin.promote (origin.closure base)).closure base) := by
  obtain ⟨fresh, sameStanding, freshAdmissible⟩ := extension
  refine closure_within_iff.2 ⟨base_within_closure base _, ?_⟩
  intro candidate stands
  apply consequence_within_closure
  rw [sameStanding] at stands
  rcases List.mem_append.1 stands with stood | isFresh
  · exact List.mem_append_left _ stood
  · exact List.mem_append_right _ (freshAdmissible candidate isFresh)

theorem Extends.fits_of_positive
    (extension : Extends base origin state) (settled : origin.Settled base)
    {candidate : Candidate} (stood : candidate ∈ origin.standing)
    (positive : candidate.rule.trigger.Positive) :
    candidate.Fits (state.closure base) := by
  have fitted := Candidate.fits_iff.1 (settled candidate stood)
  refine Candidate.fits_iff.2 ⟨?_, ?_⟩
  · exact positive.holds_of_within extension.origin_within fitted.1
  · exact Facts.compatible_of_holds_imp extension.within_promote
      (settled.compatible_closure_promote stood)

theorem Extends.withdraw
    (extension : Extends base origin state)
    (kept : ∀ candidate ∈ origin.standing,
      candidate.Fits (state.closure base)) :
    Extends base origin (state.withdraw (state.closure base)) := by
  obtain ⟨fresh, sameStanding, freshAdmissible⟩ := extension
  refine ⟨fresh.filter fun candidate => candidate.Fits (state.closure base),
    ?_, ?_⟩
  · rw [State.withdraw, sameStanding, List.filter_append,
      filter_fits_eq_self kept]
  · intro candidate isFresh
    exact freshAdmissible candidate (List.mem_filter.1 isFresh).1

/-- Settling keeps the rules that stood before the round, as long as all that
are withdrawn have positive triggers. -/
theorem Extends.settle
    (extension : Extends base origin state) (settled : origin.Settled base)
    (withdrawnPositive : ∀ candidate ∈ (state.settle base).state.withdrawn,
      candidate.rule.trigger.Positive) :
    Extends base origin (state.settle base).state := by
  fun_induction State.settle base state with
  | case1 => exact extension
  | case2 state facts someStale rest inductionHypothesis =>
      refine inductionHypothesis (extension.withdraw ?_) withdrawnPositive
      intro candidate stood
      by_cases fits : candidate.Fits facts
      · exact fits
      · -- The rule would be withdrawn, so its trigger is positive.  But then
        -- the new facts do not upset it.
        have isWithdrawn :
            candidate.review facts ∈ (state.withdraw facts).withdrawn :=
          mem_withdrawn_withdraw_iff.2
            (Or.inr ⟨candidate, extension.stands stood, fits, rfl⟩)
        have positive := withdrawnPositive _
          ((reaches_settle base _).withdrawn_subset isWithdrawn)
        rw [Candidate.rule_review] at positive
        exact extension.fits_of_positive settled stood positive

theorem Extends.founded
    (extension : Extends base origin state)
    (founded : Founded base (origin.standing.map Candidate.rule)) :
    Founded base (state.standing.map Candidate.rule) := by
  obtain ⟨fresh, sameStanding, freshAdmissible⟩ := extension
  rw [sameStanding, List.map_append]
  refine founded_append.2 ⟨founded, ?_⟩
  rw [List.map_map]
  apply founded_of_triggered (Facts.Within.refl _)
  rw [List.forall_mem_map]
  intro candidate isFresh
  exact (Candidate.fits_iff.1
    (mem_admissible_iff.1 (freshAdmissible candidate isFresh)).2).1

theorem founded_rest
    (settled : state.Settled base)
    (founded : Founded base (state.standing.map Candidate.rule))
    (withdrawnPositive : ∀ candidate ∈ (state.rest base).withdrawn,
      candidate.rule.trigger.Positive) :
    Founded base ((state.rest base).standing.map Candidate.rule) := by
  fun_induction State.rest base state with
  | case1 => exact founded
  | case2 state someAdmissible inductionHypothesis =>
      have extension : Extends base state (state.afterRound base) := by
        apply (extends_promote base state).settle settled
        intro candidate isWithdrawn
        exact withdrawnPositive candidate
          ((reaches_rest base _).withdrawn_subset isWithdrawn)
      exact inductionHypothesis (settled_afterRound base state)
        (extension.founded founded) withdrawnPositive

end State

/-! ## Main results -/

/-- In order of admission, the rules that stand and those that were withdrawn
are a derivation.  The rules that stand are one by themselves if every withdrawn
rule has a positive trigger. -/
theorem admissions_founded (base : Facts) (rules : List Rule) :
    (Run.ofRules base rules).admissions.Perm
        ((resolve base rules).standing ++ (resolve base rules).withdrawn) ∧
      Founded base (rulesAt rules (Run.ofRules base rules).admissions) ∧
      ((∀ id ∈ (resolve base rules).withdrawn, ∀ rule ∈ rules[id.index]?,
          rule.trigger.Positive) →
        Founded base (rulesAt rules (resolve base rules).standing)) := by
  refine ⟨admissions_perm base rules, ?_, fun withdrawnPositive => ?_⟩
  · have founded :
        Founded base ([] ++ rulesAt rules (Run.ofRules base rules).admissions) :=
      State.founded_admissions_saturate Relation.ReflTransGen.refl trivial
        (Facts.Within.refl _)
    rw [List.nil_append] at founded
    exact founded
  · have listed : ∀ candidate ∈ (State.atRest base rules).standing,
        rules[candidate.id.index]? = some candidate.rule :=
      fun _ stands => State.getElem?_of_mem_members .standing stands
    rw [standing_resolve, rulesAt_map_id listed]
    apply State.founded_rest (State.settled_start base rules) trivial
    intro candidate isWithdrawn
    exact withdrawnPositive candidate.id
      ((mem_withdrawn_resolve_iff base rules).2 ⟨candidate, isWithdrawn, rfl⟩)
      candidate.rule (State.getElem?_of_mem_members .withdrawn isWithdrawn)

theorem admissions_founded_quarrel :
    (∀ id ∈ (resolve (.ofIs [⟨0⟩]) quarrel).withdrawn,
        ∀ rule ∈ quarrel[id.index]?, rule.trigger.Positive) ∧
      (resolve (.ofIs [⟨0⟩]) quarrel).withdrawn = [⟨0⟩, ⟨1⟩] ∧
      Founded (.ofIs [⟨0⟩])
        (rulesAt quarrel (resolve (.ofIs [⟨0⟩]) quarrel).standing) := by
  have withdrawn :
      (resolve (.ofIs [⟨0⟩]) quarrel).withdrawn = [⟨0⟩, ⟨1⟩] := by
    decide +kernel
  have withdrawnPositive :
      ∀ id ∈ (resolve (.ofIs [⟨0⟩]) quarrel).withdrawn,
        ∀ rule ∈ quarrel[id.index]?, rule.trigger.Positive := by
    rw [withdrawn]
    decide
  exact ⟨withdrawnPositive, withdrawn,
    (admissions_founded (.ofIs [⟨0⟩]) quarrel).2.2 withdrawnPositive⟩

/-- The first rule gives the second its ground.  The third takes the first one's
place with the second, and upsets it. -/
def usurpers : List Rule :=
  [⟨⟨true, .single ⟨3⟩⟩, [⟨.is, ⟨1⟩⟩]⟩,
    ⟨⟨false, .single ⟨1⟩⟩, [⟨.is, ⟨2⟩⟩]⟩,
    ⟨⟨false, .single ⟨2⟩⟩, [⟨.is, ⟨1⟩⟩, ⟨.is, ⟨3⟩⟩]⟩]

/-- The second and the third rule stand, each on the other alone: neither could
come first. -/
theorem standing_unfounded :
    ¬∃ sequence, sequence.Perm (resolve ∅ usurpers).standing ∧
      Founded ∅ (rulesAt usurpers sequence) := by
  have standing : (resolve ∅ usurpers).standing = [⟨1⟩, ⟨2⟩] := by
    decide +kernel
  rw [standing]
  rintro ⟨sequence, rearranged, founded⟩
  cases sequence with
  | nil => exact absurd rearranged.length_eq (by decide)
  | cons first later =>
      have isFirst : first ∈ [⟨1⟩, ⟨2⟩] :=
        rearranged.mem_iff.1 List.mem_cons_self
      rcases List.mem_cons.1 isFirst with rfl | isFirst
      · exact absurd (founded.1 (by decide)) (by decide)
      · cases List.mem_singleton.1 isFirst
        exact absurd (founded.1 (by decide)) (by decide)

/-- Before it was withdrawn, the first rule came first. -/
example :
    Founded ∅ (rulesAt usurpers (Run.ofRules ∅ usurpers).admissions) := by
  decide +kernel

end ConceptRules
