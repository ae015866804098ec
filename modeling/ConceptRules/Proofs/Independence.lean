import ConceptRules.Proofs.Selection

/-!
# Rules that have nothing to do with each other

A rule looks at the concepts that it mentions and at no others
(`Rule.appraise_eq_of_agree`).  So two rule lists, each with a base, that have
no concept in common can be put together in one list without either noticing:
every rule meets the fate that it meets among its own, and the closure is that
of the one with that of the other.  One part may be at rest while the other goes
on; the rounds are those of the part that takes longer.
-/

namespace ConceptRules

/-! ## What a rule looks at -/

theorem Group.found_eq_of_agree
    {group : Group} {left right : ConceptSet}
    (agree : ∀ concept ∈ group.members, concept ∈ left ↔ concept ∈ right) :
    group.found left = group.found right := by
  apply List.filter_congr
  intro concept member
  exact decide_eq_decide.2 (agree concept member)

theorem Group.lacking_eq_of_agree
    {group : Group} {left right : ConceptSet}
    (agree : ∀ concept ∈ group.members, concept ∈ left ↔ concept ∈ right) :
    group.lacking left = group.lacking right := by
  apply List.filter_congr
  intro concept member
  exact decide_eq_decide.2 (not_congr (agree concept member))

theorem Trigger.verdict_eq_of_agree
    {trigger : Trigger} {left right : ConceptSet}
    (agree : ∀ concept ∈ trigger.pattern.concepts,
      concept ∈ left ↔ concept ∈ right) :
    trigger.verdict left = trigger.verdict right := by
  obtain ⟨negated, pattern⟩ := trigger
  cases pattern with
  | single concept =>
      have samePresence : concept ∈ left ↔ concept ∈ right :=
        agree concept List.mem_cons_self
      simp only [verdict, samePresence]
  | grouped group =>
      have sameFound : group.found left = group.found right :=
        Group.found_eq_of_agree agree
      have sameLacking : group.lacking left = group.lacking right :=
        Group.lacking_eq_of_agree agree
      have sameTruth : group.isSatisfied left = group.isSatisfied right := by
        rw [Group.isSatisfied, Group.isSatisfied, sameFound, sameLacking]
      have sameGap : group.gap negated left = group.gap negated right := by
        unfold Group.gap
        rw [sameFound, sameLacking]
      simp only [verdict, sameTruth, sameGap]

theorem Facts.clash_eq_of_agree
    {left right candidate : Facts}
    (sameAsserted : ∀ concept, candidate.Holds .isnt concept →
      (left.Holds .is concept ↔ right.Holds .is concept))
    (sameDenied : ∀ concept, candidate.Holds .is concept →
      (left.Holds .isnt concept ↔ right.Holds .isnt concept)) :
    left.clash candidate = right.clash candidate := by
  have asserted : left.is ∩ candidate.isnt = right.is ∩ candidate.isnt := by
    ext concept
    rw [ConceptSet.mem_inter, ConceptSet.mem_inter]
    exact and_congr_left (sameAsserted concept)
  have denied : left.isnt ∩ candidate.is = right.isnt ∩ candidate.is := by
    ext concept
    rw [ConceptSet.mem_inter, ConceptSet.mem_inter]
    exact and_congr_left (sameDenied concept)
  rw [clash, clash, asserted, denied]

theorem Facts.merge_comm (left right : Facts) :
    left.merge right = right.merge left := by
  apply ext_of_holds
  intro verb concept
  rw [holds_merge, holds_merge, or_comm]

/-- A rule appraises facts by the concepts that it mentions. -/
theorem Rule.appraise_eq_of_agree
    {rule : Rule} {left right : Facts}
    (agree : ∀ concept ∈ rule.concepts, ∀ verb,
      left.Holds verb concept ↔ right.Holds verb concept) :
    rule.appraise left = rule.appraise right := by
  have sameVerdict :
      rule.trigger.verdict left.is = rule.trigger.verdict right.is := by
    apply Trigger.verdict_eq_of_agree
    intro concept asked
    exact agree concept (List.mem_append_left _ asked) .is
  have sameClash :
      left.clash rule.consequence = right.clash rule.consequence := by
    apply Facts.clash_eq_of_agree
    · intro concept denied
      exact agree concept (mem_concepts_of_holds denied) .is
    · intro concept asserted
      exact agree concept (mem_concepts_of_holds asserted) .isnt
  have sameFit :
      left.Compatible rule.consequence ↔ right.Compatible rule.consequence := by
    rw [Facts.Compatible, Facts.Compatible, sameClash]
  rw [appraise, appraise, sameVerdict]
  cases rule.trigger.verdict right.is with
  | holds => simp only [sameFit, sameClash]
  | fails gap => rfl

/-! ## Topics -/

/-- The concepts that the facts mention. -/
def Facts.concepts (facts : Facts) : List ConceptId :=
  Verb.all.flatMap fun verb => (facts.pick verb).toList

/-- The concepts that a base or some rule mentions. -/
def topics (base : Facts) (rules : List Rule) : List ConceptId :=
  base.concepts ++ rules.flatMap Rule.concepts

theorem Facts.mem_concepts_of_holds
    {facts : Facts} {verb : Verb} {concept : ConceptId}
    (holds : facts.Holds verb concept) : concept ∈ facts.concepts := by
  refine List.mem_flatMap.2 ⟨verb, ?_, holds⟩
  cases verb <;> decide

theorem mem_topics_of_mem_rule
    {base : Facts} {rules : List Rule} {rule : Rule} {concept : ConceptId}
    (isRule : rule ∈ rules) (mentioned : concept ∈ rule.concepts) :
    concept ∈ topics base rules :=
  List.mem_append_right _ (List.mem_flatMap.2 ⟨rule, isRule, mentioned⟩)

namespace State

variable
  {base ownBase otherBase : Facts} {rules : List Rule}
  {chosen : RuleId → Bool} {state : State}

theorem rule_mem_chosenRules
    (reached : Reaches base (start rules) state) (stage : Stage)
    {candidate : Candidate} (member : candidate ∈ state.members stage)
    (isChosen : chosen candidate.id = true) :
    candidate.rule ∈ chosenRules chosen rules :=
  List.mem_of_getElem? (getElem?_chosenRules isChosen
    (reached.getElem?_of_mem stage member))

/-- The closure of a state is put together from that of the chosen rules and
that of the others. -/
theorem closure_eq_merge
    (chosen : RuleId → Bool) (ownBase otherBase : Facts) (state : State) :
    state.closure (ownBase.merge otherBase) =
      ((state.only chosen).closure ownBase).merge
        ((state.only fun id => !chosen id).closure otherBase) := by
  apply Facts.ext_of_holds
  intro verb concept
  rw [Facts.holds_merge, holds_closure_iff, holds_closure_iff,
    holds_closure_iff, Facts.holds_merge]
  constructor
  · rintro ((own | other) | ⟨candidate, stands, states⟩)
    · exact Or.inl (Or.inl own)
    · exact Or.inr (Or.inl other)
    · cases isChosen : chosen candidate.id with
      | true =>
          have isOwn : candidate.among chosen ∈ (state.only chosen).standing :=
            mem_onlyChosen_iff.2 ⟨candidate, stands, isChosen, rfl⟩
          exact Or.inl (Or.inr ⟨_, isOwn, states⟩)
      | false =>
          have isOther :
              candidate.among (fun id => !chosen id) ∈
                (state.only fun id => !chosen id).standing :=
            mem_onlyChosen_iff.2 ⟨candidate, stands, by simp [isChosen], rfl⟩
          exact Or.inr (Or.inr ⟨_, isOther, states⟩)
  · rintro ((own | ⟨_, stands, states⟩) | (other | ⟨_, stands, states⟩))
    · exact Or.inl (Or.inl own)
    · obtain ⟨candidate, stood, _, rfl⟩ := mem_onlyChosen_iff.1 stands
      exact Or.inr ⟨candidate, stood, states⟩
    · exact Or.inl (Or.inr other)
    · obtain ⟨candidate, stood, _, rfl⟩ := mem_onlyChosen_iff.1 stands
      exact Or.inr ⟨candidate, stood, states⟩

/-- What the chosen rules make hold is among their topics. -/
theorem mem_topics_of_holds_closure_only
    (reached : Reaches base (start rules) state)
    {verb : Verb} {concept : ConceptId}
    (holds : ((state.only chosen).closure ownBase).Holds verb concept) :
    concept ∈ topics ownBase (chosenRules chosen rules) := by
  rcases holds_closure_iff.1 holds with own | ⟨candidate, stands, states⟩
  · exact List.mem_append_left _ (Facts.mem_concepts_of_holds own)
  · obtain ⟨original, stood, isChosen, rfl⟩ := mem_onlyChosen_iff.1 stands
    exact mem_topics_of_mem_rule
      (rule_mem_chosenRules reached .standing stood isChosen)
      (Rule.mem_concepts_of_holds states)

section Unrelated

variable
  (unrelated : ∀ concept ∈ topics ownBase (chosenRules chosen rules),
    concept ∉ topics otherBase (chosenRules (fun id => !chosen id) rules))

include unrelated

/-- The chosen rules do not see what the others make hold. -/
theorem appraise_only_closure
    (reached : Reaches (ownBase.merge otherBase) (start rules) state)
    (stage : Stage) {candidate : Candidate}
    (member : candidate ∈ state.members stage)
    (isChosen : chosen candidate.id = true) :
    candidate.rule.appraise ((state.only chosen).closure ownBase) =
      candidate.rule.appraise (state.closure (ownBase.merge otherBase)) := by
  apply Rule.appraise_eq_of_agree
  intro concept mentioned verb
  rw [closure_eq_merge chosen, Facts.holds_merge]
  constructor
  · exact Or.inl
  · rintro (own | other)
    · exact own
    · have ownTopic : concept ∈ topics ownBase (chosenRules chosen rules) :=
        mem_topics_of_mem_rule (rule_mem_chosenRules reached stage member isChosen)
          mentioned
      have otherTopic := mem_topics_of_holds_closure_only reached other
      exact absurd otherTopic (unrelated concept ownTopic)

theorem only_afterRound
    (reached : Reaches (ownBase.merge otherBase) (start rules) state) :
    (state.afterRound (ownBase.merge otherBase)).only chosen =
      (state.only chosen).afterRound ownBase := by
  have promoted :
      (state.promote (state.closure (ownBase.merge otherBase))).only chosen =
        (state.only chosen).promote ((state.only chosen).closure ownBase) :=
    only_promote fun candidate pends isChosen =>
      appraise_only_closure unrelated reached .pending pends isChosen
  rw [afterRound, afterRound, ← promoted]
  refine only_settle (Reaches (ownBase.merge otherBase) (start rules)) ?_ ?_ ?_
  · intro earlier reachedEarlier
    exact reachedEarlier.tail Move.withdraw
  · intro earlier reachedEarlier candidate stands isChosen
    exact appraise_only_closure unrelated reachedEarlier .standing stands
      isChosen
  · exact reached.tail Move.promote

/-- After any number of rounds the chosen rules are where they would be by
themselves. -/
theorem only_iterate (count : Nat) :
    ((afterRound (ownBase.merge otherBase))^[count] (start rules)).only
        chosen =
      (afterRound ownBase)^[count] (start (chosenRules chosen rules)) := by
  induction count with
  | zero => exact only_start chosen rules
  | succ count inductionHypothesis =>
      rw [Function.iterate_succ_apply', Function.iterate_succ_apply',
        ← inductionHypothesis]
      exact only_afterRound unrelated (reaches_iterate _ _ count)

/-- The chosen rules are at rest by themselves once none of them is admissible
in the whole. -/
theorem length_rounds_chosen_le_iff (count : Nat) :
    ((start (chosenRules chosen rules)).saturate ownBase).rounds.length ≤
        count + 1 ↔
      onlyChosen chosen
        (((afterRound (ownBase.merge otherBase))^[count]
            (start rules)).admissible
          (((afterRound (ownBase.merge otherBase))^[count]
            (start rules)).closure (ownBase.merge otherBase))) = [] := by
  have reached :
      Reaches (ownBase.merge otherBase) (start rules)
        ((afterRound (ownBase.merge otherBase))^[count] (start rules)) :=
    reaches_iterate _ _ count
  rw [(settled_start ownBase _).length_rounds_le_iff, ← only_iterate unrelated,
    onlyChosen_admissible fun candidate pends isChosen =>
      appraise_only_closure unrelated reached .pending pends isChosen]

/-- The rules that are over early come to the same end in the whole. -/
theorem last_only_of_unrelated
    (enough :
      ((start (chosenRules chosen rules)).saturate ownBase).rounds.length ≤
        ((start rules).saturate (ownBase.merge otherBase)).rounds.length) :
    ((start rules).saturate (ownBase.merge otherBase)).last.only chosen =
      ((start (chosenRules chosen rules)).saturate ownBase).last := by
  rw [(settled_start _ rules).last_eq_iterate (Nat.le_refl _),
    (settled_start ownBase _).last_eq_iterate enough, only_iterate unrelated]

end Unrelated

end State

section Unrelated

variable
  {ownBase otherBase : Facts} {rules : List Rule} {chosen : RuleId → Bool}
  (unrelated : ∀ concept ∈ topics ownBase (chosenRules chosen rules),
    concept ∉ topics otherBase (chosenRules (fun id => !chosen id) rules))

include unrelated

theorem unrelated_symm :
    ∀ concept ∈ topics otherBase (chosenRules (fun id => !chosen id) rules),
      concept ∉
        topics ownBase (chosenRules (fun id => !(!chosen id)) rules) := by
  simp only [Bool.not_not]
  intro concept otherTopic ownTopic
  exact unrelated concept ownTopic otherTopic

theorem rounds_resolve_of_unrelated :
    (resolve (ownBase.merge otherBase) rules).rounds =
      max (resolve ownBase (chosenRules chosen rules)).rounds
        (resolve otherBase
          (chosenRules (fun id => !chosen id) rules)).rounds := by
  apply eq_of_forall_ge_iff
  intro bound
  cases bound with
  | zero =>
      have someRound :=
        State.length_rounds_pos (ownBase.merge otherBase) (State.start rules)
      have ownRound :=
        State.length_rounds_pos ownBase
          (State.start (chosenRules chosen rules))
      refine iff_of_false (Nat.not_le_of_gt someRound) ?_
      exact Nat.not_le_of_gt (Nat.lt_of_lt_of_le ownRound (Nat.le_max_left _ _))
  | succ count =>
      have ownOver := State.length_rounds_chosen_le_iff unrelated count
      have otherOver :=
        State.length_rounds_chosen_le_iff (unrelated_symm unrelated) count
      rw [Facts.merge_comm otherBase ownBase] at otherOver
      change
        ((State.start rules).saturate (ownBase.merge otherBase)).rounds.length ≤
            count + 1 ↔
          _
      rw [(State.settled_start _ rules).length_rounds_le_iff,
        eq_nil_iff_onlyChosen_eq_nil chosen, ← ownOver, ← otherOver, Nat.max_le]
      exact Iff.rfl

theorem last_only_eq_of_unrelated :
    (Run.ofRules (ownBase.merge otherBase) rules).last.only chosen =
      (Run.ofRules ownBase (chosenRules chosen rules)).last := by
  apply State.last_only_of_unrelated unrelated
  have longest := rounds_resolve_of_unrelated unrelated
  exact Nat.le_trans (Nat.le_max_left _ _) (Nat.le_of_eq longest.symm)

/-- The chosen rules are reported as if they were alone. -/
theorem sameReport_of_unrelated
    {id : RuleId} (isChosen : chosen id = true) :
    SameReport (resolve (ownBase.merge otherBase) rules) id
      (resolve ownBase (chosenRules chosen rules)) (id.among chosen) := by
  have sameLast := last_only_eq_of_unrelated unrelated
  refine sameReport_of_last_only_eq sameLast ?_ isChosen
  intro candidate pends candidateChosen
  rw [closure_resolve_eq_closure_last, closure_resolve_eq_closure_last,
    ← sameLast]
  exact State.appraise_only_closure unrelated (State.reaches_last _ rules)
    .pending pends candidateChosen

theorem closure_resolve_of_unrelated :
    (resolve (ownBase.merge otherBase) rules).closure =
      (resolve ownBase (chosenRules chosen rules)).closure.merge
        (resolve otherBase
          (chosenRules (fun id => !chosen id) rules)).closure := by
  have sameLast := last_only_eq_of_unrelated unrelated
  have otherLast := last_only_eq_of_unrelated (unrelated_symm unrelated)
  rw [Facts.merge_comm otherBase ownBase] at otherLast
  rw [closure_resolve_eq_closure_last, closure_resolve_eq_closure_last,
    closure_resolve_eq_closure_last, ← sameLast, ← otherLast]
  exact State.closure_eq_merge chosen ownBase otherBase _

end Unrelated

/-! ## Main result -/

/-- Two lists of rules are put together in one, each in its own order, with
their bases merged.  If they have no concept in common, then the closure is that
of the one with that of the other, the rounds are those of the longer
resolution, and each rule is reported as in its own list. -/
theorem resolve_unrelated
    {leftBase rightBase : Facts} {left right rules : List Rule}
    {isLeft : RuleId → Bool}
    (leftRules : chosenRules isLeft rules = left)
    (rightRules : chosenRules (fun id => !isLeft id) rules = right)
    (unrelated :
      ∀ concept ∈ topics leftBase left, concept ∉ topics rightBase right) :
    (resolve (leftBase.merge rightBase) rules).closure =
        (resolve leftBase left).closure.merge
          (resolve rightBase right).closure ∧
      (resolve (leftBase.merge rightBase) rules).rounds =
        max (resolve leftBase left).rounds (resolve rightBase right).rounds ∧
      ∀ id : RuleId, ∀ rule ∈ rules[id.index]?,
        if isLeft id then
          left[(id.among isLeft).index]? = some rule ∧
            SameReport (resolve (leftBase.merge rightBase) rules) id
              (resolve leftBase left) (id.among isLeft)
        else
          right[(id.among fun id => !isLeft id).index]? = some rule ∧
            SameReport (resolve (leftBase.merge rightBase) rules) id
              (resolve rightBase right) (id.among fun id => !isLeft id) := by
  subst leftRules rightRules
  refine ⟨closure_resolve_of_unrelated unrelated,
    rounds_resolve_of_unrelated unrelated, ?_⟩
  intro id rule listed
  split
  case isTrue isChosen =>
    exact ⟨getElem?_chosenRules isChosen listed,
      sameReport_of_unrelated unrelated isChosen⟩
  case isFalse notChosen =>
    have isOther : (!isLeft id) = true := by
      rw [Bool.not_eq_true']
      exact Bool.eq_false_iff.2 notChosen
    have otherReport :=
      sameReport_of_unrelated (unrelated_symm unrelated) isOther
    rw [Facts.merge_comm rightBase leftBase] at otherReport
    exact ⟨getElem?_chosenRules isOther listed, otherReport⟩

/-- A chain of two rules, listed backwards. -/
def relay : List Rule :=
  [⟨⟨false, .single ⟨5⟩⟩, [⟨.is, ⟨6⟩⟩]⟩,
    ⟨⟨false, .single ⟨4⟩⟩, [⟨.is, ⟨5⟩⟩]⟩]

/-- The quarrel at the even places, and the relay in between. -/
def quarrelAndRelay : List Rule :=
  [quarrel[0], relay[0], quarrel[1], relay[1], quarrel[2]]

/-- The quarrel is over after two rounds, and the relay after three. -/
theorem resolve_unrelated_quarrelAndRelay :
    (∀ concept ∈ topics (.ofIs [⟨0⟩]) quarrel,
        concept ∉ topics (.ofIs [⟨4⟩]) relay) ∧
      (resolve ((Facts.ofIs [⟨0⟩]).merge (.ofIs [⟨4⟩])) quarrelAndRelay).rounds =
        max (resolve (.ofIs [⟨0⟩]) quarrel).rounds
          (resolve (.ofIs [⟨4⟩]) relay).rounds ∧
      SameReport
        (resolve ((Facts.ofIs [⟨0⟩]).merge (.ofIs [⟨4⟩])) quarrelAndRelay) ⟨2⟩
        (resolve (.ofIs [⟨0⟩]) quarrel) ⟨1⟩ := by
  have quarrelPlaces :
      chosenRules (fun id => id.index % 2 == 0) quarrelAndRelay = quarrel := by
    decide +kernel
  have relayPlaces :
      chosenRules (fun id => !(id.index % 2 == 0)) quarrelAndRelay = relay := by
    decide +kernel
  have unrelated :
      ∀ concept ∈ topics (.ofIs [⟨0⟩]) quarrel,
        concept ∉ topics (.ofIs [⟨4⟩]) relay := by
    decide +kernel
  obtain ⟨_, sameRounds, reports⟩ :=
    resolve_unrelated quarrelPlaces relayPlaces unrelated
  exact ⟨unrelated, sameRounds, (reports ⟨2⟩ quarrel[1] rfl).2⟩

end ConceptRules
