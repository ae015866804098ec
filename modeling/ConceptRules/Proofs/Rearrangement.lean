import ConceptRules.Proofs.Accounting
import ConceptRules.Proofs.Lockstep

/-!
# Order and repetition of rules

What becomes of a rule depends on the rule and on the set of all rules, but
neither on its place in the list nor on how often it is listed: every move reads
all rules against one closure, and a closure does not tell in which order it was
put together.  So the states of a resolution are described by the fate of each
rule (`State.Follows`), and lists of the same rules give states of the same
fates.
-/

namespace ConceptRules

/-! ## Fates -/

/-- The stage of a rule and the gap last noted for it. -/
structure Fate where
  stage : Stage
  gap : Option Gap
  deriving DecidableEq

namespace Fate

def promote (facts : Facts) (rule : Rule) : Fate → Fate
  | ⟨.pending, gap⟩ =>
      if rule.appraise facts = .fits then
        ⟨.standing, gap⟩
      else
        ⟨.pending, rule.noted facts gap⟩
  | ⟨.standing, gap⟩ => ⟨.standing, gap⟩
  | ⟨.withdrawn, gap⟩ => ⟨.withdrawn, gap⟩

def withdraw (facts : Facts) (rule : Rule) : Fate → Fate
  | ⟨.pending, gap⟩ => ⟨.pending, gap⟩
  | ⟨.standing, gap⟩ =>
      if rule.appraise facts = .fits then
        ⟨.standing, gap⟩
      else
        ⟨.withdrawn, rule.noted facts gap⟩
  | ⟨.withdrawn, gap⟩ => ⟨.withdrawn, gap⟩

end Fate

namespace State

variable {base facts : Facts} {state left right : State} {fate : Rule → Fate}

/-- Every candidate has met the fate of its rule. -/
def Follows (state : State) (fate : Rule → Fate) : Prop :=
  ∀ stage, ∀ candidate ∈ state.members stage,
    fate candidate.rule = ⟨stage, candidate.gap⟩

theorem follows_start (rules : List Rule) :
    (start rules).Follows fun _ => ⟨.pending, none⟩ := by
  intro stage candidate member
  obtain ⟨isPending, noGap, _⟩ := mem_members_start.1 member
  rw [isPending, noGap]

theorem Follows.promote (follows : state.Follows fate) :
    (state.promote facts).Follows fun rule =>
      (fate rule).promote facts rule := by
  intro stage candidate member
  change (fate candidate.rule).promote facts candidate.rule = _
  cases stage with
  | pending =>
      obtain ⟨earlier, pends, notFits, rfl⟩ := mem_pending_promote_iff.1 member
      have earlierFate := follows .pending earlier pends
      rw [Candidate.rule_review, earlierFate, Candidate.gap_review]
      exact if_neg notFits
  | standing =>
      rcases mem_standing_promote_iff.1 member with stands | ⟨pends, fits⟩
      · have earlierFate := follows .standing candidate stands
        rw [earlierFate, Fate.promote]
      · have earlierFate := follows .pending candidate pends
        rw [earlierFate]
        exact if_pos fits
  | withdrawn =>
      have earlierFate := follows .withdrawn candidate member
      rw [earlierFate, Fate.promote]

theorem Follows.withdraw (follows : state.Follows fate) :
    (state.withdraw facts).Follows fun rule =>
      (fate rule).withdraw facts rule := by
  intro stage candidate member
  change (fate candidate.rule).withdraw facts candidate.rule = _
  cases stage with
  | pending =>
      have earlierFate := follows .pending candidate member
      rw [earlierFate, Fate.withdraw]
  | standing =>
      obtain ⟨stands, fits⟩ := mem_standing_withdraw_iff.1 member
      have earlierFate := follows .standing candidate stands
      rw [earlierFate]
      exact if_pos fits
  | withdrawn =>
      rcases mem_withdrawn_withdraw_iff.1 member with
        isWithdrawn | ⟨earlier, stands, notFits, rfl⟩
      · have earlierFate := follows .withdrawn candidate isWithdrawn
        rw [earlierFate, Fate.withdraw]
      · have earlierFate := follows .standing earlier stands
        rw [Candidate.rule_review, earlierFate, Candidate.gap_review]
        exact if_neg notFits

/-- A rule of the roster is found at the stage of its fate. -/
theorem Follows.exists_member
    (follows : state.Follows fate) {id : RuleId} {rule : Rule}
    (enrolled : (id, rule) ∈ state.roster) :
    ∃ candidate ∈ state.members (fate rule).stage,
      candidate.id = id ∧ candidate.rule = rule ∧
        candidate.gap = (fate rule).gap := by
  obtain ⟨stage, candidate, member, rfl, rfl⟩ := mem_roster_iff.1 enrolled
  have itsFate := follows stage candidate member
  rw [itsFate]
  exact ⟨candidate, member, rfl, rfl, rfl⟩

/-! ## States of the same fates -/

/-- Both states have the same rules, and each rule has one fate in both. -/
structure Alike (left right : State) : Prop where
  sameRules : ∀ rule,
    (∃ id, (id, rule) ∈ left.roster) ↔ ∃ id, (id, rule) ∈ right.roster
  sameFates : ∃ fate, left.Follows fate ∧ right.Follows fate

theorem Alike.symm (alike : Alike left right) : Alike right left := by
  obtain ⟨fate, leftFollows, rightFollows⟩ := alike.sameFates
  exact ⟨fun rule => (alike.sameRules rule).symm,
    fate, rightFollows, leftFollows⟩

theorem Alike.exists_member
    (alike : Alike left right) {stage : Stage} {candidate : Candidate}
    (member : candidate ∈ left.members stage) :
    ∃ other ∈ right.members stage, other.rule = candidate.rule := by
  obtain ⟨fate, leftFollows, rightFollows⟩ := alike.sameFates
  have enrolled : ∃ id, (id, candidate.rule) ∈ left.roster :=
    ⟨candidate.id, mem_roster_iff.2 ⟨stage, candidate, member, rfl, rfl⟩⟩
  obtain ⟨id, otherEnrolled⟩ := (alike.sameRules candidate.rule).1 enrolled
  obtain ⟨other, otherMember, _, sameRule, _⟩ :=
    rightFollows.exists_member otherEnrolled
  rw [leftFollows stage candidate member] at otherMember
  exact ⟨other, otherMember, sameRule⟩

theorem Alike.forall_iff
    (alike : Alike left right) (stage : Stage) (property : Rule → Prop) :
    (∀ candidate ∈ left.members stage, property candidate.rule) ↔
      ∀ candidate ∈ right.members stage, property candidate.rule := by
  constructor
  · intro allHave candidate member
    obtain ⟨other, otherMember, sameRule⟩ := alike.symm.exists_member member
    rw [← sameRule]
    exact allHave other otherMember
  · intro allHave candidate member
    obtain ⟨other, otherMember, sameRule⟩ := alike.exists_member member
    rw [← sameRule]
    exact allHave other otherMember

theorem Alike.closure_eq (alike : Alike left right) :
    left.closure base = right.closure base := by
  apply Facts.ext_of_holds
  intro verb concept
  rw [holds_closure_iff, holds_closure_iff]
  have sameSilence := alike.forall_iff .standing fun rule =>
    ¬rule.consequence.Holds verb concept
  have sameStatements := not_congr sameSilence
  simp only [not_forall, Decidable.not_not, exists_prop] at sameStatements
  exact or_congr_right sameStatements

theorem Alike.promote
    (alike : Alike left right) :
    Alike (left.promote facts) (right.promote facts) := by
  obtain ⟨fate, leftFollows, rightFollows⟩ := alike.sameFates
  refine ⟨?_, _, leftFollows.promote, rightFollows.promote⟩
  intro rule
  simp only [(roster_promote_perm _ facts).mem_iff]
  exact alike.sameRules rule

theorem Alike.withdraw
    (alike : Alike left right) :
    Alike (left.withdraw facts) (right.withdraw facts) := by
  obtain ⟨fate, leftFollows, rightFollows⟩ := alike.sameFates
  refine ⟨?_, _, leftFollows.withdraw, rightFollows.withdraw⟩
  intro rule
  simp only [(roster_withdraw_perm _ facts).mem_iff]
  exact alike.sameRules rule

theorem barred_eq_nil_iff :
    state.barred facts = [] ↔
      ∀ candidate ∈ state.members .pending, ∀ clash,
        candidate.rule.appraise facts ≠ .barred clash := by
  rw [List.eq_nil_iff_forall_not_mem]
  constructor
  · intro noneBarred candidate pends clash appraised
    exact noneBarred (candidate.id, clash)
      (mem_barred_iff.2 ⟨candidate, pends, rfl, appraised⟩)
  · intro noneAppraised entry isBarred
    obtain ⟨candidate, pends, _, appraised⟩ := mem_barred_iff.1 isBarred
    exact noneAppraised candidate pends entry.2 appraised

theorem lockstep_alike (base : Facts) : Lockstep base base Alike where
  promote := by
    intro left right alike
    rw [alike.closure_eq]
    exact alike.promote
  withdraw := by
    intro left right alike
    rw [alike.closure_eq]
    exact alike.withdraw
  admissible_iff := by
    intro left right alike
    rw [admissible_eq_nil_iff, admissible_eq_nil_iff, alike.closure_eq]
    exact alike.forall_iff .pending fun rule =>
      ¬rule.appraise (right.closure base) = .fits
  stale_iff := by
    intro left right alike
    rw [stale_eq_nil_iff, stale_eq_nil_iff, alike.closure_eq]
    exact alike.forall_iff .standing fun rule =>
      rule.appraise (right.closure base) = .fits

theorem alike_start
    {left right : List Rule}
    (sameRules : ∀ rule, rule ∈ left ↔ rule ∈ right) :
    Alike (start left) (start right) := by
  refine ⟨?_, _, follows_start left, follows_start right⟩
  intro rule
  simp only [mem_roster_start]
  have listed (rules : List Rule) :
      (∃ id : RuleId, rules[id.index]? = some rule) ↔ rule ∈ rules := by
    rw [List.mem_iff_getElem?]
    constructor
    · intro found
      obtain ⟨id, place⟩ := found
      exact ⟨id.index, place⟩
    · intro found
      obtain ⟨index, place⟩ := found
      exact ⟨⟨index⟩, place⟩
  rw [listed left, listed right]
  exact sameRules rule

theorem alike_atRest
    (base : Facts) {left right : List Rule}
    (sameRules : ∀ rule, rule ∈ left ↔ rule ∈ right) :
    Alike (atRest base left) (atRest base right) :=
  (lockstep_alike base).rest (alike_start sameRules)

end State

/-! ## What is reported about a rule -/

/-- Two resolutions report the same about a rule of each. -/
structure SameReport
    (left : Resolution) (leftId : RuleId)
    (right : Resolution) (rightId : RuleId) : Prop where
  standing : leftId ∈ left.standing ↔ rightId ∈ right.standing
  withdrawn : leftId ∈ left.withdrawn ↔ rightId ∈ right.withdrawn
  barred : ∀ clash,
    (leftId, clash) ∈ left.barred ↔ (rightId, clash) ∈ right.barred
  unmet : ∀ gap, (leftId, gap) ∈ left.unmet ↔ (rightId, gap) ∈ right.unmet

section Report

variable
  {base : Facts} {rules : List Rule} {fate : Rule → Fate}
  {id : RuleId} {rule : Rule}

/-- The fate of a rule decides where each of its copies is found. -/
theorem exists_member_iff
    (follows : (State.atRest base rules).Follows fate)
    (listed : rules[id.index]? = some rule)
    (stage : Stage) (property : Rule → Option Gap → Prop) :
    (∃ candidate ∈ (State.atRest base rules).members stage,
        candidate.id = id ∧ property candidate.rule candidate.gap) ↔
      (fate rule).stage = stage ∧ property rule (fate rule).gap := by
  constructor
  · intro found
    obtain ⟨candidate, member, rfl, holds⟩ := found
    have sameRule := State.rule_eq_of_mem_members stage member listed
    have itsFate := follows stage candidate member
    rw [sameRule] at itsFate holds
    rw [itsFate]
    exact ⟨rfl, holds⟩
  · intro itsFate
    obtain ⟨rfl, holds⟩ := itsFate
    have enrolled : (id, rule) ∈ (State.atRest base rules).roster :=
      State.mem_roster_atRest.2 listed
    obtain ⟨candidate, member, sameId, sameRule, sameGap⟩ :=
      follows.exists_member enrolled
    refine ⟨candidate, member, sameId, ?_⟩
    rw [sameRule, sameGap]
    exact holds

theorem mem_standing_iff_fate
    (follows : (State.atRest base rules).Follows fate)
    (listed : rules[id.index]? = some rule) :
    id ∈ (resolve base rules).standing ↔ (fate rule).stage = .standing := by
  have found := exists_member_iff follows listed .standing fun _ _ => True
  simp only [and_true] at found
  rw [mem_standing_resolve_iff]
  exact found

theorem mem_withdrawn_iff_fate
    (follows : (State.atRest base rules).Follows fate)
    (listed : rules[id.index]? = some rule) :
    id ∈ (resolve base rules).withdrawn ↔ (fate rule).stage = .withdrawn := by
  have found := exists_member_iff follows listed .withdrawn fun _ _ => True
  simp only [and_true] at found
  rw [mem_withdrawn_resolve_iff]
  exact found

theorem mem_barred_iff_fate
    (follows : (State.atRest base rules).Follows fate)
    (listed : rules[id.index]? = some rule) {clash : Clash} :
    (id, clash) ∈ (resolve base rules).barred ↔
      (fate rule).stage = .pending ∧
        rule.appraise (resolve base rules).closure = .barred clash := by
  rw [barred_resolve, closure_resolve, State.mem_barred_iff]
  exact exists_member_iff follows listed .pending fun rule _ =>
    rule.appraise ((State.atRest base rules).closure base) = .barred clash

theorem mem_unmet_iff_fate
    (follows : (State.atRest base rules).Follows fate)
    (listed : rules[id.index]? = some rule) {gap : Gap} :
    (id, gap) ∈ (resolve base rules).unmet ↔
      (fate rule).stage = .pending ∧
          rule.noted (resolve base rules).closure (fate rule).gap = some gap ∨
        (fate rule).stage = .withdrawn ∧ (fate rule).gap = some gap := by
  rw [mem_unmet_resolve_iff, closure_resolve]
  apply or_congr
  · exact exists_member_iff follows listed .pending fun rule noted =>
      rule.noted ((State.atRest base rules).closure base) noted = some gap
  · exact exists_member_iff follows listed .withdrawn fun _ noted =>
      noted = some gap

end Report

section SameRules

variable {left right : List Rule}

theorem closure_resolve_eq_of_same_rules
    (base : Facts) (sameRules : ∀ rule, rule ∈ left ↔ rule ∈ right) :
    (resolve base left).closure = (resolve base right).closure := by
  rw [closure_resolve, closure_resolve]
  exact (State.alike_atRest base sameRules).closure_eq

theorem isCompatible_resolve_eq_of_same_rules
    (base : Facts) (sameRules : ∀ rule, rule ∈ left ↔ rule ∈ right) :
    (resolve base left).isCompatible = (resolve base right).isCompatible := by
  have alike := State.alike_atRest base sameRules
  have noneBarred :
      (resolve base left).barred = [] ↔ (resolve base right).barred = [] := by
    rw [barred_resolve, barred_resolve, State.barred_eq_nil_iff,
      State.barred_eq_nil_iff, alike.closure_eq]
    exact alike.forall_iff .pending fun rule => ∀ clash,
      rule.appraise ((State.atRest base right).closure base) ≠ .barred clash
  rw [Resolution.isCompatible, Resolution.isCompatible, Bool.eq_iff_iff,
    List.isEmpty_iff, List.isEmpty_iff]
  exact noneBarred

theorem sameReport_of_same_rules
    (base : Facts) (sameRules : ∀ rule, rule ∈ left ↔ rule ∈ right)
    {leftId rightId : RuleId} {rule : Rule}
    (leftListed : left[leftId.index]? = some rule)
    (rightListed : right[rightId.index]? = some rule) :
    SameReport (resolve base left) leftId (resolve base right) rightId := by
  have sameClosure := closure_resolve_eq_of_same_rules base sameRules
  obtain ⟨fate, leftFollows, rightFollows⟩ :=
    (State.alike_atRest base sameRules).sameFates
  constructor
  · rw [mem_standing_iff_fate leftFollows leftListed,
      mem_standing_iff_fate rightFollows rightListed]
  · rw [mem_withdrawn_iff_fate leftFollows leftListed,
      mem_withdrawn_iff_fate rightFollows rightListed]
  · intro clash
    rw [mem_barred_iff_fate leftFollows leftListed,
      mem_barred_iff_fate rightFollows rightListed, sameClosure]
  · intro gap
    rw [mem_unmet_iff_fate leftFollows leftListed,
      mem_unmet_iff_fate rightFollows rightListed, sameClosure]

end SameRules

/-! ## Main result -/

/-- Lists of the same rules are resolved alike: only the set of rules matters.
Equal rules are told apart neither within a list nor across the two. -/
theorem resolve_same_rules
    (base : Facts) {left right : List Rule}
    (sameRules : ∀ rule, rule ∈ left ↔ rule ∈ right) :
    (resolve base left).closure = (resolve base right).closure ∧
      (resolve base left).rounds = (resolve base right).rounds ∧
      (resolve base left).isCompatible = (resolve base right).isCompatible ∧
      ∀ first ∈ [left, right], ∀ second ∈ [left, right],
        ∀ (firstId secondId : RuleId) (rule : Rule),
          first[firstId.index]? = some rule →
            second[secondId.index]? = some rule →
              SameReport (resolve base first) firstId
                (resolve base second) secondId := by
  refine ⟨closure_resolve_eq_of_same_rules base sameRules, ?_,
    isCompatible_resolve_eq_of_same_rules base sameRules, ?_⟩
  · exact (State.lockstep_alike base).length_rounds
      (State.alike_start sameRules)
  · have listsRules (rules : List Rule) (isEither : rules ∈ [left, right]) :
        ∀ rule, rule ∈ rules ↔ rule ∈ right := by
      rcases List.mem_cons.1 isEither with rfl | isRight
      · exact sameRules
      · cases List.mem_singleton.1 isRight
        exact fun rule => Iff.rfl
    intro first isFirst second isSecond firstId secondId rule
      firstListed secondListed
    have sameLists : ∀ rule, rule ∈ first ↔ rule ∈ second := by
      intro tested
      rw [listsRules first isFirst tested, listsRules second isSecond tested]
    exact sameReport_of_same_rules base sameLists firstListed secondListed

theorem resolve_same_rules_quarrel :
    (∀ rule, rule ∈ quarrel ↔ rule ∈ quarrel.reverse ++ quarrel) ∧
      (resolve (.ofIs [⟨0⟩]) quarrel).rounds =
        (resolve (.ofIs [⟨0⟩]) (quarrel.reverse ++ quarrel)).rounds ∧
      SameReport (resolve (.ofIs [⟨0⟩]) quarrel) ⟨2⟩
        (resolve (.ofIs [⟨0⟩]) (quarrel.reverse ++ quarrel)) ⟨0⟩ := by
  have sameRules :
      ∀ rule, rule ∈ quarrel ↔ rule ∈ quarrel.reverse ++ quarrel := by
    intro rule
    rw [List.mem_append, List.mem_reverse, or_self]
  obtain ⟨_, sameRounds, _, sameReports⟩ :=
    resolve_same_rules (.ofIs [⟨0⟩]) sameRules
  have sameReport :=
    sameReports quarrel (by simp) (quarrel.reverse ++ quarrel) (by simp)
      ⟨2⟩ ⟨0⟩ quarrel[2] rfl rfl
  exact ⟨sameRules, sameRounds, sameReport⟩

end ConceptRules
