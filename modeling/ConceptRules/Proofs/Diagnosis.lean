import ConceptRules.Proofs.Distance

/-!
# What a verdict says of single edits

A trigger that does not hold names the concepts that are missing and those that
are redundant.  These are exactly the concepts that bring the trigger closer to
holding if they are added or dropped (`Trigger.DiagnosedBy`).

Which of the two edits helps is a matter of counting again: the trigger wants
more of its concepts, or fewer of them, or either
(`Connective.WantsMore`, `Connective.WantsFewer`).  The gap of a verdict is
written by that table, and the distance to the nearest accepted number follows
it.
-/

namespace ConceptRules

/-- The concepts that a verdict names as missing. -/
def Verdict.missing : Verdict → List ConceptId
  | .holds => []
  | .fails gap => gap.missing

/-- The concepts that a verdict names as redundant. -/
def Verdict.redundant : Verdict → List ConceptId
  | .holds => []
  | .fails gap => gap.redundant

/-- What a group of concepts asks for, however often each of them is listed. -/
def Connective.Asks
    (connective : Connective) (supplied : List ConceptId)
    (present : ConceptSet) : Prop :=
  match connective with
  | .allOf => ∀ concept ∈ supplied, concept ∈ present
  | .anyOf => ∃ concept ∈ supplied, concept ∈ present
  | .oneOf => (supplied.toFinset.filter (· ∈ present)).card = 1

def Pattern.Asks (pattern : Pattern) (present : ConceptSet) : Prop :=
  match pattern with
  | .single concept => concept ∈ present
  | .grouped group => group.connective.Asks group.members present

/-- A verdict is right, and it names just the concepts that help if they are
added or dropped. -/
structure Trigger.DiagnosedBy
    (trigger : Trigger) (present : ConceptSet) (verdict : Verdict) :
    Prop where
  holds_iff :
    verdict = .holds ↔ (trigger.pattern.Asks present ↔ trigger.negated = false)
  missing_iff :
    ∀ concept, concept ∈ verdict.missing ↔
      concept ∉ present ∧
        trigger.distance (present.insert concept) < trigger.distance present
  redundant_iff :
    ∀ concept, concept ∈ verdict.redundant ↔
      concept ∈ present ∧
        trigger.distance (present.erase concept) < trigger.distance present
  missing_sublist : verdict.missing.Sublist trigger.pattern.concepts
  redundant_sublist : verdict.redundant.Sublist trigger.pattern.concepts
  missing_nodup : verdict.missing.Nodup
  redundant_nodup : verdict.redundant.Nodup
  silent : verdict = .holds → verdict.missing = [] ∧ verdict.redundant = []

/-! ## More or fewer -/

namespace Connective

/-- One more member would bring the trigger closer to holding. -/
def WantsMore
    (connective : Connective) (negated : Bool) (count total : Nat) : Prop :=
  match connective, negated with
  | .allOf, false => count < total
  | .allOf, true => False
  | .anyOf, false => count = 0
  | .anyOf, true => False
  | .oneOf, false => count = 0
  | .oneOf, true => count = 1

/-- One member less would bring the trigger closer to holding. -/
def WantsFewer
    (connective : Connective) (negated : Bool) (count total : Nat) : Prop :=
  match connective, negated with
  | .allOf, false => False
  | .allOf, true => count = total
  | .anyOf, false => False
  | .anyOf, true => 0 < count
  | .oneOf, false => 1 < count
  | .oneOf, true => count = 1

variable {connective : Connective} {negated : Bool} {count total : Nat}

theorem not_wantsMore_of_accepts
    (accepts : connective.Accepts negated count total) :
    ¬connective.WantsMore negated count total := by
  cases connective <;> cases negated <;>
    simp only [Accepts, Allows, WantsMore, reduceCtorEq, iff_true, iff_false,
      not_false_eq_true] at accepts ⊢ <;>
    omega

theorem not_wantsFewer_of_accepts
    (accepts : connective.Accepts negated count total) :
    ¬connective.WantsFewer negated count total := by
  cases connective <;> cases negated <;>
    simp only [Accepts, Allows, WantsFewer, reduceCtorEq, iff_true, iff_false,
      not_false_eq_true] at accepts ⊢ <;>
    omega

/-- If one more member is closer to an accepted number, the next such number is
above, and none is where we are. -/
theorem wantsMore_of_closer
    {steps : Nat} (possible : count ≤ total)
    (closer : connective.AcceptsWithin negated steps (count + 1) total)
    (notNear : ¬connective.AcceptsWithin negated steps count total) :
    connective.WantsMore negated count total := by
  obtain ⟨accepted, acceptedPossible, accepts, above, below⟩ := closer
  have notHere : ¬connective.Accepts negated count total := fun here =>
    notNear ⟨count, possible, here, by omega, by omega⟩
  have isAbove : count < accepted := by
    by_contra! notAbove
    exact notNear ⟨accepted, acceptedPossible, accepts, by omega, by omega⟩
  cases connective <;> cases negated <;>
    simp only [Accepts, Allows, WantsMore, reduceCtorEq, iff_true, iff_false]
      at accepts notHere ⊢ <;>
    omega

theorem wantsFewer_of_closer
    {steps : Nat} (possible : count + 1 ≤ total)
    (closer : connective.AcceptsWithin negated steps count total)
    (notNear : ¬connective.AcceptsWithin negated steps (count + 1) total) :
    connective.WantsFewer negated (count + 1) total := by
  obtain ⟨accepted, acceptedPossible, accepts, above, below⟩ := closer
  have notHere : ¬connective.Accepts negated (count + 1) total := fun here =>
    notNear ⟨count + 1, possible, here, by omega, by omega⟩
  have isBelow : accepted < count + 1 := by
    by_contra! notBelow
    exact notNear ⟨accepted, acceptedPossible, accepts, by omega, by omega⟩
  cases connective <;> cases negated <;>
    simp only [Accepts, Allows, WantsFewer, reduceCtorEq, iff_true, iff_false]
      at accepts notHere ⊢ <;>
    omega

/-- Where more members are wanted, the next accepted number is reached sooner
with one more. -/
theorem closer_of_wantsMore
    (someLeft : count < total)
    (wants : connective.WantsMore negated count total) :
    ∃ steps, connective.AcceptsWithin negated steps (count + 1) total ∧
      ¬connective.AcceptsWithin negated steps count total := by
  cases connective <;> cases negated <;>
    simp only [AcceptsWithin, Accepts, Allows, WantsMore, reduceCtorEq,
      iff_true, iff_false] at wants ⊢
  case allOf.false =>
    refine ⟨total - count - 1, ⟨total, by omega⟩, ?_⟩
    rintro ⟨accepted, _⟩
    omega
  case anyOf.false =>
    refine ⟨0, ⟨1, by omega⟩, ?_⟩
    rintro ⟨accepted, _⟩
    omega
  case oneOf.false =>
    refine ⟨0, ⟨1, by omega⟩, ?_⟩
    rintro ⟨accepted, _⟩
    omega
  case oneOf.true =>
    refine ⟨0, ⟨2, by omega⟩, ?_⟩
    rintro ⟨accepted, _⟩
    omega

theorem closer_of_wantsFewer
    (possible : count + 1 ≤ total)
    (wants : connective.WantsFewer negated (count + 1) total) :
    ∃ steps, connective.AcceptsWithin negated steps count total ∧
      ¬connective.AcceptsWithin negated steps (count + 1) total := by
  cases connective <;> cases negated <;>
    simp only [AcceptsWithin, Accepts, Allows, WantsFewer, reduceCtorEq,
      iff_true, iff_false] at wants ⊢
  case allOf.true =>
    refine ⟨0, ⟨count, by omega⟩, ?_⟩
    rintro ⟨accepted, _⟩
    omega
  case anyOf.true =>
    refine ⟨count, ⟨0, by omega⟩, ?_⟩
    rintro ⟨accepted, _⟩
    omega
  case oneOf.false =>
    refine ⟨count - 1, ⟨1, by omega⟩, ?_⟩
    rintro ⟨accepted, _⟩
    omega
  case oneOf.true =>
    refine ⟨0, ⟨0, by omega⟩, ?_⟩
    rintro ⟨accepted, _⟩
    omega

theorem wantsMore_iff (someLeft : count < total) :
    connective.WantsMore negated count total ↔
      ∃ steps, connective.AcceptsWithin negated steps (count + 1) total ∧
        ¬connective.AcceptsWithin negated steps count total := by
  constructor
  · exact closer_of_wantsMore someLeft
  · intro someSteps
    obtain ⟨steps, closer, notNear⟩ := someSteps
    exact wantsMore_of_closer (Nat.le_of_lt someLeft) closer notNear

theorem wantsFewer_iff (possible : count + 1 ≤ total) :
    connective.WantsFewer negated (count + 1) total ↔
      ∃ steps, connective.AcceptsWithin negated steps count total ∧
        ¬connective.AcceptsWithin negated steps (count + 1) total := by
  constructor
  · exact closer_of_wantsFewer possible
  · intro someSteps
    obtain ⟨steps, closer, notNear⟩ := someSteps
    exact wantsFewer_of_closer possible closer notNear

end Connective

/-! ## The gap of a group -/

namespace Group

variable {group : Group} {negated : Bool} {present : ConceptSet}
  {concept : ConceptId}

theorem mem_missing_gap_iff
    (fails : ¬group.connective.Accepts negated (group.found present).length
      group.members.length) :
    concept ∈ (group.gap negated present).missing ↔
      (concept ∈ group.members ∧ concept ∉ present) ∧
        group.connective.WantsMore negated (group.found present).length
          group.members.length := by
  have someLeft
      (isLacking : concept ∈ group.members ∧ concept ∉ present) :
      (group.found present).length < group.members.length :=
    length_found_lt_length isLacking.1 isLacking.2
  have absent_of_none (noneFound : (group.found present).length = 0) :
      concept ∈ group.members ↔
        concept ∈ group.members ∧ concept ∉ present := by
    refine (and_iff_left_of_imp fun member isPresent => ?_).symm
    exact Nat.ne_of_gt (length_found_pos member isPresent) noneFound
  unfold gap
  generalize group.connective = connective at fails ⊢
  cases connective <;> cases negated <;>
    simp only [Connective.Accepts, Connective.Allows, Connective.WantsMore,
      reduceCtorEq, iff_true, iff_false, and_false, List.not_mem_nil,
      Decidable.not_not] at fails ⊢
  case allOf.false =>
    rw [mem_lacking_iff]
    exact (and_iff_left_of_imp someLeft).symm
  case anyOf.false =>
    have noneFound : (group.found present).length = 0 := by omega
    exact (absent_of_none noneFound).trans (and_iff_left noneFound).symm
  case oneOf.false =>
    by_cases noneFound : (group.found present).length = 0
    · rw [if_pos (List.isEmpty_iff_length_eq_zero.2 noneFound)]
      exact (absent_of_none noneFound).trans (and_iff_left noneFound).symm
    · rw [if_neg (mt List.isEmpty_iff_length_eq_zero.1 noneFound)]
      exact iff_of_false List.not_mem_nil fun wanted => noneFound wanted.2
  case oneOf.true =>
    rw [mem_lacking_iff]
    exact (and_iff_left fails).symm

theorem mem_redundant_gap_iff
    (fails : ¬group.connective.Accepts negated (group.found present).length
      group.members.length) :
    concept ∈ (group.gap negated present).redundant ↔
      (concept ∈ group.members ∧ concept ∈ present) ∧
        group.connective.WantsFewer negated (group.found present).length
          group.members.length := by
  have someFound (isFound : concept ∈ group.members ∧ concept ∈ present) :
      0 < (group.found present).length :=
    length_found_pos isFound.1 isFound.2
  have present_of_all
      (allFound : (group.found present).length = group.members.length) :
      concept ∈ group.members ↔
        concept ∈ group.members ∧ concept ∈ present := by
    refine (and_iff_left_of_imp fun member => ?_).symm
    by_contra isAbsent
    exact Nat.ne_of_lt (length_found_lt_length member isAbsent) allFound
  unfold gap
  generalize group.connective = connective at fails ⊢
  cases connective <;> cases negated <;>
    simp only [Connective.Accepts, Connective.Allows, Connective.WantsFewer,
      reduceCtorEq, iff_true, iff_false, and_false, List.not_mem_nil,
      Decidable.not_not] at fails ⊢
  case allOf.true =>
    exact (present_of_all fails).trans (and_iff_left fails).symm
  case anyOf.true =>
    rw [mem_found_iff]
    exact (and_iff_left_of_imp someFound).symm
  case oneOf.false =>
    by_cases noneFound : (group.found present).length = 0
    · rw [if_pos (List.isEmpty_iff_length_eq_zero.2 noneFound)]
      exact iff_of_false List.not_mem_nil fun wanted => by omega
    · rw [if_neg (mt List.isEmpty_iff_length_eq_zero.1 noneFound),
        mem_found_iff]
      exact (and_iff_left (by omega)).symm
  case oneOf.true =>
    rw [mem_found_iff]
    exact (and_iff_left fails).symm

theorem gap_sublist (group : Group) (negated : Bool) (present : ConceptSet) :
    (group.gap negated present).missing.Sublist group.members ∧
      (group.gap negated present).redundant.Sublist group.members := by
  have nothing : [].Sublist group.members := List.nil_sublist _
  have everything : group.members.Sublist group.members := List.Sublist.refl _
  have found : (group.found present).Sublist group.members :=
    List.filter_sublist
  have lacking : (group.lacking present).Sublist group.members :=
    List.filter_sublist
  unfold gap
  cases group.connective <;> cases negated
  case allOf.false => exact ⟨lacking, nothing⟩
  case allOf.true => exact ⟨nothing, everything⟩
  case anyOf.false => exact ⟨everything, nothing⟩
  case anyOf.true => exact ⟨nothing, found⟩
  case oneOf.false =>
    by_cases noneFound : (group.found present).isEmpty = true
    · simp only [noneFound, if_true]
      exact ⟨everything, nothing⟩
    · simp only [noneFound]
      exact ⟨nothing, found⟩
  case oneOf.true => exact ⟨lacking, found⟩

end Group

/-! ## The verdict of a trigger -/

namespace Trigger

variable {trigger : Trigger} {present : ConceptSet} {concept : ConceptId}

/-- A single concept is read like the group of it. -/
theorem verdict_eq_verdict_group (trigger : Trigger) (present : ConceptSet) :
    trigger.verdict present =
      verdict ⟨trigger.negated, .grouped trigger.pattern.group⟩ present := by
  obtain ⟨negated, pattern⟩ := trigger
  cases pattern with
  | grouped group => rfl
  | single concept =>
      by_cases isPresent : concept ∈ present <;> cases negated <;>
        simp [verdict, Pattern.group, Group.isSatisfied, Group.gap,
          Group.lacking, isPresent]

theorem verdict_eq_fails (fails : ¬trigger.Holds present) :
    trigger.verdict present =
      .fails (trigger.pattern.group.gap trigger.negated present) := by
  have reading :
      trigger.verdict present =
        if trigger.pattern.group.isSatisfied present != trigger.negated then
          .holds
        else
          .fails (trigger.pattern.group.gap trigger.negated present) :=
    verdict_eq_verdict_group trigger present
  by_cases isRight :
      (trigger.pattern.group.isSatisfied present != trigger.negated) = true
  · rw [if_pos isRight] at reading
    exact absurd (verdict_eq_holds_iff.1 reading) fails
  · rw [if_neg isRight] at reading
    exact reading

theorem mem_missing_iff :
    concept ∈ (trigger.verdict present).missing ↔
      (concept ∈ trigger.pattern.concepts ∧ concept ∉ present) ∧
        trigger.pattern.group.connective.WantsMore trigger.negated
          (trigger.found present) trigger.total := by
  by_cases holds : trigger.Holds present
  · have accepts := holds_iff_accepts.1 holds
    rw [verdict_eq_holds_iff.2 holds]
    exact iff_of_false List.not_mem_nil fun wanted =>
      Connective.not_wantsMore_of_accepts accepts wanted.2
  · rw [verdict_eq_fails holds, ← Pattern.members_group]
    exact Group.mem_missing_gap_iff (mt holds_iff_accepts.2 holds)

theorem mem_redundant_iff :
    concept ∈ (trigger.verdict present).redundant ↔
      (concept ∈ trigger.pattern.concepts ∧ concept ∈ present) ∧
        trigger.pattern.group.connective.WantsFewer trigger.negated
          (trigger.found present) trigger.total := by
  by_cases holds : trigger.Holds present
  · have accepts := holds_iff_accepts.1 holds
    rw [verdict_eq_holds_iff.2 holds]
    exact iff_of_false List.not_mem_nil fun wanted =>
      Connective.not_wantsFewer_of_accepts accepts wanted.2
  · rw [verdict_eq_fails holds, ← Pattern.members_group]
    exact Group.mem_redundant_gap_iff (mt holds_iff_accepts.2 holds)

/-! ## The distance after one edit -/

theorem distance_insert_lt_iff (isAbsent : concept ∉ present) :
    trigger.distance (present.insert concept) < trigger.distance present ↔
      concept ∈ trigger.pattern.concepts ∧
        trigger.pattern.group.connective.WantsMore trigger.negated
          (trigger.found present) trigger.total := by
  rw [← Pattern.members_group]
  by_cases member : concept ∈ trigger.pattern.group.members
  · have oneMore :
        trigger.found (present.insert concept) = trigger.found present + 1 :=
      Group.length_found_insert member isAbsent
    rw [distance_lt_distance_iff, oneMore, and_iff_right member]
    exact (Connective.wantsMore_iff
      (Group.length_found_lt_length member isAbsent)).symm
  · have sameFound :
        trigger.found (present.insert concept) = trigger.found present :=
      congrArg List.length (Group.found_insert_of_not_mem member)
    exact iff_of_false (not_distance_lt_of_found_eq sameFound)
      fun wanted => member wanted.1

theorem distance_erase_lt_iff (isPresent : concept ∈ present) :
    trigger.distance (present.erase concept) < trigger.distance present ↔
      concept ∈ trigger.pattern.concepts ∧
        trigger.pattern.group.connective.WantsFewer trigger.negated
          (trigger.found present) trigger.total := by
  rw [← Pattern.members_group]
  by_cases member : concept ∈ trigger.pattern.group.members
  · have oneLess :
        trigger.found (present.erase concept) + 1 = trigger.found present :=
      Group.length_found_erase member isPresent
    have possible :
        trigger.found (present.erase concept) + 1 ≤ trigger.total := by
      rw [oneLess]
      exact Group.length_found_le_length _ present
    rw [distance_lt_distance_iff, ← oneLess, and_iff_right member]
    exact (Connective.wantsFewer_iff possible).symm
  · have sameFound :
        trigger.found (present.erase concept) = trigger.found present :=
      congrArg List.length (Group.found_erase_of_not_mem member)
    exact iff_of_false (not_distance_lt_of_found_eq sameFound)
      fun wanted => member wanted.1

theorem verdict_sublist (trigger : Trigger) (present : ConceptSet) :
    (trigger.verdict present).missing.Sublist trigger.pattern.concepts ∧
      (trigger.verdict present).redundant.Sublist
        trigger.pattern.concepts := by
  by_cases holds : trigger.Holds present
  · rw [verdict_eq_holds_iff.2 holds]
    exact ⟨List.nil_sublist _, List.nil_sublist _⟩
  · rw [verdict_eq_fails holds, ← Pattern.members_group]
    exact Group.gap_sublist _ _ present

end Trigger

/-! ## What is asked for -/

theorem Pattern.concepts_nodup (pattern : Pattern) :
    pattern.concepts.Nodup := by
  rw [← members_group]
  exact pattern.group.nodup

theorem Connective.asks_ofList_iff
    {connective : Connective} {supplied : List ConceptId}
    {present : ConceptSet} :
    connective.Asks (Group.ofList connective supplied).members present ↔
      connective.Asks supplied present := by
  cases connective with
  | allOf => simp only [Asks, Group.mem_ofList]
  | anyOf => simp only [Asks, Group.mem_ofList]
  | oneOf =>
      have sameSet :
          (Group.ofList .oneOf supplied).members.toFinset =
            supplied.toFinset := by
        ext concept
        rw [List.mem_toFinset, List.mem_toFinset, Group.mem_ofList]
      simp only [Asks, sameSet]

theorem Group.holds_iff_asks {group : Group} {present : ConceptSet} :
    group.Holds present ↔ group.connective.Asks group.members present := by
  obtain ⟨connective, members, nodup⟩ := group
  cases connective with
  | allOf => exact Iff.rfl
  | anyOf => exact Iff.rfl
  | oneOf =>
      have foundSet :
          (found ⟨.oneOf, members, nodup⟩ present).toFinset =
            members.toFinset.filter (· ∈ present) := by
        ext concept
        rw [mem_toFinset_found_iff, Finset.mem_filter, List.mem_toFinset]
      rw [holds_iff_allows, ← card_toFinset_found, foundSet]
      exact Iff.rfl

theorem Pattern.holds_iff_asks {pattern : Pattern} {present : ConceptSet} :
    pattern.Holds present ↔ pattern.Asks present := by
  cases pattern with
  | single concept => exact Iff.rfl
  | grouped group => exact Group.holds_iff_asks

/-! ## Main result -/

theorem Trigger.diagnosedBy_verdict
    (trigger : Trigger) (present : ConceptSet) :
    trigger.DiagnosedBy present (trigger.verdict present) where
  holds_iff := by
    rw [verdict_eq_holds_iff, Holds, Pattern.holds_iff_asks]
  missing_iff := by
    intro concept
    rw [mem_missing_iff, and_right_comm, and_comm]
    exact and_congr_right fun isAbsent => (distance_insert_lt_iff isAbsent).symm
  redundant_iff := by
    intro concept
    rw [mem_redundant_iff, and_right_comm, and_comm]
    exact and_congr_right fun isPresent =>
      (distance_erase_lt_iff isPresent).symm
  missing_sublist := (trigger.verdict_sublist present).1
  redundant_sublist := (trigger.verdict_sublist present).2
  missing_nodup :=
    (trigger.verdict_sublist present).1.nodup trigger.pattern.concepts_nodup
  redundant_nodup :=
    (trigger.verdict_sublist present).2.nodup trigger.pattern.concepts_nodup
  silent := by
    intro isHolds
    rw [isHolds]
    exact ⟨rfl, rfl⟩

/-- Whatever is present, the verdict on a trigger is right, and it names just
the concepts that help; and a group asks for the concepts that it was made of,
each of them once. -/
theorem verdict_diagnoses (present : ConceptSet) :
    (∀ trigger : Trigger,
        trigger.DiagnosedBy present (trigger.verdict present)) ∧
      ∀ negated connective supplied,
        Trigger.verdict ⟨negated, .grouped (.ofList connective supplied)⟩
            present = .holds ↔
          (connective.Asks supplied present ↔ negated = false) := by
  refine ⟨fun trigger => trigger.diagnosedBy_verdict present, ?_⟩
  intro negated connective supplied
  rw [← Connective.asks_ofList_iff]
  exact (Trigger.diagnosedBy_verdict _ present).holds_iff

/-- Where not just one of two concepts is wanted, the one that is present can go
and the other one can come. -/
example :
    Trigger.verdict ⟨true, .grouped (.ofList .oneOf [⟨1⟩, ⟨2⟩, ⟨1⟩])⟩
        (.ofList [⟨1⟩]) =
      .fails ⟨[⟨2⟩], [⟨1⟩]⟩ := by
  decide +kernel

end ConceptRules
