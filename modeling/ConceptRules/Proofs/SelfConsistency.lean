import Mathlib.Data.Finset.Card
import ConceptRules.Proofs.Idempotence
import ConceptRules.Rule.SelfClash

/-!
# Rules that are able to stand

A rule stands on facts that trigger it, and these contain its own consequence.
So it needs concepts of which the trigger holds and that have all that the
consequence asserts and nothing that it denies (`Rule.SatisfiedBy`).  Whether
there are any is a matter of counting: of a group, the asserted members have to
be present and the denied ones absent, and any number in between can be reached
by a choice among the others.  The check for rules that contradict themselves
compares just these numbers.
-/

namespace ConceptRules

/-- A group of `total` members is satisfied if `found` of them are present. -/
def Connective.Allows
    (connective : Connective) (found total : Nat) : Prop :=
  match connective with
  | .allOf => found = total
  | .anyOf => 0 < found
  | .oneOf => found = 1

/-- A consequence that asserts and denies so many members of a group does not
oppose it, or, if negated, its contrary. -/
def Connective.Tolerates
    (connective : Connective) (negated : Bool) (asserted denied total : Nat) :
    Prop :=
  match connective, negated with
  | .allOf, false => denied = 0
  | .allOf, true => asserted = total → asserted = 0
  | .anyOf, false => denied = total → denied = 0
  | .anyOf, true => asserted = 0
  | .oneOf, false => asserted ≤ 1 ∧ (denied = total → denied = 0)
  | .oneOf, true => ¬(asserted = 1 ∧ denied + 1 = total)

/-! ## Empty clashes -/

namespace Clash

theorem isEmpty_ofList_iff {asserted denied : List ConceptId} :
    (⟨.ofList asserted, .ofList denied⟩ : Clash).isEmpty = true ↔
      asserted.length = 0 ∧ denied.length = 0 := by
  simp only [isEmpty_iff, ConceptSet.mem_ofList,
    ← List.eq_nil_iff_forall_not_mem, List.length_eq_zero_iff]

theorem isEmpty_asserted_iff {asserted : List ConceptId} :
    (⟨.ofList asserted, ∅⟩ : Clash).isEmpty = true ↔ asserted.length = 0 :=
  (@isEmpty_ofList_iff asserted []).trans (and_iff_left rfl)

theorem isEmpty_denied_iff {denied : List ConceptId} :
    (⟨∅, .ofList denied⟩ : Clash).isEmpty = true ↔ denied.length = 0 :=
  (@isEmpty_ofList_iff [] denied).trans (and_iff_right rfl)

theorem isEmpty_ite_iff
    {condition : Prop} [Decidable condition] {clash : Clash} :
    (if condition then clash else {}).isEmpty = true ↔
      (condition → clash.isEmpty = true) := by
  split
  case isTrue holds => exact (imp_iff_right holds).symm
  case isFalse fails => exact iff_of_true rfl fun holds => absurd holds fails

theorem isEmpty_merge_iff {left right : Clash} :
    (left.merge right).isEmpty = true ↔
      left.isEmpty = true ∧ right.isEmpty = true := by
  simp only [isEmpty_iff, merge, ConceptSet.mem_union, not_or, forall_and]
  exact and_and_and_comm

end Clash

/-! ## Counting members -/

namespace Group

variable {group : Group} {present smaller larger asserted denied : ConceptSet}

theorem length_found_add_lacking (group : Group) (present : ConceptSet) :
    (group.found present).length + (group.lacking present).length =
      group.members.length := by
  have split :=
    List.length_eq_length_filter_add (l := group.members)
      fun member => decide (member ∈ present)
  rw [split, found, lacking]
  simp only [decide_not]

theorem holds_iff_allows :
    group.Holds present ↔
      group.connective.Allows (group.found present).length
        group.members.length := by
  have split := group.length_found_add_lacking present
  rw [← isSatisfied_iff, isSatisfied]
  cases group.connective with
  | allOf =>
      simp only [Connective.Allows]
      rw [List.isEmpty_iff, ← List.length_eq_zero_iff]
      omega
  | anyOf =>
      simp only [Connective.Allows]
      rw [Bool.not_eq_true', List.isEmpty_eq_false_iff, List.length_pos_iff]
  | oneOf => exact beq_iff_eq

theorem length_found_le_length (group : Group) (present : ConceptSet) :
    (group.found present).length ≤ group.members.length :=
  List.length_filter_le _ _

theorem length_found_le (subset : smaller ⊆ larger) :
    (group.found smaller).length ≤ (group.found larger).length := by
  apply List.Sublist.length_le
  apply List.monotone_filter_right
  intro member isFound
  exact decide_eq_true (subset member (of_decide_eq_true isFound))

/-- Members do not repeat, so those found can be counted as a set. -/
theorem card_toFinset_found (group : Group) (present : ConceptSet) :
    (group.found present).toFinset.card = (group.found present).length :=
  List.toFinset_card_of_nodup (group.nodup.filter _)

theorem mem_toFinset_found_iff {member : ConceptId} :
    member ∈ (group.found present).toFinset ↔
      member ∈ group.members ∧ member ∈ present :=
  List.mem_toFinset.trans mem_found_iff

theorem mem_toFinset_lacking_iff {member : ConceptId} :
    member ∈ (group.lacking present).toFinset ↔
      member ∈ group.members ∧ member ∉ present :=
  List.mem_toFinset.trans mem_lacking_iff

theorem length_found_union_add_inter
    (group : Group) (left right : ConceptSet) :
    (group.found (left ∪ right)).length + (group.found (left ∩ right)).length =
      (group.found left).length + (group.found right).length := by
  have union :
      (group.found (left ∪ right)).toFinset =
        (group.found left).toFinset ∪ (group.found right).toFinset := by
    ext member
    simp only [Finset.mem_union, mem_toFinset_found_iff, ConceptSet.mem_union]
    exact and_or_left
  have inter :
      (group.found (left ∩ right)).toFinset =
        (group.found left).toFinset ∩ (group.found right).toFinset := by
    ext member
    simp only [Finset.mem_inter, mem_toFinset_found_iff, ConceptSet.mem_inter]
    exact and_and_left
  simp only [← card_toFinset_found, union, inter]
  exact Finset.card_union_add_card_inter _ _

theorem length_found_union (apart : present.Apart denied) :
    (group.found (present ∪ denied)).length =
      (group.found present).length + (group.found denied).length := by
  have noneCommon : group.found (present ∩ denied) = [] := by
    refine found_eq_nil_iff.2 fun member _ isCommon => ?_
    obtain ⟨isPresent, isDenied⟩ := ConceptSet.mem_inter.1 isCommon
    exact apart member isPresent isDenied
  rw [← length_found_union_add_inter, noneCommon, List.length_nil,
    Nat.add_zero]

theorem length_found_add_found_le (apart : present.Apart denied) :
    (group.found present).length + (group.found denied).length ≤
      group.members.length := by
  rw [← length_found_union apart]
  exact group.length_found_le_length _

theorem toFinset_found_insertMany
    {wanted : Finset ConceptId}
    (assertedWanted : (group.found asserted).toFinset ⊆ wanted)
    (wantedMembers : ∀ member ∈ wanted, member ∈ group.members) :
    (group.found (asserted.insertMany wanted.toList)).toFinset = wanted := by
  ext member
  rw [mem_toFinset_found_iff, ConceptSet.mem_insertMany, Finset.mem_toList]
  constructor
  · intro isFound
    rcases isFound.2 with isAsserted | isWanted
    · exact assertedWanted
        (mem_toFinset_found_iff.2 ⟨isFound.1, isAsserted⟩)
    · exact isWanted
  · intro isWanted
    exact ⟨wantedMembers member isWanted, Or.inr isWanted⟩

/-- What is asserted can be completed to any number of members that leaves out
the denied ones. -/
theorem exists_length_found_eq
    (apart : asserted.Apart denied) {count : Nat}
    (lower : (group.found asserted).length ≤ count)
    (upper : count + (group.found denied).length ≤ group.members.length) :
    ∃ present, asserted ⊆ present ∧ present.Apart denied ∧
      (group.found present).length = count := by
  have subset :
      (group.found asserted).toFinset ⊆ (group.lacking denied).toFinset := by
    intro member isFound
    rw [mem_toFinset_found_iff] at isFound
    exact mem_toFinset_lacking_iff.2 ⟨isFound.1, apart member isFound.2⟩
  have enough : count ≤ (group.lacking denied).toFinset.card := by
    have split := group.length_found_add_lacking denied
    have openNodup : (group.lacking denied).Nodup := group.nodup.filter _
    rw [List.toFinset_card_of_nodup openNodup]
    omega
  rw [← card_toFinset_found] at lower
  -- between two sets there is a set of any size in between
  obtain ⟨wanted, assertedWanted, wantedOpen, isCount⟩ :=
    Finset.exists_subsuperset_card_eq subset lower enough
  have isOpen (member : ConceptId) (isWanted : member ∈ wanted) :
      member ∈ group.members ∧ member ∉ denied :=
    mem_toFinset_lacking_iff.1 (wantedOpen isWanted)
  refine ⟨asserted.insertMany wanted.toList, ?_, ?_, ?_⟩
  · intro concept isAsserted
    exact ConceptSet.mem_insertMany.2 (Or.inl isAsserted)
  · intro concept isPresent
    rcases ConceptSet.mem_insertMany.1 isPresent with isAsserted | isWanted
    · exact apart concept isAsserted
    · exact (isOpen concept (Finset.mem_toList.1 isWanted)).2
  · rw [← card_toFinset_found, toFinset_found_insertMany assertedWanted
      fun member isWanted => (isOpen member isWanted).1, isCount]

theorem opposition_isEmpty_iff {negated : Bool} {consequence : Facts} :
    (group.opposition negated consequence).isEmpty = true ↔
      group.connective.Tolerates negated
        (group.found consequence.is).length
        (group.found consequence.isnt).length group.members.length := by
  obtain ⟨connective, members, nodup⟩ := group
  cases connective <;> cases negated <;>
    simp only [opposition, Connective.Tolerates]
  case allOf.false => exact Clash.isEmpty_denied_iff
  case allOf.true => rw [Clash.isEmpty_ite_iff, Clash.isEmpty_asserted_iff]
  case anyOf.false => rw [Clash.isEmpty_ite_iff, Clash.isEmpty_denied_iff]
  case anyOf.true => exact Clash.isEmpty_asserted_iff
  case oneOf.false =>
    split
    · rw [Clash.isEmpty_asserted_iff]
      omega
    · rw [Clash.isEmpty_ite_iff, Clash.isEmpty_denied_iff]
      omega
  case oneOf.true =>
    rw [Clash.isEmpty_ite_iff, Clash.isEmpty_ofList_iff]
    omega

end Group

/-- A count that is within reach and satisfies the connective is tolerated. -/
theorem Connective.tolerates_of_allows
    {connective : Connective} {negated : Bool}
    {asserted denied count total : Nat}
    (lower : asserted ≤ count) (upper : count + denied ≤ total)
    (allows : connective.Allows count total ↔ negated = false) :
    connective.Tolerates negated asserted denied total := by
  cases connective <;> cases negated <;>
    simp only [Allows, Tolerates, reduceCtorEq, iff_true, iff_false]
      at allows ⊢ <;>
    omega

theorem Connective.exists_allows_of_tolerates
    {connective : Connective} {negated : Bool}
    {asserted denied total : Nat}
    (someMember : 0 < total) (apart : asserted + denied ≤ total)
    (tolerates : connective.Tolerates negated asserted denied total) :
    ∃ count, asserted ≤ count ∧ count + denied ≤ total ∧
      (connective.Allows count total ↔ negated = false) := by
  cases connective <;> cases negated <;>
    simp only [Allows, Tolerates, reduceCtorEq, iff_true, iff_false]
      at tolerates ⊢
  case allOf.false => exact ⟨total, by omega, by omega, rfl⟩
  case allOf.true => exact ⟨asserted, by omega, by omega, by omega⟩
  case anyOf.false => exact ⟨total - denied, by omega, by omega, by omega⟩
  case anyOf.true => exact ⟨0, by omega, by omega, by omega⟩
  case oneOf.false => exact ⟨1, by omega, by omega, rfl⟩
  case oneOf.true =>
    -- a single asserted member needs a second one to spoil the trigger
    by_cases single : asserted = 1
    · exact ⟨2, by omega, by omega, by omega⟩
    · exact ⟨asserted, by omega, by omega, single⟩

/-! ## Satisfying a rule -/

/-- The concepts trigger the rule and are as its consequence says. -/
structure Rule.SatisfiedBy (rule : Rule) (present : ConceptSet) : Prop where
  triggered : rule.trigger.Holds present
  asserted : rule.consequence.is ⊆ present
  denied : present.Apart rule.consequence.isnt

namespace Trigger

variable {trigger : Trigger} {consequence : Facts} {present : ConceptSet}

theorem opposition_single_isEmpty_iff {negated : Bool} {concept : ConceptId} :
    (opposition ⟨negated, .single concept⟩ consequence).isEmpty = true ↔
      if negated then concept ∉ consequence.is
      else concept ∉ consequence.isnt := by
  have assertedNotEmpty : ¬(⟨.singleton concept, ∅⟩ : Clash).isEmpty = true :=
    fun isEmpty => (Clash.isEmpty_iff.1 isEmpty).1 concept
      (ConceptSet.mem_singleton.2 rfl)
  have deniedNotEmpty : ¬(⟨∅, .singleton concept⟩ : Clash).isEmpty = true :=
    fun isEmpty => (Clash.isEmpty_iff.1 isEmpty).2 concept
      (ConceptSet.mem_singleton.2 rfl)
  cases negated with
  | false => simp [opposition, Clash.isEmpty_ite_iff, deniedNotEmpty]
  | true => simp [opposition, Clash.isEmpty_ite_iff, assertedNotEmpty]

theorem opposition_isEmpty_of_holds
    (triggered : trigger.Holds present)
    (asserted : consequence.is ⊆ present)
    (denied : present.Apart consequence.isnt) :
    (trigger.opposition consequence).isEmpty = true := by
  obtain ⟨negated, pattern⟩ := trigger
  cases pattern with
  | single concept =>
      rw [opposition_single_isEmpty_iff]
      split
      case isTrue isNegated =>
        intro isAsserted
        have notNegated := triggered.1 (asserted concept isAsserted)
        simp [isNegated] at notNegated
      case isFalse notNegated =>
        exact denied concept (triggered.2 (by simpa using notNegated))
  | grouped group =>
      refine Group.opposition_isEmpty_iff.2 ?_
      apply Connective.tolerates_of_allows (Group.length_found_le asserted)
        (Group.length_found_add_found_le denied)
      rw [← Group.holds_iff_allows]
      exact triggered

theorem exists_holds_of_opposition_isEmpty
    (someConcept : trigger.pattern.concepts ≠ [])
    (consistent : consequence.is.Apart consequence.isnt)
    (unopposed : (trigger.opposition consequence).isEmpty = true) :
    ∃ present, trigger.Holds present ∧ consequence.is ⊆ present ∧
      present.Apart consequence.isnt := by
  obtain ⟨negated, pattern⟩ := trigger
  cases pattern with
  | single concept =>
      rw [opposition_single_isEmpty_iff] at unopposed
      cases negated with
      | false =>
          refine ⟨consequence.is.insert concept, ?_, ?_, ?_⟩
          · exact iff_of_true (ConceptSet.mem_insert.2 (Or.inl rfl)) rfl
          · intro other isAsserted
            exact ConceptSet.mem_insert.2 (Or.inr isAsserted)
          · intro other isPresent
            rcases ConceptSet.mem_insert.1 isPresent with rfl | isAsserted
            · exact unopposed
            · exact consistent other isAsserted
      | true =>
          refine ⟨consequence.is, ?_, fun _ isAsserted => isAsserted,
            consistent⟩
          exact iff_of_false unopposed (by simp)
  | grouped group =>
      obtain ⟨count, lower, upper, allows⟩ :=
        Connective.exists_allows_of_tolerates
          (List.length_pos_iff.2 someConcept)
          (Group.length_found_add_found_le consistent)
          (Group.opposition_isEmpty_iff.1 unopposed)
      obtain ⟨present, asserted, denied, rfl⟩ :=
        Group.exists_length_found_eq consistent lower upper
      exact ⟨present, Group.holds_iff_allows.trans allows, asserted, denied⟩

end Trigger

namespace Rule

variable {rule : Rule} {present : ConceptSet}

theorem selfClash_isEmpty_iff :
    rule.selfClash.isEmpty = true ↔
      rule.consequence.Compatible rule.consequence ∧
        (rule.trigger.opposition rule.consequence).isEmpty = true :=
  Clash.isEmpty_merge_iff

theorem SatisfiedBy.selfClash_isEmpty
    (satisfied : rule.SatisfiedBy present) :
    rule.selfClash.isEmpty = true := by
  refine selfClash_isEmpty_iff.2 ⟨?_, ?_⟩
  · rw [Facts.compatible_iff]
    constructor
    · intro concept asserted
      exact satisfied.denied concept (satisfied.asserted concept asserted)
    · intro concept denied asserted
      exact satisfied.denied concept (satisfied.asserted concept asserted)
        denied
  · exact Trigger.opposition_isEmpty_of_holds satisfied.triggered
      satisfied.asserted satisfied.denied

theorem exists_satisfiedBy_iff
    (someConcept : rule.trigger.pattern.concepts ≠ []) :
    rule.selfClash.isEmpty = true ↔ ∃ present, rule.SatisfiedBy present := by
  constructor
  · intro noClash
    obtain ⟨consistent, unopposed⟩ := selfClash_isEmpty_iff.1 noClash
    obtain ⟨present, triggered, asserted, denied⟩ :=
      Trigger.exists_holds_of_opposition_isEmpty someConcept
        (Facts.compatible_iff.1 consistent).1 unopposed
    exact ⟨present, triggered, asserted, denied⟩
  · intro someSatisfied
    obtain ⟨present, satisfied⟩ := someSatisfied
    exact satisfied.selfClash_isEmpty

/-- Facts on which a satisfied rule stands: its concepts are present, and else
nothing is stated but the consequence. -/
def support (rule : Rule) (present : ConceptSet) : Facts :=
  { rule.consequence with is := present }

theorem SatisfiedBy.stands (satisfied : rule.SatisfiedBy present) :
    ⟨0⟩ ∈ (resolve (rule.support present) [rule]).standing := by
  have within : rule.consequence.Within (rule.support present) := by
    intro verb concept states
    cases verb with
    | is => exact satisfied.asserted concept states
    | isnt => exact states
    | canBe => exact states
  have compatible : (rule.support present).Compatible rule.consequence := by
    rw [Facts.compatible_iff]
    constructor
    · exact satisfied.denied
    · intro concept denied asserted
      exact satisfied.denied concept (satisfied.asserted concept asserted)
        denied
  have fits : rule.appraise (rule.support present) = .fits :=
    appraise_eq_fits_iff.2 ⟨satisfied.triggered, compatible⟩
  have saturated : Saturated (rule.support present) [rule] := by
    intro other isRule _
    rw [List.mem_singleton.1 isRule]
    exact within
  exact (mem_standing_iff_of_saturated saturated).2 ⟨rule, rfl, fits⟩

/-- The closure satisfies every rule that stands. -/
theorem satisfiedBy_closure_of_standing
    {base : Facts} {rules : List Rule} {id : RuleId}
    (stands : id ∈ (resolve base rules).standing)
    (listed : rules[id.index]? = some rule) :
    rule.SatisfiedBy (resolve base rules).closure.is := by
  obtain ⟨_, other, otherListed, fits⟩ := mem_standing_iff.1 stands
  rw [listed] at otherListed
  cases otherListed
  obtain ⟨triggered, compatible⟩ := appraise_eq_fits_iff.1 fits
  refine ⟨triggered, ?_, (Facts.compatible_iff.1 compatible).1⟩
  intro concept asserted
  have states : rule.consequence.Holds .is concept := asserted
  exact holds_closure_resolve_iff.2
    (Or.inr ⟨id, stands, rule, listed, states⟩)

end Rule

/-! ## Main result -/

/-- A rule whose trigger mentions some concept does not contradict itself
exactly if it stands in some resolution.  No rule that contradicts itself ever
stands, whatever its trigger. -/
theorem selfClash_isEmpty_iff_stands (rule : Rule) :
    (rule.trigger.pattern.concepts ≠ [] →
      (rule.selfClash.isEmpty = true ↔
        ∃ base rules, ∃ id ∈ (resolve base rules).standing,
          rules[id.index]? = some rule)) ∧
      ∀ base rules, ∀ id ∈ (resolve base rules).standing,
        rules[id.index]? = some rule → rule.selfClash.isEmpty = true := by
  have accepted (base : Facts) (rules : List Rule) (id : RuleId)
      (stands : id ∈ (resolve base rules).standing)
      (listed : rules[id.index]? = some rule) :
      rule.selfClash.isEmpty = true :=
    (Rule.satisfiedBy_closure_of_standing stands listed).selfClash_isEmpty
  refine ⟨fun someConcept => ?_, accepted⟩
  constructor
  · intro noClash
    obtain ⟨present, satisfied⟩ :=
      (Rule.exists_satisfiedBy_iff someConcept).1 noClash
    exact ⟨rule.support present, [rule], ⟨0⟩, satisfied.stands, rfl⟩
  · intro standsSomewhere
    obtain ⟨base, rules, id, stands, listed⟩ := standsSomewhere
    exact accepted base rules id stands listed

/-- Not just one of three concepts, and the consequence decides on two of them:
the rule stands only where the third is present. -/
def tieBreak : Rule :=
  ⟨⟨true, .grouped (.ofList .oneOf [⟨1⟩, ⟨2⟩, ⟨3⟩])⟩,
    [⟨.is, ⟨1⟩⟩, ⟨.isnt, ⟨2⟩⟩]⟩

theorem selfClash_isEmpty_iff_stands_tieBreak :
    tieBreak.trigger.pattern.concepts ≠ [] ∧
      tieBreak.selfClash.isEmpty = true ∧
      (∃ base rules, ∃ id ∈ (resolve base rules).standing,
        rules[id.index]? = some tieBreak) ∧
      ⟨0⟩ ∈ (resolve (.ofIs [⟨1⟩, ⟨3⟩]) [tieBreak]).standing := by
  have someConcept : tieBreak.trigger.pattern.concepts ≠ [] := by
    decide
  have stands : ⟨0⟩ ∈ (resolve (.ofIs [⟨1⟩, ⟨3⟩]) [tieBreak]).standing := by
    decide +kernel
  obtain ⟨stands_iff, accepted⟩ := selfClash_isEmpty_iff_stands tieBreak
  have noClash := accepted (.ofIs [⟨1⟩, ⟨3⟩]) [tieBreak] ⟨0⟩ stands rfl
  exact ⟨someConcept, noClash, (stands_iff someConcept).1 noClash, stands⟩

end ConceptRules
