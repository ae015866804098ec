import ConceptRules.Proofs.Distance
import ConceptRules.Proofs.SelfConsistency

/-!
# Mending a rule that contradicts itself

The clash of a rule with itself tells what to take back: without the
declarations that it names, the rule does not contradict itself any more
(`Rule.selfClash_mended_isEmpty`), unless its trigger is a group without members.

Which members of a group are named is a matter of counting, as it is whether any
are (`Connective.BlamesAsserted`, `Connective.BlamesDenied`).  Once the named ones
are taken back, together with those that are asserted and denied at once, the
numbers that are left are tolerated.
-/

namespace ConceptRules

/-! ## Who is to blame -/

namespace Connective

/-- The asserted members keep the group from being satisfied, or, if negated,
from being spoilt. -/
def BlamesAsserted
    (connective : Connective) (negated : Bool) (asserted denied total : Nat) :
    Prop :=
  match connective, negated with
  | .allOf, false => False
  | .allOf, true => asserted = total
  | .anyOf, false => False
  | .anyOf, true => True
  | .oneOf, false => 1 < asserted
  | .oneOf, true => asserted = 1 ∧ denied + 1 = total

/-- The denied members keep the group from being satisfied, or, if negated, from
being spoilt. -/
def BlamesDenied
    (connective : Connective) (negated : Bool) (asserted denied total : Nat) :
    Prop :=
  match connective, negated with
  | .allOf, false => True
  | .allOf, true => False
  | .anyOf, false => denied = total
  | .anyOf, true => False
  | .oneOf, false => ¬1 < asserted ∧ denied = total
  | .oneOf, true => asserted = 1 ∧ denied + 1 = total

/-- What is left of a consequence is tolerated if neither the blamed members are
in it nor those that were asserted and denied at once. -/
theorem tolerates_of_taken_back
    {connective : Connective} {negated : Bool}
    {asserted denied both total assertedLeft deniedLeft : Nat}
    (someMember : 0 < total)
    (overlap : asserted + denied ≤ total + both)
    (assertedOnly : assertedLeft + both ≤ asserted)
    (deniedOnly : deniedLeft + both ≤ denied)
    (noneAsserted :
      connective.BlamesAsserted negated asserted denied total →
        assertedLeft = 0)
    (noneDenied :
      connective.BlamesDenied negated asserted denied total →
        deniedLeft = 0) :
    connective.Tolerates negated assertedLeft deniedLeft total := by
  cases connective <;> cases negated <;>
    simp only [BlamesAsserted, BlamesDenied, Tolerates, true_imp_iff,
      false_imp_iff] at noneAsserted noneDenied ⊢ <;>
    omega

end Connective

namespace Clash

variable {condition : Prop} [Decidable condition] {clash : Clash}
  {concept : ConceptId}

theorem mem_asserted_ite_iff :
    concept ∈ (if condition then clash else {}).asserted ↔
      concept ∈ clash.asserted ∧ condition := by
  split
  case isTrue holds => exact (and_iff_left holds).symm
  case isFalse fails =>
    exact iff_of_false ConceptSet.not_mem_empty fun both => fails both.2

theorem mem_denied_ite_iff :
    concept ∈ (if condition then clash else {}).denied ↔
      concept ∈ clash.denied ∧ condition := by
  split
  case isTrue holds => exact (and_iff_left holds).symm
  case isFalse fails =>
    exact iff_of_false ConceptSet.not_mem_empty fun both => fails both.2

end Clash

namespace Group

variable {group : Group} {negated : Bool} {consequence : Facts}
  {left right larger : ConceptSet} {concept : ConceptId}

theorem mem_asserted_opposition_iff :
    concept ∈ (group.opposition negated consequence).asserted ↔
      concept ∈ group.found consequence.is ∧
        group.connective.BlamesAsserted negated
          (group.found consequence.is).length
          (group.found consequence.isnt).length group.members.length := by
  obtain ⟨connective, members, nodup⟩ := group
  cases connective <;> cases negated <;>
    simp only [opposition, Connective.BlamesAsserted,
      Clash.mem_asserted_ite_iff, ConceptSet.mem_ofList,
      ConceptSet.not_mem_empty, and_true, and_false, false_and]
  case oneOf.false =>
    split
    case isTrue several => simp [several]
    case isFalse notSeveral => simp [notSeveral, Clash.mem_asserted_ite_iff]

theorem mem_denied_opposition_iff :
    concept ∈ (group.opposition negated consequence).denied ↔
      concept ∈ group.found consequence.isnt ∧
        group.connective.BlamesDenied negated
          (group.found consequence.is).length
          (group.found consequence.isnt).length group.members.length := by
  obtain ⟨connective, members, nodup⟩ := group
  cases connective <;> cases negated <;>
    simp only [opposition, Connective.BlamesDenied,
      Clash.mem_denied_ite_iff, ConceptSet.mem_ofList,
      ConceptSet.not_mem_empty, and_true, and_false, false_and]
  case oneOf.false =>
    split
    case isTrue several => simp [several]
    case isFalse notSeveral => simp [notSeveral, Clash.mem_denied_ite_iff]

/-! ## Counting what is left -/

theorem length_found_add_found_le_of_subset
    (apart : left.Apart right) (leftWithin : left ⊆ larger)
    (rightWithin : right ⊆ larger) :
    (group.found left).length + (group.found right).length ≤
      (group.found larger).length := by
  rw [← length_found_union apart]
  apply length_found_le
  intro concept inEither
  rcases ConceptSet.mem_union.1 inEither with inLeft | inRight
  · exact leftWithin concept inLeft
  · exact rightWithin concept inRight

theorem length_found_add_found_le_add_inter
    (group : Group) (left right : ConceptSet) :
    (group.found left).length + (group.found right).length ≤
      group.members.length + (group.found (left ∩ right)).length := by
  rw [← length_found_union_add_inter]
  exact Nat.add_le_add_right (group.length_found_le_length _) _

/-- No member is left if all that were found are named, and what is named is
taken back. -/
theorem length_found_eq_zero_of_taken_back
    {named : ConceptSet}
    (takenBack : ∀ concept ∈ left, concept ∈ larger ∧ concept ∉ named)
    (allNamed : ∀ member ∈ group.found larger, member ∈ named) :
    (group.found left).length = 0 := by
  rw [List.length_eq_zero_iff, found_eq_nil_iff]
  intro member isMember isLeft
  obtain ⟨wasThere, notNamed⟩ := takenBack member isLeft
  exact notNamed (allNamed member (mem_found_iff.2 ⟨isMember, wasThere⟩))

end Group

/-- A single concept is opposed like the group of it. -/
theorem Trigger.opposition_eq_opposition_group
    (trigger : Trigger) (consequence : Facts) :
    trigger.opposition consequence =
      trigger.pattern.group.opposition trigger.negated consequence := by
  obtain ⟨negated, pattern⟩ := trigger
  cases pattern with
  | grouped group => rfl
  | single concept =>
      have none : ConceptSet.ofList [] = ∅ := rfl
      have only : ConceptSet.ofList [concept] = .singleton concept := rfl
      cases negated with
      | false =>
          by_cases isDenied : concept ∈ consequence.isnt
          · simp [opposition, Pattern.group, Group.opposition, Group.found,
              isDenied, only]
          · simp [opposition, Pattern.group, Group.opposition, Group.found,
              isDenied, none]
      | true =>
          by_cases isAsserted : concept ∈ consequence.is
          · simp [opposition, Pattern.group, Group.opposition, Group.found,
              isAsserted, only]
          · simp [opposition, Pattern.group, Group.opposition, Group.found,
              isAsserted]

/-! ## Taking back -/

/-- The clash names the declared fact, on its side. -/
def Clash.Names (clash : Clash) (declaration : Declaration) : Prop :=
  match declaration.verb with
  | .is => declaration.concept ∈ clash.asserted
  | .isnt => declaration.concept ∈ clash.denied
  | .canBe => False

instance (clash : Clash) (declaration : Declaration) :
    Decidable (clash.Names declaration) :=
  match declaration with
  | ⟨.is, concept⟩ => inferInstanceAs (Decidable (concept ∈ clash.asserted))
  | ⟨.isnt, concept⟩ => inferInstanceAs (Decidable (concept ∈ clash.denied))
  | ⟨.canBe, _⟩ => inferInstanceAs (Decidable False)

namespace Rule

variable {rule : Rule} {verb : Verb} {concept : ConceptId}

/-- The rule without the declarations through which it contradicts itself. -/
def mended (rule : Rule) : Rule :=
  { rule with
    declared := rule.declared.filter fun declaration =>
      ¬rule.selfClash.Names declaration }

theorem holds_consequence_mended_iff :
    rule.mended.consequence.Holds verb concept ↔
      rule.consequence.Holds verb concept ∧
        ¬rule.selfClash.Names ⟨verb, concept⟩ := by
  rw [holds_consequence_iff, holds_consequence_iff, mended, List.mem_filter,
    decide_eq_true_eq]

theorem mem_is_mended_iff :
    concept ∈ rule.mended.consequence.is ↔
      concept ∈ rule.consequence.is ∧ concept ∉ rule.selfClash.asserted :=
  @holds_consequence_mended_iff rule .is concept

theorem mem_isnt_mended_iff :
    concept ∈ rule.mended.consequence.isnt ↔
      concept ∈ rule.consequence.isnt ∧ concept ∉ rule.selfClash.denied :=
  @holds_consequence_mended_iff rule .isnt concept

theorem mem_asserted_selfClash_iff :
    concept ∈ rule.selfClash.asserted ↔
      (concept ∈ rule.consequence.is ∧ concept ∈ rule.consequence.isnt) ∨
        concept ∈ (rule.trigger.opposition rule.consequence).asserted := by
  rw [← ConceptSet.mem_inter, ← ConceptSet.mem_union]
  rfl

theorem mem_denied_selfClash_iff :
    concept ∈ rule.selfClash.denied ↔
      (concept ∈ rule.consequence.isnt ∧ concept ∈ rule.consequence.is) ∨
        concept ∈ (rule.trigger.opposition rule.consequence).denied := by
  rw [← ConceptSet.mem_inter, ← ConceptSet.mem_union]
  rfl

theorem is_mended_subset :
    rule.mended.consequence.is ⊆ rule.consequence.is :=
  fun _ asserted => (mem_is_mended_iff.1 asserted).1

theorem isnt_mended_subset :
    rule.mended.consequence.isnt ⊆ rule.consequence.isnt :=
  fun _ denied => (mem_isnt_mended_iff.1 denied).1

/-- What is asserted and denied at once is taken back on both sides. -/
theorem is_mended_apart :
    rule.mended.consequence.is.Apart rule.consequence.isnt := by
  intro concept asserted denied
  obtain ⟨wasAsserted, notNamed⟩ := mem_is_mended_iff.1 asserted
  exact notNamed (mem_asserted_selfClash_iff.2 (Or.inl ⟨wasAsserted, denied⟩))

theorem isnt_mended_apart :
    rule.mended.consequence.isnt.Apart rule.consequence.is := by
  intro concept denied asserted
  obtain ⟨wasDenied, notNamed⟩ := mem_isnt_mended_iff.1 denied
  exact notNamed (mem_denied_selfClash_iff.2 (Or.inl ⟨wasDenied, asserted⟩))

theorem compatible_mended :
    rule.mended.consequence.Compatible rule.mended.consequence := by
  rw [Facts.compatible_iff]
  constructor
  · intro concept asserted denied
    exact is_mended_apart concept asserted (isnt_mended_subset concept denied)
  · intro concept denied asserted
    exact isnt_mended_apart concept denied (is_mended_subset concept asserted)

/-- Where the asserted members of the trigger are to blame, none of them is
left. -/
theorem found_is_mended_of_blamed
    (blamed : rule.trigger.pattern.group.connective.BlamesAsserted
      rule.trigger.negated (rule.trigger.found rule.consequence.is)
      (rule.trigger.found rule.consequence.isnt) rule.trigger.total) :
    rule.trigger.found rule.mended.consequence.is = 0 := by
  apply Group.length_found_eq_zero_of_taken_back fun _ => mem_is_mended_iff.1
  intro member isFound
  refine mem_asserted_selfClash_iff.2 (Or.inr ?_)
  rw [Trigger.opposition_eq_opposition_group]
  exact Group.mem_asserted_opposition_iff.2 ⟨isFound, blamed⟩

theorem found_isnt_mended_of_blamed
    (blamed : rule.trigger.pattern.group.connective.BlamesDenied
      rule.trigger.negated (rule.trigger.found rule.consequence.is)
      (rule.trigger.found rule.consequence.isnt) rule.trigger.total) :
    rule.trigger.found rule.mended.consequence.isnt = 0 := by
  apply Group.length_found_eq_zero_of_taken_back fun _ => mem_isnt_mended_iff.1
  intro member isFound
  refine mem_denied_selfClash_iff.2 (Or.inr ?_)
  rw [Trigger.opposition_eq_opposition_group]
  exact Group.mem_denied_opposition_iff.2 ⟨isFound, blamed⟩

theorem tolerates_mended
    (someConcept : rule.trigger.pattern.concepts ≠ []) :
    rule.trigger.pattern.group.connective.Tolerates rule.trigger.negated
      (rule.trigger.found rule.mended.consequence.is)
      (rule.trigger.found rule.mended.consequence.isnt)
      rule.trigger.total := by
  have someMember : 0 < rule.trigger.total := by
    rw [Trigger.total, Pattern.members_group]
    exact List.length_pos_iff.2 someConcept
  have overlap :=
    rule.trigger.pattern.group.length_found_add_found_le_add_inter
      rule.consequence.is rule.consequence.isnt
  have both (concept : ConceptId)
      (isBoth : concept ∈ rule.consequence.is ∩ rule.consequence.isnt) :
      concept ∈ rule.consequence.is ∧ concept ∈ rule.consequence.isnt :=
    ConceptSet.mem_inter.1 isBoth
  refine Connective.tolerates_of_taken_back someMember overlap
    (Group.length_found_add_found_le_of_subset ?_ is_mended_subset ?_)
    (Group.length_found_add_found_le_of_subset ?_ isnt_mended_subset ?_)
    found_is_mended_of_blamed found_isnt_mended_of_blamed
  · intro concept asserted isBoth
    exact is_mended_apart concept asserted (both concept isBoth).2
  · intro concept isBoth
    exact (both concept isBoth).1
  · intro concept denied isBoth
    exact isnt_mended_apart concept denied (both concept isBoth).1
  · intro concept isBoth
    exact (both concept isBoth).2

theorem selfClash_mended_isEmpty
    (someConcept : rule.trigger.pattern.concepts ≠ []) :
    rule.mended.selfClash.isEmpty = true := by
  refine selfClash_isEmpty_iff.2 ⟨compatible_mended, ?_⟩
  rw [Trigger.opposition_eq_opposition_group]
  exact Group.opposition_isEmpty_iff.2 (tolerates_mended someConcept)

end Rule

/-! ## Main result -/

/-- A rule contradicts itself if no concepts satisfy it.  The clash names what
the consequence asserts and what it denies, and enough of both that the rule does
not contradict itself once these are taken back. -/
theorem selfClash_diagnoses (rule : Rule) :
    (rule.trigger.pattern.concepts ≠ [] →
      (rule.selfClash.isEmpty = true ↔ ∃ present, rule.SatisfiedBy present)) ∧
      rule.selfClash.TakenFrom rule.consequence ∧
      (rule.trigger.pattern.concepts ≠ [] →
        rule.mended.selfClash.isEmpty = true) := by
  refine ⟨?_, rule.selfClash_takenFrom, ?_⟩
  · intro someConcept
    exact Rule.exists_satisfiedBy_iff someConcept
  · intro someConcept
    exact Rule.selfClash_mended_isEmpty someConcept

/-- Not just one of three concepts, and the consequence leaves just the first. -/
def lastOneLeft : Rule :=
  ⟨⟨true, .grouped (.ofList .oneOf [⟨1⟩, ⟨2⟩, ⟨3⟩])⟩,
    [⟨.is, ⟨1⟩⟩, ⟨.isnt, ⟨2⟩⟩, ⟨.isnt, ⟨3⟩⟩, ⟨.is, ⟨4⟩⟩, ⟨.canBe, ⟨2⟩⟩]⟩

theorem selfClash_diagnoses_lastOneLeft :
    lastOneLeft.trigger.pattern.concepts ≠ [] ∧
      ¬(∃ present, lastOneLeft.SatisfiedBy present) ∧
      lastOneLeft.mended.declared = [⟨.is, ⟨4⟩⟩, ⟨.canBe, ⟨2⟩⟩] ∧
      lastOneLeft.mended.selfClash.isEmpty = true := by
  have someConcept : lastOneLeft.trigger.pattern.concepts ≠ [] := by
    decide
  have contradicts : lastOneLeft.selfClash.isEmpty = false := by
    decide +kernel
  have remaining :
      lastOneLeft.mended.declared = [⟨.is, ⟨4⟩⟩, ⟨.canBe, ⟨2⟩⟩] := by
    decide +kernel
  obtain ⟨satisfied_iff, _, mended⟩ := selfClash_diagnoses lastOneLeft
  refine ⟨someConcept, ?_, remaining, mended someConcept⟩
  rw [← satisfied_iff someConcept, contradicts]
  exact Bool.false_ne_true

end ConceptRules
