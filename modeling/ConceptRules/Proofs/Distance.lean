import Mathlib.Data.ENat.Lattice
import ConceptRules.Amendment
import ConceptRules.Proofs.Independence
import ConceptRules.Proofs.SelfConsistency

/-!
# How far a trigger is from holding

The distance of a trigger is the least number of edits after which it holds, and
infinite if no edits make it hold (`Trigger.distance`).

A trigger only depends on how many of its concepts are present
(`Trigger.holds_iff_accepts`).  An edit changes that number by one at most, and
as long as members are left to be added or dropped, there is an edit that
changes it in the wanted direction.  So the distance is that from the number of
present concepts to the nearest number that the trigger accepts
(`Trigger.distance_le_iff`), and an edit brings the trigger closer if it goes
towards that one.
-/

namespace ConceptRules

/-- The concepts after some edits. -/
def Edit.applyAll (present : ConceptSet) (edits : List Edit) : ConceptSet :=
  edits.foldl Edit.apply present

/-- The least number of edits that make the trigger hold. -/
noncomputable def Trigger.distance
    (trigger : Trigger) (present : ConceptSet) : ℕ∞ :=
  ⨅ edits : { edits // trigger.Holds (Edit.applyAll present edits) },
    (edits.1.length : ℕ∞)

/-! ## Counting the members present -/

namespace Group

variable {group : Group} {present : ConceptSet} {concept : ConceptId}

theorem length_found_pos
    (member : concept ∈ group.members) (isPresent : concept ∈ present) :
    0 < (group.found present).length := by
  exact List.length_pos_of_mem (mem_found_iff.2 ⟨member, isPresent⟩)

theorem length_found_lt_length
    (member : concept ∈ group.members) (isAbsent : concept ∉ present) :
    (group.found present).length < group.members.length := by
  have split := group.length_found_add_lacking present
  have someLacking :=
    List.length_pos_of_mem (mem_lacking_iff.2 ⟨member, isAbsent⟩)
  omega

theorem length_found_insert
    (member : concept ∈ group.members) (isAbsent : concept ∉ present) :
    (group.found (present.insert concept)).length =
      (group.found present).length + 1 := by
  have added :
      (group.found (present.insert concept)).toFinset =
        insert concept (group.found present).toFinset := by
    ext other
    rw [Finset.mem_insert, mem_toFinset_found_iff, mem_toFinset_found_iff,
      ConceptSet.mem_insert]
    constructor
    · intro isFound
      exact isFound.2.imp_right fun wasPresent => ⟨isFound.1, wasPresent⟩
    · intro isEither
      rcases isEither with rfl | wasFound
      · exact ⟨member, Or.inl rfl⟩
      · exact ⟨wasFound.1, Or.inr wasFound.2⟩
  have notFound : concept ∉ (group.found present).toFinset := by
    rw [mem_toFinset_found_iff]
    exact fun isFound => isAbsent isFound.2
  rw [← card_toFinset_found, added, Finset.card_insert_of_notMem notFound,
    card_toFinset_found]

theorem length_found_erase
    (member : concept ∈ group.members) (isPresent : concept ∈ present) :
    (group.found (present.erase concept)).length + 1 =
      (group.found present).length := by
  have isAbsent : concept ∉ present.erase concept := by
    simp
  have restored : (present.erase concept).insert concept = present := by
    ext other
    rw [ConceptSet.mem_insert, ConceptSet.mem_erase]
    by_cases same : other = concept
    · simp [same, isPresent]
    · simp [same]
  rw [← length_found_insert member isAbsent, restored]

theorem found_insert_of_not_mem (isOther : concept ∉ group.members) :
    group.found (present.insert concept) = group.found present := by
  apply found_eq_of_agree
  intro member isMember
  rw [ConceptSet.mem_insert]
  exact or_iff_right (ne_of_mem_of_not_mem isMember isOther)

theorem found_erase_of_not_mem (isOther : concept ∉ group.members) :
    group.found (present.erase concept) = group.found present := by
  apply found_eq_of_agree
  intro member isMember
  rw [ConceptSet.mem_erase]
  exact and_iff_left (ne_of_mem_of_not_mem isMember isOther)

theorem length_found_insert_le
    (group : Group) (present : ConceptSet) (concept : ConceptId) :
    (group.found (present.insert concept)).length ≤
      (group.found present).length + 1 := by
  by_cases isMember : concept ∈ group.members
  · by_cases isPresent : concept ∈ present
    · rw [ConceptSet.insert_eq_self_iff.2 isPresent]
      exact Nat.le_succ _
    · exact Nat.le_of_eq (length_found_insert isMember isPresent)
  · rw [found_insert_of_not_mem isMember]
    exact Nat.le_succ _

theorem length_found_le_erase
    (group : Group) (present : ConceptSet) (concept : ConceptId) :
    (group.found present).length ≤
      (group.found (present.erase concept)).length + 1 := by
  by_cases isMember : concept ∈ group.members
  · by_cases isPresent : concept ∈ present
    · exact Nat.le_of_eq (length_found_erase isMember isPresent).symm
    · rw [ConceptSet.erase_eq_self_iff.2 isPresent]
      exact Nat.le_succ _
  · rw [found_erase_of_not_mem isMember]
    exact Nat.le_succ _

/-! ## Counting after edits -/

/-- An edit adds or drops one member at most. -/
theorem length_found_apply
    (group : Group) (present : ConceptSet) (edit : Edit) :
    (group.found (edit.apply present)).length ≤
        (group.found present).length + 1 ∧
      (group.found present).length ≤
        (group.found (edit.apply present)).length + 1 := by
  cases edit with
  | add concept =>
      have grows : present ⊆ present.insert concept :=
        fun _ isPresent => ConceptSet.mem_insert.2 (Or.inr isPresent)
      exact ⟨group.length_found_insert_le present concept,
        Nat.le_succ_of_le (length_found_le grows)⟩
  | drop concept =>
      have shrinks : present.erase concept ⊆ present :=
        fun _ isPresent => (ConceptSet.mem_erase.1 isPresent).1
      exact ⟨Nat.le_succ_of_le (length_found_le shrinks),
        group.length_found_le_erase present concept⟩

theorem length_found_applyAll
    (group : Group) (present : ConceptSet) (edits : List Edit) :
    (group.found (Edit.applyAll present edits)).length ≤
        (group.found present).length + edits.length ∧
      (group.found present).length ≤
        (group.found (Edit.applyAll present edits)).length + edits.length := by
  induction edits generalizing present with
  | nil => exact ⟨Nat.le_refl _, Nat.le_refl _⟩
  | cons edit edits inductionHypothesis =>
      have first := group.length_found_apply present edit
      have rest := inductionHypothesis (edit.apply present)
      have inTurn :
          Edit.applyAll present (edit :: edits) =
            Edit.applyAll (edit.apply present) edits :=
        rfl
      rw [List.length_cons, inTurn]
      omega

/-- While not all members are present, one can be added. -/
theorem exists_add
    (someAbsent : (group.found present).length < group.members.length) :
    ∃ edit : Edit, (group.found (edit.apply present)).length =
      (group.found present).length + 1 := by
  have split := group.length_found_add_lacking present
  obtain ⟨concept, isLacking⟩ :=
    List.exists_mem_of_length_pos (l := group.lacking present) (by omega)
  obtain ⟨member, isAbsent⟩ := mem_lacking_iff.1 isLacking
  exact ⟨.add concept, length_found_insert member isAbsent⟩

/-- While some members are present, one can be dropped. -/
theorem exists_drop (someFound : 0 < (group.found present).length) :
    ∃ edit : Edit, (group.found (edit.apply present)).length + 1 =
      (group.found present).length := by
  obtain ⟨concept, isFound⟩ := List.exists_mem_of_length_pos someFound
  obtain ⟨member, isPresent⟩ := mem_found_iff.1 isFound
  exact ⟨.drop concept, length_found_erase member isPresent⟩

/-- Any number of members can be reached by as many edits as it differs from
the number of those present. -/
theorem exists_edits
    {steps count : Nat} (possible : count ≤ group.members.length)
    (above : count ≤ (group.found present).length + steps)
    (below : (group.found present).length ≤ count + steps) :
    ∃ edits, edits.length ≤ steps ∧
      (group.found (Edit.applyAll present edits)).length = count := by
  induction steps generalizing present with
  | zero => exact ⟨[], Nat.le_refl 0, Nat.le_antisymm below above⟩
  | succ steps inductionHypothesis =>
      rcases Nat.lt_trichotomy (group.found present).length count with
        tooFew | reached | tooMany
      · obtain ⟨edit, oneMore⟩ :=
          exists_add (Nat.lt_of_lt_of_le tooFew possible)
        obtain ⟨edits, bounded, reached⟩ :=
          @inductionHypothesis (edit.apply present) (by omega) (by omega)
        exact ⟨edit :: edits, Nat.succ_le_succ bounded, reached⟩
      · exact ⟨[], Nat.zero_le _, reached⟩
      · obtain ⟨edit, oneLess⟩ := exists_drop (Nat.zero_lt_of_lt tooMany)
        obtain ⟨edits, bounded, reached⟩ :=
          @inductionHypothesis (edit.apply present) (by omega) (by omega)
        exact ⟨edit :: edits, Nat.succ_le_succ bounded, reached⟩

end Group

/-! ## Every pattern is a group -/

namespace Pattern

/-- The pattern as a group, a single concept being all of itself. -/
def group : Pattern → Group
  | .single concept => ⟨.allOf, [concept], List.nodup_singleton concept⟩
  | .grouped group => group

theorem members_group (pattern : Pattern) :
    pattern.group.members = pattern.concepts := by
  cases pattern with
  | single concept => rfl
  | grouped group => rfl

theorem holds_group_iff {pattern : Pattern} {present : ConceptSet} :
    pattern.group.Holds present ↔ pattern.Holds present := by
  cases pattern with
  | single concept => exact List.forall_mem_singleton
  | grouped group => exact Iff.rfl

end Pattern

namespace Connective

/-- A trigger of this connective and polarity holds where so many of its members
are present. -/
def Accepts
    (connective : Connective) (negated : Bool) (count total : Nat) : Prop :=
  connective.Allows count total ↔ negated = false

/-- Some accepted number is at most so many steps away. -/
def AcceptsWithin
    (connective : Connective) (negated : Bool) (steps count total : Nat) :
    Prop :=
  ∃ accepted ≤ total, connective.Accepts negated accepted total ∧
    accepted ≤ count + steps ∧ count ≤ accepted + steps

end Connective

namespace Trigger

variable {trigger : Trigger} {present closer : ConceptSet}

/-- How many concepts the trigger looks for. -/
def total (trigger : Trigger) : Nat :=
  trigger.pattern.group.members.length

/-- How many of them are present. -/
def found (trigger : Trigger) (present : ConceptSet) : Nat :=
  (trigger.pattern.group.found present).length

/-- Some number that the trigger accepts is at most so many steps from the
number of present concepts. -/
def AcceptsWithin (trigger : Trigger) (steps count : Nat) : Prop :=
  trigger.pattern.group.connective.AcceptsWithin trigger.negated steps count
    trigger.total

theorem holds_iff_accepts :
    trigger.Holds present ↔
      trigger.pattern.group.connective.Accepts trigger.negated
        (trigger.found present) trigger.total := by
  rw [Holds, ← Pattern.holds_group_iff, Group.holds_iff_allows]
  rfl

/-! ## The distance -/

theorem distance_le_iff_exists_edits {steps : Nat} :
    trigger.distance present ≤ steps ↔
      ∃ edits, edits.length ≤ steps ∧
        trigger.Holds (Edit.applyAll present edits) := by
  rw [distance, ← ENat.lt_natCast_add_one_iff, iInf_lt_iff]
  simp only [ENat.lt_natCast_add_one_iff, Nat.cast_le, Subtype.exists,
    exists_prop]
  exact exists_congr fun edits => and_comm

/-- The distance is that to the nearest number of present concepts that the
trigger accepts. -/
theorem distance_le_iff {steps : Nat} :
    trigger.distance present ≤ steps ↔
      trigger.AcceptsWithin steps (trigger.found present) := by
  rw [distance_le_iff_exists_edits]
  constructor
  · intro reachable
    obtain ⟨edits, bounded, holds⟩ := reachable
    have bounds :=
      trigger.pattern.group.length_found_applyAll present edits
    refine ⟨trigger.found (Edit.applyAll present edits),
      Group.length_found_le_length _ _, holds_iff_accepts.1 holds, ?_, ?_⟩
    · exact Nat.le_trans bounds.1 (Nat.add_le_add_left bounded _)
    · exact Nat.le_trans bounds.2 (Nat.add_le_add_left bounded _)
  · intro near
    obtain ⟨count, possible, accepts, above, below⟩ := near
    obtain ⟨edits, bounded, reached⟩ :=
      Group.exists_edits possible above below
    refine ⟨edits, bounded, ?_⟩
    rw [holds_iff_accepts, found, reached]
    exact accepts

/-- One set is closer than another if so many edits as are enough for it are not
enough for the other. -/
theorem distance_lt_distance_iff :
    trigger.distance closer < trigger.distance present ↔
      ∃ steps, trigger.AcceptsWithin steps (trigger.found closer) ∧
        ¬trigger.AcceptsWithin steps (trigger.found present) := by
  simp only [← distance_le_iff]
  constructor
  · intro isCloser
    obtain ⟨steps, isDistance⟩ :=
      ENat.ne_top_iff_exists.1 (ne_top_of_lt isCloser)
    refine ⟨steps, isDistance.ge, ?_⟩
    rw [isDistance]
    exact not_le_of_gt isCloser
  · intro someSteps
    obtain ⟨steps, enough, notEnough⟩ := someSteps
    exact lt_of_le_of_lt enough (lt_of_not_ge notEnough)

/-- Edits that leave the number of present concepts as it is do not help. -/
theorem not_distance_lt_of_found_eq
    (sameFound : trigger.found closer = trigger.found present) :
    ¬trigger.distance closer < trigger.distance present := by
  rw [distance_lt_distance_iff, sameFound]
  intro someSteps
  obtain ⟨steps, enough, notEnough⟩ := someSteps
  exact notEnough enough

end Trigger

end ConceptRules
