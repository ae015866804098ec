import Mathlib.Order.SymmDiff
import ConceptRules.Proofs.Amending

/-!
# Amendments change as little as possible

Two sets are as many edits apart as there are concepts on which they differ
(`ConceptSet.exists_edits_of_difference`), so no set on which a trigger holds is
nearer to the present concepts than the trigger is from holding.  An amendment
ends with a set that is just so near, as none of its edits is made in vain
(`Trigger.difference_eq_distance_of_amend`).  All edits are made to concepts of
the trigger.
-/

namespace ConceptRules

namespace ConceptSet

variable {left middle right : ConceptSet} {concept : ConceptId}

/-- The concepts that are in one of two sets only. -/
def differing (left right : ConceptSet) : Finset ConceptId :=
  symmDiff left.toList.toFinset right.toList.toFinset

/-- The number of concepts on which two sets differ. -/
def difference (left right : ConceptSet) : Nat :=
  (left.differing right).card

theorem mem_differing_iff :
    concept ∈ left.differing right ↔ ¬(concept ∈ left ↔ concept ∈ right) := by
  rw [differing, Finset.mem_symmDiff, List.mem_toFinset, List.mem_toFinset,
    mem_toList, mem_toList]
  tauto

theorem difference_eq_zero_iff : left.difference right = 0 ↔ left = right := by
  rw [difference, Finset.card_eq_zero, Finset.eq_empty_iff_forall_notMem,
    ConceptSet.ext_iff]
  simp only [mem_differing_iff, not_not]

theorem difference_triangle (left middle right : ConceptSet) :
    left.difference right ≤
      left.difference middle + middle.difference right := by
  have within :
      left.differing right ⊆ left.differing middle ∪ middle.differing right :=
    symmDiff_triangle _ _ _
  exact (Finset.card_le_card within).trans (Finset.card_union_le _ _)

/-! ## Edits from one set to another -/

theorem difference_apply_le (present : ConceptSet) (edit : Edit) :
    present.difference (edit.apply present) ≤ 1 := by
  have changesOne : ∃ edited, ∀ other ∈ present.differing (edit.apply present),
      other = edited := by
    cases edit with
    | add edited =>
        refine ⟨edited, fun other isDifferent => ?_⟩
        rw [mem_differing_iff, Edit.apply, mem_insert] at isDifferent
        tauto
    | drop edited =>
        refine ⟨edited, fun other isDifferent => ?_⟩
        rw [mem_differing_iff, Edit.apply, mem_erase] at isDifferent
        tauto
  obtain ⟨edited, isEdited⟩ := changesOne
  exact Finset.card_le_one.2 fun first firstDiffers second secondDiffers =>
    (isEdited first firstDiffers).trans (isEdited second secondDiffers).symm

/-- Some edit removes any concept from those on which two sets differ. -/
theorem exists_edit_differing_eq_erase
    (isDifferent : concept ∈ left.differing right) :
    ∃ edit : Edit,
      (edit.apply left).differing right =
        (left.differing right).erase concept := by
  rw [mem_differing_iff] at isDifferent
  by_cases inLeft : concept ∈ left
  · refine ⟨.drop concept, ?_⟩
    ext other
    rw [mem_differing_iff, Finset.mem_erase, mem_differing_iff, Edit.apply,
      mem_erase]
    grind
  · refine ⟨.add concept, ?_⟩
    ext other
    rw [mem_differing_iff, Finset.mem_erase, mem_differing_iff, Edit.apply,
      mem_insert]
    grind

theorem exists_edits_of_difference (left right : ConceptSet) :
    ∃ edits, edits.length = left.difference right ∧
      Edit.applyAll left edits = right := by
  induction count : left.difference right generalizing left with
  | zero => exact ⟨[], rfl, difference_eq_zero_iff.1 count⟩
  | succ fewer inductionHypothesis =>
      obtain ⟨concept, isDifferent⟩ :=
        Finset.card_pos.1 (Nat.lt_of_lt_of_eq (Nat.succ_pos fewer) count.symm)
      obtain ⟨edit, erased⟩ := exists_edit_differing_eq_erase isDifferent
      have oneLess : (edit.apply left).difference right = fewer := by
        rw [difference, erased, Finset.card_erase_of_mem isDifferent]
        exact Nat.sub_eq_of_eq_add count
      obtain ⟨edits, sameLength, reached⟩ :=
        inductionHypothesis (edit.apply left) oneLess
      exact ⟨edit :: edits, congrArg Nat.succ sameLength, reached⟩

end ConceptSet

namespace Trigger

variable {trigger : Trigger} {steps : Nat} {present result : ConceptSet}
  {concept : ConceptId}

/-- No set on which the trigger holds is nearer than the trigger is from
holding. -/
theorem distance_le_difference (holds : trigger.Holds result) :
    trigger.distance present ≤ present.difference result := by
  obtain ⟨edits, sameLength, reached⟩ :=
    ConceptSet.exists_edits_of_difference present result
  rw [← reached] at holds
  exact distance_le_iff_exists_edits.2 ⟨edits, sameLength.le, holds⟩

/-! ## What an amendment changes -/

theorem difference_le_distance_of_amend
    (amended : trigger.amend steps present = .ok result) :
    present.difference result ≤ trigger.distance present := by
  fun_induction amend trigger steps present with
  | case1 steps present verdict =>
      cases amended
      rw [ConceptSet.difference_eq_zero_iff.2 rfl]
      exact zero_le
  | case2 => cases amended
  | case3 => cases amended
  | case4 present gap verdict remaining edit isFirst inductionHypothesis =>
      have byOne :
          present.difference result ≤
            (edit.apply present).difference result + 1 := by
        have viaEdit :=
          ConceptSet.difference_triangle present (edit.apply present) result
        have oneEdit := ConceptSet.difference_apply_le present edit
        omega
      rw [distance_eq_of_edit? verdict isFirst]
      calc (present.difference result : ℕ∞)
          ≤ ((edit.apply present).difference result + 1 : ℕ) :=
            Nat.cast_le.2 byOne
        _ ≤ trigger.distance (edit.apply present) + 1 := by
            rw [Nat.cast_add_one]
            exact add_le_add_left (inductionHypothesis amended) 1

theorem difference_eq_distance_of_amend
    (amended : trigger.amend steps present = .ok result) :
    present.difference result = trigger.distance present :=
  le_antisymm (difference_le_distance_of_amend amended)
    (distance_le_difference (holds_of_amend_eq_ok amended))

/-- An edit that is tried leaves all concepts alone that the trigger does not
look for. -/
theorem mem_apply_iff_of_not_mem
    {gap : Gap} {edit : Edit}
    (fails : trigger.verdict present = .fails gap)
    (isFirst : gap.edit? = some edit)
    (isOther : concept ∉ trigger.pattern.concepts) :
    concept ∈ edit.apply present ↔ concept ∈ present := by
  have sublists := trigger.verdict_sublist present
  rw [fails] at sublists
  have named := mem_of_edit?_eq_some isFirst
  cases edit with
  | add added =>
      have different : concept ≠ added := fun same =>
        isOther (same ▸ sublists.1.subset named)
      rw [Edit.apply, ConceptSet.mem_insert]
      exact or_iff_right different
  | drop dropped =>
      have different : concept ≠ dropped := fun same =>
        isOther (same ▸ sublists.2.subset named)
      rw [Edit.apply, ConceptSet.mem_erase]
      exact and_iff_left different

theorem mem_iff_of_amend_eq_ok
    (amended : trigger.amend steps present = .ok result)
    (isOther : concept ∉ trigger.pattern.concepts) :
    concept ∈ result ↔ concept ∈ present := by
  fun_induction amend trigger steps present with
  | case1 =>
      cases amended
      exact Iff.rfl
  | case2 => cases amended
  | case3 => cases amended
  | case4 present gap verdict remaining edit isFirst inductionHypothesis =>
      exact (inductionHypothesis amended).trans
        (mem_apply_iff_of_not_mem verdict isFirst isOther)

end Trigger

/-! ## Main result -/

/-- Facts that trigger a rule, and differ from others only in what the subject
is, on concepts of the trigger and on as few of them as possible. -/
structure Rule.LeastAmendment (rule : Rule) (facts amended : Facts) : Prop where
  triggered : rule.trigger.Holds amended.is
  isnt_eq : amended.isnt = facts.isnt
  canBe_eq : amended.canBe = facts.canBe
  elsewhere :
    ∀ concept, concept ∉ rule.trigger.pattern.concepts →
      (concept ∈ amended.is ↔ concept ∈ facts.is)
  least :
    ∀ present, rule.trigger.Holds present →
      facts.is.difference amended.is ≤ facts.is.difference present

theorem amend_changes_least
    {rule : Rule} {limit : Nat} {name : Option RuleId} {facts amended : Facts}
    (succeeded : rule.amend limit name facts = .ok amended) :
    rule.LeastAmendment facts amended := by
  obtain ⟨result, reached, rfl⟩ := Rule.amend_eq_ok_iff.1 succeeded
  refine ⟨Trigger.holds_of_amend_eq_ok reached, rfl, rfl, ?_, ?_⟩
  · intro concept isOther
    exact Trigger.mem_iff_of_amend_eq_ok reached isOther
  · intro present holds
    have atLeast : rule.trigger.distance facts.is ≤ _ :=
      Trigger.distance_le_difference holds
    rw [← Trigger.difference_eq_distance_of_amend reached] at atLeast
    exact Nat.cast_le.1 atLeast

/-- A rule for whoever keeps several of three pets, or none. -/
def menagerie : Rule :=
  ⟨⟨true, .grouped (.ofList .oneOf [⟨1⟩, ⟨2⟩, ⟨3⟩])⟩, [⟨.is, ⟨0⟩⟩]⟩

theorem amend_changes_least_menagerie :
    menagerie.amend 1 none
        { is := .ofList [⟨2⟩, ⟨4⟩], isnt := .ofList [⟨1⟩] } =
      .ok { is := .ofList [⟨1⟩, ⟨2⟩, ⟨4⟩], isnt := .ofList [⟨1⟩] } ∧
      menagerie.LeastAmendment
        { is := .ofList [⟨2⟩, ⟨4⟩], isnt := .ofList [⟨1⟩] }
        { is := .ofList [⟨1⟩, ⟨2⟩, ⟨4⟩], isnt := .ofList [⟨1⟩] } := by
  have succeeded :
      menagerie.amend 1 none
          { is := .ofList [⟨2⟩, ⟨4⟩], isnt := .ofList [⟨1⟩] } =
        .ok { is := .ofList [⟨1⟩, ⟨2⟩, ⟨4⟩], isnt := .ofList [⟨1⟩] } := by
    decide +kernel
  exact ⟨succeeded, amend_changes_least succeeded⟩

end ConceptRules
