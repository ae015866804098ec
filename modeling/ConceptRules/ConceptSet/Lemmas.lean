import ConceptRules.ConceptSet.Basic
import ConceptRules.StableSort

/-!
# Membership in sets of concepts

One lemma for each operation says which concepts are in its result.  With
`ConceptSet.ext`, which says that the members determine the set, they turn an
equation between sets into a statement about one concept.
-/

namespace ConceptRules.ConceptSet

/-- Sets with the same members are equal. -/
@[ext]
theorem ext {left right : ConceptSet}
    (sameMembers : ∀ concept, concept ∈ left ↔ concept ∈ right) :
    left = right := by
  obtain ⟨leftList, leftAscending⟩ := left
  obtain ⟨rightList, rightAscending⟩ := right
  have sameList : leftList = rightList :=
    eq_of_ascending_of_mem_iff ConceptId.index leftAscending rightAscending
      sameMembers
  subst sameList
  rfl

theorem toList_nodup (set : ConceptSet) : set.toList.Nodup :=
  nodup_of_ascending ConceptId.index set.ascending

@[simp]
theorem not_mem_empty {concept : ConceptId} :
    concept ∉ (∅ : ConceptSet) :=
  List.not_mem_nil

@[simp]
theorem mem_singleton {concept tested : ConceptId} :
    tested ∈ singleton concept ↔ tested = concept :=
  List.mem_singleton

@[simp]
theorem mem_insert {set : ConceptSet} {concept tested : ConceptId} :
    tested ∈ set.insert concept ↔ tested = concept ∨ tested ∈ set :=
  mem_placeConcept

@[simp]
theorem mem_erase {set : ConceptSet} {concept tested : ConceptId} :
    tested ∈ set.erase concept ↔ tested ∈ set ∧ tested ≠ concept := by
  change tested ∈ set.toList.filter (· ≠ concept) ↔ _
  simp

theorem insert_eq_self_iff {set : ConceptSet} {concept : ConceptId} :
    set.insert concept = set ↔ concept ∈ set := by
  constructor
  · intro same
    rw [← same]
    exact mem_insert.2 (Or.inl rfl)
  · intro isPresent
    ext other
    rw [mem_insert]
    exact or_iff_right_of_imp fun same => same ▸ isPresent

theorem erase_eq_self_iff {set : ConceptSet} {concept : ConceptId} :
    set.erase concept = set ↔ concept ∉ set := by
  constructor
  · intro same isPresent
    rw [← same] at isPresent
    exact (mem_erase.1 isPresent).2 rfl
  · intro isAbsent
    ext other
    rw [mem_erase]
    refine and_iff_left_of_imp ?_
    rintro isPresent rfl
    exact isAbsent isPresent

@[simp]
theorem mem_insertMany
    {set : ConceptSet} {concepts : List ConceptId} {tested : ConceptId} :
    tested ∈ set.insertMany concepts ↔
      tested ∈ set ∨ tested ∈ concepts := by
  induction concepts generalizing set with
  | nil => simp [insertMany]
  | cons head rest inductionHypothesis =>
      have unfolded :
          set.insertMany (head :: rest) = (set.insert head).insertMany rest :=
        rfl
      rw [unfolded, inductionHypothesis, mem_insert, List.mem_cons]
      grind

@[simp]
theorem mem_ofList {concepts : List ConceptId} {tested : ConceptId} :
    tested ∈ ofList concepts ↔ tested ∈ concepts := by
  have unfolded : ofList concepts = (∅ : ConceptSet).insertMany concepts :=
    rfl
  simp [unfolded]

/-- A set is made anew from its members. -/
theorem ofList_toList (set : ConceptSet) : ofList set.toList = set := by
  ext concept
  rw [mem_ofList, mem_toList]

theorem isEmpty_iff {set : ConceptSet} :
    set.isEmpty = true ↔ ∀ concept, concept ∉ set := by
  rw [isEmpty, List.isEmpty_iff, List.eq_nil_iff_forall_not_mem]
  rfl

@[simp]
theorem mem_union {left right : ConceptSet} {tested : ConceptId} :
    tested ∈ left ∪ right ↔ tested ∈ left ∨ tested ∈ right := by
  have unfolded :
      left ∪ right =
        if right.isEmpty then left else left.insertMany right.toList :=
    rfl
  rw [unfolded]
  split
  case isTrue noMember =>
    have absent : tested ∉ right := isEmpty_iff.1 noMember tested
    exact (or_iff_left absent).symm
  case isFalse => exact mem_insertMany

/-- Putting the smaller set first changes nothing for what is asked of both
sets alike. -/
theorem bySize_cases (left right : ConceptSet) :
    left.bySize right = (left, right) ∨
      left.bySize right = (right, left) := by
  rw [bySize]
  split
  · exact Or.inl rfl
  · exact Or.inr rfl

@[simp]
theorem mem_inter {left right : ConceptSet} {tested : ConceptId} :
    tested ∈ left ∩ right ↔ tested ∈ left ∧ tested ∈ right := by
  have unfolded :
      left ∩ right =
        ofList ((left.bySize right).1.toList.filter
          (· ∈ (left.bySize right).2)) :=
    rfl
  rw [unfolded, mem_ofList, List.mem_filter, decide_eq_true_eq]
  rcases bySize_cases left right with inOrder | swapped
  · rw [inOrder]
    exact Iff.rfl
  · rw [swapped]
    exact and_comm

theorem inter_comm (left right : ConceptSet) : left ∩ right = right ∩ left := by
  ext concept
  rw [mem_inter, mem_inter]
  exact and_comm

theorem union_inter_distrib (left right tested : ConceptSet) :
    (left ∪ right) ∩ tested = (left ∩ tested) ∪ (right ∩ tested) := by
  ext concept
  rw [mem_inter, mem_union, mem_union, mem_inter, mem_inter]
  exact or_and_right

theorem subset_def {inner outer : ConceptSet} :
    inner ⊆ outer ↔ ∀ concept ∈ inner, concept ∈ outer :=
  Iff.rfl

theorem apart_iff {left right : ConceptSet} :
    left.Apart right ↔ ∀ concept ∈ left, concept ∉ right :=
  Iff.rfl

theorem isDisjoint_iff {left right : ConceptSet} :
    left.isDisjoint right = true ↔ left.Apart right := by
  rw [isDisjoint, Bool.not_eq_true', List.any_eq_false]
  simp only [decide_eq_true_eq]
  rcases bySize_cases left right with inOrder | swapped
  · rw [inOrder]
    exact Iff.rfl
  · rw [swapped]
    constructor
    · intro noneInLeft concept inLeft inRight
      exact noneInLeft concept inRight inLeft
    · intro noneInRight concept inRight inLeft
      exact noneInRight concept inLeft inRight

/-- A set is empty exactly when it is the empty set. -/
theorem isEmpty_iff_eq_empty {set : ConceptSet} :
    set.isEmpty = true ↔ set = ∅ := by
  rw [isEmpty_iff]
  constructor
  · intro noMember
    ext concept
    simp [noMember concept]
  · rintro rfl concept
    exact not_mem_empty

end ConceptRules.ConceptSet
