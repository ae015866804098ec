import Mathlib.Data.Finset.Card
import ConceptRules.ConceptSet.Lemmas
import ConceptRules.ConceptSet.Workspace

/-!
# What sets denote

A set of concepts denotes the mathematical set of its members.  It is listed in
ascending order, so that nothing else can be told from it: two sets that denote
the same are equal, however they were made (`ConceptSet.members_inj`).

A workspace is edited step by step, and so are the mathematical sets at its
places (`ConceptSet.Step.denote`).  Each step keeps to what the places denote,
and from there all that can be asked of the sets is answered as mathematics has
it (`ConceptSet.Workspace.Refines`).
-/

namespace ConceptRules.ConceptSet

variable {set left right : ConceptSet} {concept : ConceptId}
  {concepts : List ConceptId}

/-! ## Members -/

/-- The mathematical set that a set denotes. -/
def members (set : ConceptSet) : Finset ConceptId :=
  set.toList.toFinset

@[simp]
theorem mem_members : concept ∈ set.members ↔ concept ∈ set :=
  List.mem_toFinset

theorem members_inj : left.members = right.members ↔ left = right := by
  constructor
  · intro sameMembers
    ext concept
    rw [← mem_members, sameMembers, mem_members]
  · exact congrArg members

@[simp]
theorem members_empty : (∅ : ConceptSet).members = ∅ :=
  rfl

@[simp]
theorem members_singleton : (singleton concept).members = {concept} :=
  rfl

@[simp]
theorem members_insert :
    (set.insert concept).members = Insert.insert concept set.members := by
  ext tested
  simp

@[simp]
theorem members_erase :
    (set.erase concept).members = set.members.erase concept := by
  ext tested
  simp [and_comm]

@[simp]
theorem members_insertMany :
    (set.insertMany concepts).members = set.members ∪ concepts.toFinset := by
  ext tested
  simp

@[simp]
theorem members_ofList : (ofList concepts).members = concepts.toFinset := by
  ext tested
  simp

@[simp]
theorem members_union :
    (left ∪ right).members = left.members ∪ right.members := by
  ext tested
  simp

@[simp]
theorem members_inter :
    (left ∩ right).members = left.members ∩ right.members := by
  ext tested
  simp

/-! ## What can be asked of sets -/

theorem card_members (set : ConceptSet) : set.members.card = set.size :=
  List.toFinset_card_of_nodup set.toList_nodup

theorem isEmpty_iff_members : set.isEmpty = true ↔ set.members = ∅ := by
  rw [isEmpty_iff_eq_empty, ← members_inj, members_empty]

theorem first?_eq_none_iff : set.first? = none ↔ set.members = ∅ := by
  rw [first?, List.head?_eq_none_iff, ← List.isEmpty_iff]
  exact isEmpty_iff_members

/-- The first member comes before all others. -/
theorem first?_eq_some_iff :
    set.first? = some concept ↔
      concept ∈ set.members ∧
        ∀ other ∈ set.members, other ≠ concept → concept < other := by
  obtain ⟨concepts, ascending⟩ := set
  simp only [mem_members, ← mem_toList]
  cases concepts with
  | nil => simp [first?]
  | cons head rest =>
      obtain ⟨headFirst, -⟩ := List.pairwise_cons.1 ascending
      rw [first?, List.head?_cons, Option.some.injEq]
      constructor
      · rintro rfl
        refine ⟨List.mem_cons_self, fun other member different => ?_⟩
        exact headFirst other (List.mem_of_ne_of_mem different member)
      · rintro ⟨member, isFirst⟩
        by_contra different
        have earlier := isFirst head List.mem_cons_self different
        have later :=
          headFirst concept (List.mem_of_ne_of_mem (Ne.symm different) member)
        exact Nat.lt_asymm earlier later

theorem isDisjoint_iff_members :
    left.isDisjoint right = true ↔ Disjoint left.members right.members := by
  rw [isDisjoint_iff, apart_iff, Finset.disjoint_left]
  simp only [mem_members]

theorem subset_iff_members :
    left ⊆ right ↔ left.members ⊆ right.members := by
  rw [subset_def, Finset.subset_iff]
  simp only [mem_members]

/-! ## Steps -/

namespace Step

/-- The mathematical set that a step writes, read off the ones before it. -/
def meaning (denoted : Nat → Finset ConceptId) : Step → Finset ConceptId
  | .clear _ => ∅
  | .unit _ concept => {concept}
  | .collect _ concepts => concepts.toFinset
  | .extend place concepts => denoted place ∪ concepts.toFinset
  | .insert place concept => Insert.insert concept (denoted place)
  | .erase place concept => (denoted place).erase concept
  | .copy _ source => denoted source
  | .unite place source => denoted place ∪ denoted source
  | .intersect left right _ => denoted left ∩ denoted right

/-- The mathematical sets after a step. -/
def denote (denoted : Nat → Finset ConceptId) (step : Step) :
    Nat → Finset ConceptId :=
  Function.update denoted step.target (step.meaning denoted)

/-- The mathematical sets after a list of steps that starts from empty ones. -/
def denoted (steps : List Step) : Nat → Finset ConceptId :=
  steps.foldl denote fun _ => ∅

variable {workspace : Workspace} {step : Step} {place : Nat}

theorem get_apply_of_ne (elsewhere : place ≠ step.target) :
    (step.apply workspace).get place = workspace.get place :=
  workspace.get_put_of_ne _ elsewhere

theorem get_apply_target :
    (step.apply workspace).get step.target = step.value workspace :=
  workspace.get_put_self _ _

theorem reportsChange_insert_iff :
    (insert place concept).reportsChange workspace = true ↔
      ((insert place concept).apply workspace).get place ≠
        workspace.get place := by
  have written :
      ((insert place concept).apply workspace).get place =
        (workspace.get place).insert concept :=
    get_apply_target
  rw [written, reportsChange, insertReport, decide_eq_true_iff, Ne,
    insert_eq_self_iff]

theorem reportsChange_erase_iff :
    (erase place concept).reportsChange workspace = true ↔
      ((erase place concept).apply workspace).get place ≠
        workspace.get place := by
  have written :
      ((erase place concept).apply workspace).get place =
        (workspace.get place).erase concept :=
    get_apply_target
  rw [written, reportsChange, eraseReport, decide_eq_true_iff, Ne,
    erase_eq_self_iff, Decidable.not_not]

end Step

namespace Workspace

/-- Every place holds the set that is denoted there. -/
def Represents
    (workspace : Workspace) (denoted : Nat → Finset ConceptId) : Prop :=
  ∀ place, (workspace.get place).members = denoted place

variable {workspace : Workspace} {denoted : Nat → Finset ConceptId}

theorem represents_empty : empty.Represents fun _ => ∅ := by
  intro place
  rw [empty, Shelf.get_fill, members_empty]

theorem Represents.members_value
    (represents : workspace.Represents denoted) (step : Step) :
    (step.value workspace).members = step.meaning denoted := by
  cases step with
  | clear place => exact members_empty
  | unit place concept => exact members_singleton
  | collect place concepts => exact members_ofList
  | extend place concepts =>
      rw [Step.value, members_insertMany, represents place]
      rfl
  | insert place concept =>
      rw [Step.value, insertReport, members_insert, represents place]
      rfl
  | erase place concept =>
      rw [Step.value, eraseReport, members_erase, represents place]
      rfl
  | copy place source => exact represents source
  | unite place source =>
      rw [Step.value, members_union, represents place, represents source]
      rfl
  | intersect left right place =>
      rw [Step.value, members_inter, represents left, represents right]
      rfl

theorem Represents.apply
    (represents : workspace.Represents denoted) (step : Step) :
    (step.apply workspace).Represents (step.denote denoted) := by
  intro place
  by_cases written : place = step.target
  · rw [written, Step.get_apply_target, represents.members_value, Step.denote,
      Function.update_self]
  · rw [Step.get_apply_of_ne written, represents place, Step.denote,
      Function.update_of_ne written]

theorem Represents.run
    (represents : workspace.Represents denoted) (steps : List Step) :
    (workspace.run steps).Represents (steps.foldl Step.denote denoted) := by
  induction steps generalizing workspace denoted with
  | nil => exact represents
  | cons step steps inductionHypothesis =>
      exact inductionHypothesis (represents.apply step)

/-- The sets are listed in ascending order, and whatever is asked of them is
answered by what they denote. -/
structure Refines
    (workspace : Workspace) (denoted : Nat → Finset ConceptId) : Prop where
  ascending : ∀ place, (workspace.get place).toList.Pairwise (· < ·)
  nodup : ∀ place, (workspace.get place).toList.Nodup
  mem_iff : ∀ place concept,
    concept ∈ workspace.get place ↔ concept ∈ denoted place
  size_eq : ∀ place, (workspace.get place).size = (denoted place).card
  isEmpty_iff : ∀ place,
    (workspace.get place).isEmpty = true ↔ denoted place = ∅
  first?_eq_none_iff : ∀ place,
    (workspace.get place).first? = none ↔ denoted place = ∅
  first?_eq_some_iff : ∀ place concept,
    (workspace.get place).first? = some concept ↔
      concept ∈ denoted place ∧
        ∀ other ∈ denoted place, other ≠ concept → concept < other
  isDisjoint_iff : ∀ left right,
    (workspace.get left).isDisjoint (workspace.get right) = true ↔
      Disjoint (denoted left) (denoted right)
  subset_iff : ∀ left right,
    workspace.get left ⊆ workspace.get right ↔ denoted left ⊆ denoted right
  eq_iff : ∀ left right,
    workspace.get left = workspace.get right ↔ denoted left = denoted right
  /-- An insertion reports a change exactly if it makes one. -/
  reportsChange_insert_iff : ∀ place concept,
    (Step.insert place concept).reportsChange workspace = true ↔
      ((Step.insert place concept).apply workspace).get place ≠
        workspace.get place
  /-- An erasure reports a change exactly if it makes one. -/
  reportsChange_erase_iff : ∀ place concept,
    (Step.erase place concept).reportsChange workspace = true ↔
      ((Step.erase place concept).apply workspace).get place ≠
        workspace.get place
  /-- A step leaves what is at other places as it was. -/
  get_apply_of_ne : ∀ (step : Step) place, place ≠ step.target →
    (step.apply workspace).get place = workspace.get place

theorem Represents.refines (represents : workspace.Represents denoted) :
    workspace.Refines denoted where
  ascending place := (workspace.get place).ascending
  nodup place := (workspace.get place).toList_nodup
  mem_iff place concept := by rw [← represents place, mem_members]
  size_eq place := by rw [← represents place, card_members]
  isEmpty_iff place := by rw [← represents place, isEmpty_iff_members]
  first?_eq_none_iff place := by
    rw [← represents place, ConceptSet.first?_eq_none_iff]
  first?_eq_some_iff place concept := by
    rw [← represents place, ConceptSet.first?_eq_some_iff]
  isDisjoint_iff left right := by
    rw [← represents left, ← represents right, isDisjoint_iff_members]
  subset_iff left right := by
    rw [← represents left, ← represents right, subset_iff_members]
  eq_iff left right := by
    rw [← represents left, ← represents right, members_inj]
  reportsChange_insert_iff _ _ := Step.reportsChange_insert_iff
  reportsChange_erase_iff _ _ := Step.reportsChange_erase_iff
  get_apply_of_ne _ _ := Step.get_apply_of_ne

/-! ## Main result -/

/-- However sets are edited, they are what the mathematical sets edited in the
same way are, and two of them are equal exactly if they denote the same, even
if they come about by different steps. -/
theorem run_refines (steps : List Step) :
    (empty.run steps).Refines (Step.denoted steps) ∧
      ∀ (others : List Step) (place other : Nat),
        (empty.run steps).get place = (empty.run others).get other ↔
          Step.denoted steps place = Step.denoted others other := by
  have represents := represents_empty.run steps
  refine ⟨represents.refines, ?_⟩
  intro others place other
  have othersRepresent := represents_empty.run others
  rw [Step.denoted, Step.denoted, ← represents place, ← othersRepresent other,
    members_inj]

end Workspace

end ConceptRules.ConceptSet
