import ConceptRules.Identifier

/-!
# Sets of concepts

A set is kept as the strictly ascending list of its members, so it has one
representation only: two sets with the same members are equal, however they
came about (`ConceptSet.ext`).  The operations come with one membership lemma
each, and nothing else about them is needed afterwards.
-/

namespace ConceptRules

/-- A finite set of concepts. -/
structure ConceptSet where
  /-- The members in ascending order. -/
  toList : List ConceptId
  ascending : toList.Pairwise (· < ·)
  deriving DecidableEq

/-- Add a concept to an ascending list that may hold it already. -/
def placeConcept (concept : ConceptId) :
    List ConceptId → List ConceptId
  | [] => [concept]
  | head :: rest =>
      if concept < head then
        concept :: head :: rest
      else if concept = head then
        head :: rest
      else
        head :: placeConcept concept rest

theorem mem_placeConcept
    {concept tested : ConceptId} {concepts : List ConceptId} :
    tested ∈ placeConcept concept concepts ↔
      tested = concept ∨ tested ∈ concepts := by
  induction concepts with
  | nil => simp [placeConcept]
  | cons head rest inductionHypothesis =>
      rw [placeConcept]
      split
      · simp
      · split
        case isTrue sameConcept => simp [sameConcept]
        case isFalse =>
          simp only [List.mem_cons, inductionHypothesis]
          exact or_left_comm

theorem placeConcept_ascending
    {concepts : List ConceptId} (concept : ConceptId)
    (ascending : concepts.Pairwise (· < ·)) :
    (placeConcept concept concepts).Pairwise (· < ·) := by
  induction concepts with
  | nil => simp [placeConcept]
  | cons head rest inductionHypothesis =>
      obtain ⟨headFirst, restAscending⟩ := List.pairwise_cons.1 ascending
      rw [placeConcept]
      split
      case isTrue before =>
        refine List.pairwise_cons.2 ⟨fun other member => ?_, ascending⟩
        rcases List.mem_cons.1 member with rfl | later
        · exact before
        · exact ConceptId.lt_trans before (headFirst other later)
      case isFalse notBefore =>
        split
        case isTrue => exact ascending
        case isFalse different =>
          refine List.pairwise_cons.2
            ⟨fun other member => ?_, inductionHypothesis restAscending⟩
          rcases mem_placeConcept.1 member with rfl | later
          · exact ConceptId.lt_of_not_lt_of_ne notBefore different
          · exact headFirst other later

namespace ConceptSet

/-! ## Reading a set -/

instance : Membership ConceptId ConceptSet where
  mem set concept := concept ∈ set.toList

instance (concept : ConceptId) (set : ConceptSet) :
    Decidable (concept ∈ set) :=
  inferInstanceAs (Decidable (concept ∈ set.toList))

@[simp]
theorem mem_toList {set : ConceptSet} {concept : ConceptId} :
    concept ∈ set.toList ↔ concept ∈ set :=
  Iff.rfl

def size (set : ConceptSet) : Nat :=
  set.toList.length

def isEmpty (set : ConceptSet) : Bool :=
  set.toList.isEmpty

/-- The member that was defined first. -/
def first? (set : ConceptSet) : Option ConceptId :=
  set.toList.head?

/-- Every member of the first set is in the second one. -/
instance : HasSubset ConceptSet where
  Subset inner outer := ∀ concept ∈ inner.toList, concept ∈ outer

instance (inner outer : ConceptSet) : Decidable (inner ⊆ outer) :=
  inferInstanceAs (Decidable (∀ concept ∈ inner.toList, concept ∈ outer))

/-- No concept is in both sets. -/
def Apart (left right : ConceptSet) : Prop :=
  ∀ concept ∈ left.toList, concept ∉ right

instance (left right : ConceptSet) : Decidable (left.Apart right) :=
  inferInstanceAs (Decidable (∀ concept ∈ left.toList, concept ∉ right))

/-- Two sets, the smaller one first.  Of two sets of one size the left one is
first. -/
def bySize (left right : ConceptSet) : ConceptSet × ConceptSet :=
  if left.size ≤ right.size then (left, right) else (right, left)

/-- Whether no concept is in both sets, found by searching the larger one for
the members of the smaller one. -/
def isDisjoint (left right : ConceptSet) : Bool :=
  let ordered := left.bySize right
  !ordered.1.toList.any (· ∈ ordered.2)

/-- The members, each with its identifier spelled out, between braces. -/
def describe (set : ConceptSet) : String :=
  "\x7b" ++ String.intercalate ", " (set.toList.map ConceptId.describe)
    ++ "\x7d"

/-! ## Making a set -/

def empty : ConceptSet where
  toList := []
  ascending := List.Pairwise.nil

instance : EmptyCollection ConceptSet where
  emptyCollection := empty

def singleton (concept : ConceptId) : ConceptSet where
  toList := [concept]
  ascending := List.pairwise_singleton _ _

/-- The set with one more concept. -/
def insert (set : ConceptSet) (concept : ConceptId) : ConceptSet where
  toList := placeConcept concept set.toList
  ascending := placeConcept_ascending concept set.ascending

/-- The set without a concept. -/
def erase (set : ConceptSet) (concept : ConceptId) : ConceptSet where
  toList := set.toList.filter (· ≠ concept)
  ascending := set.ascending.filter _

/-- The set with every concept of a list. -/
def insertMany (set : ConceptSet) (concepts : List ConceptId) : ConceptSet :=
  concepts.foldl insert set

/-- The set of the concepts of a list. -/
def ofList (concepts : List ConceptId) : ConceptSet :=
  empty.insertMany concepts

/-- The concepts that are in either set. -/
instance : Union ConceptSet where
  union left right :=
    if right.isEmpty then left else left.insertMany right.toList

/-- The concepts that are in both sets, collected from the smaller one. -/
instance : Inter ConceptSet where
  inter left right :=
    let ordered := left.bySize right
    ofList (ordered.1.toList.filter (· ∈ ordered.2))

/-- The set with one more concept, and whether it lacked that concept. -/
def insertReport (set : ConceptSet) (concept : ConceptId) :
    Bool × ConceptSet :=
  (decide (concept ∉ set), set.insert concept)

/-- The set without a concept, and whether it held that concept. -/
def eraseReport (set : ConceptSet) (concept : ConceptId) :
    Bool × ConceptSet :=
  (decide (concept ∈ set), set.erase concept)

end ConceptSet

end ConceptRules
