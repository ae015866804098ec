import ConceptRules.ConceptSet.Lemmas

/-!
# Facts about a subject

A subject *is* some concepts, *isn't* others, and *can be* still others.  The
three sets are independent: a concept may be in several of them, and whether
`is` and `isnt` overlap is for `Facts.clash` to say.

Facts are determined by what holds in them (`Facts.ext_of_holds`), and merging
adds up what holds (`holds_merge`, `holds_mergeAll`).
-/

namespace ConceptRules

/-- How a subject is related to a concept. -/
inductive Verb where
  | is
  | isnt
  | canBe
  deriving DecidableEq

namespace Verb

/-- The verbs in their canonical order. -/
def all : List Verb := [.is, .isnt, .canBe]

def text : Verb → String
  | .is => "is"
  | .isnt => "isn't"
  | .canBe => "can-be"

end Verb

/-- What is known or supposed of a subject. -/
structure Facts where
  is : ConceptSet := ∅
  isnt : ConceptSet := ∅
  canBe : ConceptSet := ∅
  deriving DecidableEq

namespace Facts

/-- Nothing is known or supposed. -/
def empty : Facts where

instance : EmptyCollection Facts where
  emptyCollection := empty

/-- The facts that a subject is each of some concepts. -/
def ofIs (concepts : List ConceptId) : Facts where
  is := ConceptSet.ofList concepts

/-- The concepts that stand under a verb. -/
def pick (facts : Facts) : Verb → ConceptSet
  | .is => facts.is
  | .isnt => facts.isnt
  | .canBe => facts.canBe

/-- The concept stands under the verb. -/
def Holds (facts : Facts) (verb : Verb) (concept : ConceptId) : Prop :=
  concept ∈ facts.pick verb

instance (facts : Facts) (verb : Verb) (concept : ConceptId) :
    Decidable (facts.Holds verb concept) :=
  inferInstanceAs (Decidable (concept ∈ facts.pick verb))

/-- The concept stands under some verb. -/
def Mentions (facts : Facts) (concept : ConceptId) : Prop :=
  ∃ verb ∈ Verb.all, facts.Holds verb concept

instance (facts : Facts) (concept : ConceptId) :
    Decidable (facts.Mentions concept) :=
  inferInstanceAs (Decidable (∃ verb ∈ Verb.all, facts.Holds verb concept))

def isEmpty (facts : Facts) : Bool :=
  facts.is.isEmpty && facts.isnt.isEmpty && facts.canBe.isEmpty

/-- The facts with another set under one verb. -/
def replace (facts : Facts) (concepts : ConceptSet) : Verb → Facts
  | .is => { facts with is := concepts }
  | .isnt => { facts with isnt := concepts }
  | .canBe => { facts with canBe := concepts }

/-- State one more fact. -/
def insert (facts : Facts) (verb : Verb) (concept : ConceptId) : Facts :=
  facts.replace ((facts.pick verb).insert concept) verb

/-- Take one fact back. -/
def erase (facts : Facts) (verb : Verb) (concept : ConceptId) : Facts :=
  facts.replace ((facts.pick verb).erase concept) verb

/-- State one more fact, and tell whether it is new. -/
def insertReport (facts : Facts) (verb : Verb) (concept : ConceptId) :
    Bool × Facts :=
  (decide (¬facts.Holds verb concept), facts.insert verb concept)

/-- Take one fact back, and tell whether it was there. -/
def eraseReport (facts : Facts) (verb : Verb) (concept : ConceptId) :
    Bool × Facts :=
  (decide (facts.Holds verb concept), facts.erase verb concept)

/-- Everything that one or the other side states. -/
def merge (left right : Facts) : Facts where
  is := left.is ∪ right.is
  isnt := left.isnt ∪ right.isnt
  canBe := left.canBe ∪ right.canBe

/-- The facts together with everything that the sources state. -/
def mergeAll (facts : Facts) (sources : List Facts) : Facts :=
  sources.foldl merge facts

/-! ## What holds after an operation -/

theorem ext_of_holds {left right : Facts}
    (same : ∀ verb concept,
      left.Holds verb concept ↔ right.Holds verb concept) :
    left = right := by
  obtain ⟨leftIs, leftIsnt, leftCanBe⟩ := left
  obtain ⟨rightIs, rightIsnt, rightCanBe⟩ := right
  have sameIs : leftIs = rightIs := ConceptSet.ext (same .is)
  have sameIsnt : leftIsnt = rightIsnt := ConceptSet.ext (same .isnt)
  have sameCanBe : leftCanBe = rightCanBe := ConceptSet.ext (same .canBe)
  subst sameIs sameIsnt sameCanBe
  rfl

@[simp]
theorem not_holds_empty {verb : Verb} {concept : ConceptId} :
    ¬(∅ : Facts).Holds verb concept := by
  cases verb <;> exact ConceptSet.not_mem_empty

@[simp]
theorem holds_ofIs
    {concepts : List ConceptId} {verb : Verb} {concept : ConceptId} :
    (ofIs concepts).Holds verb concept ↔ verb = .is ∧ concept ∈ concepts := by
  cases verb <;> simp [ofIs, Holds, pick]

@[simp]
theorem pick_replace
    (facts : Facts) (concepts : ConceptSet) (verb tested : Verb) :
    (facts.replace concepts verb).pick tested =
      if tested = verb then concepts else facts.pick tested := by
  cases verb <;> cases tested <;> rfl

@[simp]
theorem holds_insert
    {facts : Facts} {verb tested : Verb} {concept other : ConceptId} :
    (facts.insert verb concept).Holds tested other ↔
      (tested = verb ∧ other = concept) ∨ facts.Holds tested other := by
  rw [Holds, insert, pick_replace]
  split
  case isTrue sameVerb => simp [sameVerb, Holds]
  case isFalse different => simp [different, Holds]

@[simp]
theorem holds_erase
    {facts : Facts} {verb tested : Verb} {concept other : ConceptId} :
    (facts.erase verb concept).Holds tested other ↔
      facts.Holds tested other ∧ ¬(tested = verb ∧ other = concept) := by
  rw [Holds, erase, pick_replace]
  split
  case isTrue sameVerb => simp [sameVerb, Holds]
  case isFalse different => simp [different, Holds]

@[simp]
theorem holds_merge
    {left right : Facts} {verb : Verb} {concept : ConceptId} :
    (left.merge right).Holds verb concept ↔
      left.Holds verb concept ∨ right.Holds verb concept := by
  cases verb <;> simp [merge, Holds, pick]

theorem mergeAll_cons (facts source : Facts) (sources : List Facts) :
    facts.mergeAll (source :: sources) =
      (facts.merge source).mergeAll sources :=
  rfl

@[simp]
theorem holds_mergeAll
    {facts : Facts} {sources : List Facts}
    {verb : Verb} {concept : ConceptId} :
    (facts.mergeAll sources).Holds verb concept ↔
      facts.Holds verb concept ∨
        ∃ source ∈ sources, source.Holds verb concept := by
  induction sources generalizing facts with
  | nil => simp [mergeAll]
  | cons head rest inductionHypothesis =>
      rw [mergeAll_cons, inductionHypothesis, holds_merge]
      simp [or_assoc]

end Facts

end ConceptRules
