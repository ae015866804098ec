import ConceptRules.Facts.Basic

/-!
# Contradiction between facts

Two bodies of facts clash where one says *is* and the other says *isn't*.  A
clash is an answer and not a failure: it says on which concepts the two sides
disagree and which side asserts them.  What can be takes no part in it.
-/

namespace ConceptRules

/-- The concepts that two sides disagree on.

For the clash of a base with a candidate, `asserted` holds what the base
asserts and the candidate denies, and `denied` what the base denies and the
candidate asserts. -/
structure Clash where
  asserted : ConceptSet := ∅
  denied : ConceptSet := ∅
  deriving DecidableEq

namespace Clash

/-- The two sides agree on every concept. -/
def isEmpty (clash : Clash) : Bool :=
  clash.asserted.isEmpty && clash.denied.isEmpty

/-- Two clashes taken together. -/
def merge (left right : Clash) : Clash where
  asserted := left.asserted ∪ right.asserted
  denied := left.denied ∪ right.denied

theorem isEmpty_iff {clash : Clash} :
    clash.isEmpty = true ↔
      (∀ concept, concept ∉ clash.asserted) ∧
        ∀ concept, concept ∉ clash.denied := by
  rw [isEmpty, Bool.and_eq_true, ConceptSet.isEmpty_iff,
    ConceptSet.isEmpty_iff]

end Clash

namespace Facts

/-- Where a candidate contradicts the base. -/
def clash (base candidate : Facts) : Clash where
  asserted := base.is ∩ candidate.isnt
  denied := base.isnt ∩ candidate.is

/-- The candidate contradicts nothing in the base. -/
def Compatible (base candidate : Facts) : Prop :=
  (base.clash candidate).isEmpty = true

instance (base candidate : Facts) : Decidable (base.Compatible candidate) :=
  inferInstanceAs (Decidable (_ = true))

theorem compatible_iff {base candidate : Facts} :
    base.Compatible candidate ↔
      (∀ concept, base.Holds .is concept → ¬candidate.Holds .isnt concept) ∧
        ∀ concept, base.Holds .isnt concept →
          ¬candidate.Holds .is concept := by
  rw [Compatible, Clash.isEmpty_iff]
  simp [clash, Holds, pick]

end Facts

end ConceptRules
