import Mathlib.Logic.Basic
import ConceptRules.Facts.Clash

/-!
# Contradictions add up

Facts are merged source by source, and so are their contradictions: what a
candidate contradicts in merged facts is what it contradicts in the sources,
taken together (`Facts.mergeAll_clash`), and the same goes for a candidate that
is merged (`Facts.clash_mergeAll`).  This is why a rule need not be held against
every rule that stands, but only against the facts that these add up to.
-/

namespace ConceptRules

/-! ## Clashes -/

namespace Clash

/-- A clash together with others, side by side. -/
def mergeAll (clash : Clash) (others : List Clash) : Clash :=
  others.foldl merge clash

/-- The clash as the other side sees it. -/
def swap (clash : Clash) : Clash where
  asserted := clash.denied
  denied := clash.asserted

variable {clash : Clash} {others : List Clash} {concept : ConceptId}

theorem mergeAll_cons (clash head : Clash) (others : List Clash) :
    clash.mergeAll (head :: others) = (clash.merge head).mergeAll others :=
  rfl

theorem swap_mergeAll (clash : Clash) (others : List Clash) :
    (clash.mergeAll others).swap =
      clash.swap.mergeAll (others.map swap) := by
  induction others generalizing clash with
  | nil => rfl
  | cons head others inductionHypothesis =>
      rw [mergeAll_cons, inductionHypothesis]
      rfl

theorem mem_asserted_mergeAll_iff :
    concept ∈ (clash.mergeAll others).asserted ↔
      ∃ one ∈ clash :: others, concept ∈ one.asserted := by
  induction others generalizing clash with
  | nil => simp [mergeAll]
  | cons head others inductionHypothesis =>
      rw [mergeAll_cons, inductionHypothesis]
      simp [merge, or_assoc]

theorem mem_denied_mergeAll_iff :
    concept ∈ (clash.mergeAll others).denied ↔
      ∃ one ∈ clash :: others, concept ∈ one.denied := by
  have swapped :
      (clash.mergeAll others).denied =
        (clash.swap.mergeAll (others.map swap)).asserted :=
    congrArg asserted (swap_mergeAll clash others)
  rw [swapped, mem_asserted_mergeAll_iff]
  simp [swap]

theorem isEmpty_mergeAll_iff :
    (clash.mergeAll others).isEmpty = true ↔
      ∀ one ∈ clash :: others, one.isEmpty = true := by
  simp only [isEmpty_iff, mem_asserted_mergeAll_iff, mem_denied_mergeAll_iff]
  constructor
  · rintro ⟨noneAsserted, noneDenied⟩ one member
    constructor
    · intro concept asserted
      exact noneAsserted concept ⟨one, member, asserted⟩
    · intro concept denied
      exact noneDenied concept ⟨one, member, denied⟩
  · intro allEmpty
    constructor
    · rintro concept ⟨one, member, asserted⟩
      exact (allEmpty one member).1 concept asserted
    · rintro concept ⟨one, member, denied⟩
      exact (allEmpty one member).2 concept denied

theorem isEmpty_swap (clash : Clash) : clash.swap.isEmpty = clash.isEmpty :=
  Bool.and_comm _ _

end Clash

/-! ## Merged facts -/

namespace Facts

/-- What one side asserts and the other denies depends on whose side it is told
from. -/
theorem clash_comm (base candidate : Facts) :
    candidate.clash base = (base.clash candidate).swap := by
  rw [clash, clash, Clash.swap, ConceptSet.inter_comm candidate.is,
    ConceptSet.inter_comm candidate.isnt]

theorem merge_clash (left right candidate : Facts) :
    (left.merge right).clash candidate =
      (left.clash candidate).merge (right.clash candidate) := by
  rw [clash, merge, ConceptSet.union_inter_distrib,
    ConceptSet.union_inter_distrib]
  rfl

theorem mergeAll_clash (base candidate : Facts) (sources : List Facts) :
    (base.mergeAll sources).clash candidate =
      (base.clash candidate).mergeAll
        (sources.map fun source => source.clash candidate) := by
  induction sources generalizing base with
  | nil => rfl
  | cons source sources inductionHypothesis =>
      rw [mergeAll_cons, inductionHypothesis, merge_clash]
      rfl

theorem clash_mergeAll (base candidate : Facts) (sources : List Facts) :
    base.clash (candidate.mergeAll sources) =
      (base.clash candidate).mergeAll
        (sources.map fun source => base.clash source) := by
  have seenFromBase (facts : Facts) :
      base.clash facts = (facts.clash base).swap :=
    clash_comm facts base
  simp only [seenFromBase, mergeAll_clash, Clash.swap_mergeAll, List.map_map]
  rfl

theorem Compatible.symm
    {left right : Facts} (compatible : left.Compatible right) :
    right.Compatible left := by
  rw [Compatible, clash_comm, Clash.isEmpty_swap]
  exact compatible

theorem mergeAll_compatible_iff
    {facts candidate : Facts} {sources : List Facts} :
    (facts.mergeAll sources).Compatible candidate ↔
      facts.Compatible candidate ∧
        ∀ source ∈ sources, source.Compatible candidate := by
  rw [Compatible, mergeAll_clash, Clash.isEmpty_mergeAll_iff,
    List.forall_mem_cons, List.forall_mem_map]
  rfl

/-- Neither the order of the sources nor their repetition matters. -/
theorem mergeAll_eq_of_same_sources
    (base : Facts) {left right : List Facts}
    (same : ∀ source, source ∈ left ↔ source ∈ right) :
    base.mergeAll left = base.mergeAll right := by
  apply ext_of_holds
  intro verb concept
  simp only [holds_mergeAll, same]

end Facts

/-! ## Main result -/

/-- The contradictions between merged facts and a candidate, told by those
between the sources and the candidate. -/
structure Facts.ClashesAddUp
    (base : Facts) (sources : List Facts) (candidate : Facts) : Prop where
  clash_eq :
    (base.mergeAll sources).clash candidate =
      (base.clash candidate).mergeAll
        (sources.map fun source => source.clash candidate)
  /-- The candidate may as well be the side that is merged. -/
  clash_eq_from_candidate :
    candidate.clash (base.mergeAll sources) =
      (candidate.clash base).mergeAll
        (sources.map fun source => candidate.clash source)
  mem_asserted_iff : ∀ concept,
    concept ∈ ((base.mergeAll sources).clash candidate).asserted ↔
      ∃ facts ∈ base :: sources, concept ∈ (facts.clash candidate).asserted
  mem_denied_iff : ∀ concept,
    concept ∈ ((base.mergeAll sources).clash candidate).denied ↔
      ∃ facts ∈ base :: sources, concept ∈ (facts.clash candidate).denied
  isEmpty_iff :
    ((base.mergeAll sources).clash candidate).isEmpty = true ↔
      ∀ facts ∈ base :: sources, (facts.clash candidate).isEmpty = true

theorem Facts.clashesAddUp
    (base : Facts) (sources : List Facts) (candidate : Facts) :
    base.ClashesAddUp sources candidate where
  clash_eq := base.mergeAll_clash candidate sources
  clash_eq_from_candidate := candidate.clash_mergeAll base sources
  mem_asserted_iff := by
    intro concept
    rw [mergeAll_clash, Clash.mem_asserted_mergeAll_iff]
    simp
  mem_denied_iff := by
    intro concept
    rw [mergeAll_clash, Clash.mem_denied_mergeAll_iff]
    simp
  isEmpty_iff := by
    rw [List.forall_mem_cons]
    exact mergeAll_compatible_iff

/-- A candidate contradicts merged facts as it contradicts their sources taken
together, whatever the order and the repetition of the sources.  To hold the two
sides against each other the other way round swaps what is asserted with what is
denied. -/
theorem clash_bilinear
    (base : Facts) (sources : List Facts) (candidate : Facts) :
    base.ClashesAddUp sources candidate ∧
      (∀ others : List Facts,
        (∀ source, source ∈ others ↔ source ∈ sources) →
          (base.mergeAll others).clash candidate =
            (base.mergeAll sources).clash candidate) ∧
      candidate.clash base = (base.clash candidate).swap := by
  refine ⟨base.clashesAddUp sources candidate, ?_,
    base.clash_comm candidate⟩
  intro others same
  rw [base.mergeAll_eq_of_same_sources same]

/-- Two accounts of a pond, each of which a third one denies in a point. -/
def pondAccounts : List Facts :=
  [{ is := .ofList [⟨2⟩, ⟨0⟩] }, { isnt := .ofList [⟨1⟩, ⟨3⟩] }]

theorem clash_bilinear_pondAccounts :
    let candidate : Facts := { is := .ofList [⟨3⟩], isnt := .ofList [⟨2⟩, ⟨4⟩] }
    let repeated := pondAccounts.reverse ++ pondAccounts
    (∀ source, source ∈ repeated ↔ source ∈ pondAccounts) ∧
      ((Facts.ofIs [⟨4⟩]).mergeAll repeated).clash candidate =
        { asserted := .ofList [⟨2⟩, ⟨4⟩], denied := .ofList [⟨3⟩] } := by
  intro candidate repeated
  have same : ∀ source, source ∈ repeated ↔ source ∈ pondAccounts := by
    intro source
    rw [List.mem_append, List.mem_reverse, or_self]
  obtain ⟨-, unmoved, -⟩ :=
    clash_bilinear (.ofIs [⟨4⟩]) pondAccounts candidate
  refine ⟨same, ?_⟩
  rw [unmoved repeated same]
  decide

end ConceptRules
