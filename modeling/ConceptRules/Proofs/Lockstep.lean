import ConceptRules.Proofs.Rest

/-!
# Resolutions in step

Two resolutions keep in step when a relation between their states outlasts both
kinds of moves and related states agree on whether there is anything to admit
or to withdraw.  They then hold equally many rounds and come to rest in related
states.  The loops are compared here once; a comparison of two resolutions has
to look at single moves only.
-/

namespace ConceptRules

/-- A relation that the moves of two resolutions preserve. -/
structure Lockstep
    (leftBase rightBase : Facts) (Alike : State → State → Prop) : Prop where
  promote : ∀ {left right : State}, Alike left right →
    Alike (left.promote (left.closure leftBase))
      (right.promote (right.closure rightBase))
  withdraw : ∀ {left right : State}, Alike left right →
    Alike (left.withdraw (left.closure leftBase))
      (right.withdraw (right.closure rightBase))
  admissible_iff : ∀ {left right : State}, Alike left right →
    (left.admissible (left.closure leftBase) = [] ↔
      right.admissible (right.closure rightBase) = [])
  stale_iff : ∀ {left right : State}, Alike left right →
    (left.stale (left.closure leftBase) = [] ↔
      right.stale (right.closure rightBase) = [])

namespace Lockstep

variable {leftBase rightBase : Facts} {Alike : State → State → Prop}

theorem settle
    (lockstep : Lockstep leftBase rightBase Alike)
    {left right : State} (alike : Alike left right) :
    Alike (left.settle leftBase).state (right.settle rightBase).state := by
  fun_induction State.settle leftBase left generalizing right
  case case1 left facts noneStale =>
    have rightNoneStale := (lockstep.stale_iff alike).1 noneStale
    rw [State.settle, dif_pos rightNoneStale]
    exact alike
  case case2 left facts someStale rest inductionHypothesis =>
    have rightSomeStale := mt (lockstep.stale_iff alike).2 someStale
    rw [State.settle, dif_neg rightSomeStale]
    exact inductionHypothesis (lockstep.withdraw alike)

theorem afterRound
    (lockstep : Lockstep leftBase rightBase Alike)
    {left right : State} (alike : Alike left right) :
    Alike (left.afterRound leftBase) (right.afterRound rightBase) :=
  lockstep.settle (lockstep.promote alike)

theorem rest
    (lockstep : Lockstep leftBase rightBase Alike)
    {left right : State} (alike : Alike left right) :
    Alike (left.rest leftBase) (right.rest rightBase) := by
  fun_induction State.rest leftBase left generalizing right
  case case1 left noneAdmissible =>
    have rightNoneAdmissible :=
      (lockstep.admissible_iff alike).1 noneAdmissible
    rw [State.rest_of_admissible_eq_nil rightNoneAdmissible]
    exact alike
  case case2 left someAdmissible inductionHypothesis =>
    have rightSomeAdmissible :=
      mt (lockstep.admissible_iff alike).2 someAdmissible
    rw [State.rest_of_admissible_ne_nil rightSomeAdmissible]
    exact inductionHypothesis (lockstep.afterRound alike)

theorem length_rounds
    (lockstep : Lockstep leftBase rightBase Alike)
    {left right : State} (alike : Alike left right) :
    (left.saturate leftBase).rounds.length =
      (right.saturate rightBase).rounds.length := by
  fun_induction State.saturate leftBase left generalizing right
  case case1 left facts settlement round noneAdmissible =>
    have rightNoneAdmissible :=
      (lockstep.admissible_iff alike).1 noneAdmissible
    rw [State.saturate, dif_pos rightNoneAdmissible]
    rfl
  case case2 left facts settlement round someAdmissible rest
      inductionHypothesis =>
    have rightSomeAdmissible :=
      mt (lockstep.admissible_iff alike).2 someAdmissible
    have sameLength := inductionHypothesis (lockstep.afterRound alike)
    rw [State.saturate, dif_neg rightSomeAdmissible]
    rw [List.length_cons, List.length_cons, sameLength]
    rfl

end Lockstep

end ConceptRules
