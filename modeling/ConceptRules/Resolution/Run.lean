import ConceptRules.Resolution.State
import ConceptRules.Event

/-!
# Running a resolution

A round reads every pending rule against the facts as they are when the round
begins, and admits those that fit.  The facts then grow, and may by that upset
rules that stand, those just admitted included.  So the state is settled before
the next round: the standing rules that do not fit are withdrawn, and again
those that do not fit what is left, until all of them do.

Rounds follow each other until one admits nothing.  A run keeps what happened
in each of them; the events that tell it are read off that record.
-/

namespace ConceptRules

/-- What one round did. -/
structure Round where
  /-- The rules that only a contradiction with the facts kept out. -/
  barred : List (RuleId × Clash)
  admitted : List RuleId
  /-- The rules withdrawn while settling, pass by pass. -/
  passes : List (List RuleId)
  deriving DecidableEq

/-- A state in which all standing rules fit, and the passes that led there. -/
structure Settlement where
  passes : List (List RuleId)
  state : State
  deriving DecidableEq

/-- A resolution from its first round to its last. -/
structure Run where
  base : Facts
  rounds : List Round
  last : State
  deriving DecidableEq

namespace State

/-- Withdraw rules until all that stand fit. -/
def settle (base : Facts) (state : State) : Settlement :=
  let facts := state.closure base
  if _ : state.stale facts = [] then
    { passes := [], state }
  else
    let rest := (state.withdraw facts).settle base
    { rest with passes := (state.stale facts).map Candidate.id :: rest.passes }
termination_by state.standing.length
decreasing_by
  exact length_standing_withdraw_lt ‹_›

/-- Settling leaves the pending rules alone. -/
@[simp]
theorem pending_settle (base : Facts) (state : State) :
    (state.settle base).state.pending = state.pending := by
  fun_induction settle base state with
  | case1 => rfl
  | case2 state facts someStale rest inductionHypothesis =>
      exact inductionHypothesis

/-- Once a state is settled, every standing rule fits its closure. -/
theorem fits_closure_settle
    (base : Facts) (state : State) (candidate : Candidate)
    (stands : candidate ∈ (state.settle base).state.standing) :
    candidate.Fits ((state.settle base).state.closure base) := by
  fun_induction settle base state with
  | case1 state facts noneStale =>
      have notStale : candidate ∉ state.stale facts := by
        rw [noneStale]
        exact List.not_mem_nil
      simpa [stale, stands] using notStale
  | case2 state facts someStale rest inductionHypothesis =>
      exact inductionHypothesis stands

/-- Hold rounds until one admits nothing. -/
def saturate (base : Facts) (state : State) : Run :=
  let facts := state.closure base
  let settlement := (state.promote facts).settle base
  let round :=
    { barred := state.barred facts
      admitted := (state.admissible facts).map Candidate.id
      passes := settlement.passes }
  if _ : state.admissible facts = [] then
    { base, rounds := [round], last := settlement.state }
  else
    let rest := settlement.state.saturate base
    { rest with rounds := round :: rest.rounds }
termination_by state.pending.length
decreasing_by
  rw [pending_settle]
  exact length_pending_promote_lt ‹_›

end State

/-! ## The record in events -/

/-- The events of a round: the barred rules, the round, and then each pass with
the rules that it withdraws. -/
def Round.events (number : Nat) (round : Round) : List Event :=
  (round.barred.map fun entry => .barred entry.1)
    ++ [.round number round.admitted.length round.barred.length]
    ++ round.passes.flatMap fun rules =>
      .pass rules.length :: rules.map .withdrawn

namespace Run

/-- Resolve a base under a list of rules. -/
def ofRules (base : Facts) (rules : List Rule) : Run :=
  (State.start rules).saturate base

/-- The events of the rounds, numbered from one. -/
def events (run : Run) : List Event :=
  (run.rounds.mapIdx fun index round => round.events (index + 1)).flatten

end Run

end ConceptRules
