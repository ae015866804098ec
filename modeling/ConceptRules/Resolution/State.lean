import ConceptRules.Resolution.Appraisal

/-!
# The state of a resolution

Every rule of the list is pending, standing or withdrawn.  The facts are not
kept but follow from the state: they are the base together with what the
standing rules entail (`State.closure`).

There are two ways to move on, and both read all rules against the same facts.
`State.promote` admits every pending rule that fits: it stands from then on.
`State.withdraw` takes every standing rule that does not fit any more out of
the resolution, for good.
-/

namespace ConceptRules

/-- A rule on its way through a resolution, with the gap that its trigger last
showed, if it was ever found wanting. -/
structure Candidate where
  id : RuleId
  rule : Rule
  gap : Option Gap := none
  deriving DecidableEq

namespace Candidate

/-- The trigger holds and the consequence contradicts nothing. -/
def Fits (candidate : Candidate) (facts : Facts) : Prop :=
  candidate.rule.appraise facts = .fits

instance (candidate : Candidate) (facts : Facts) :
    Decidable (candidate.Fits facts) :=
  inferInstanceAs (Decidable (_ = Appraisal.fits))

/-- The clash that bars a candidate whose trigger holds. -/
def clash? (candidate : Candidate) (facts : Facts) :
    Option (RuleId × Clash) :=
  match candidate.rule.appraise facts with
  | .barred clash => some (candidate.id, clash)
  | _ => none

/-- Note the gap of a trigger that does not hold. -/
def review (facts : Facts) (candidate : Candidate) : Candidate :=
  match candidate.rule.appraise facts with
  | .unmet gap => { candidate with gap := some gap }
  | _ => candidate

@[simp]
theorem id_review (facts : Facts) (candidate : Candidate) :
    (candidate.review facts).id = candidate.id := by
  rw [review]
  split <;> rfl

@[simp]
theorem rule_review (facts : Facts) (candidate : Candidate) :
    (candidate.review facts).rule = candidate.rule := by
  rw [review]
  split <;> rfl

end Candidate

/-- Where every rule of a list has got to. -/
structure State where
  /-- The rules that were never admitted, in list order. -/
  pending : List Candidate
  /-- The admitted rules, in order of admission. -/
  standing : List Candidate := []
  /-- The rules that were admitted once, in order of withdrawal. -/
  withdrawn : List Candidate := []
  deriving DecidableEq

namespace State

/-- Nothing is admitted yet. -/
def start (rules : List Rule) : State where
  pending := rules.mapIdx fun index rule => { id := ⟨index⟩, rule }

/-- The base and all that the standing rules entail. -/
def closure (state : State) (base : Facts) : Facts :=
  base.mergeAll (state.standing.map fun candidate =>
    candidate.rule.consequence)

/-! ## Admitting -/

/-- The pending rules that fit the facts. -/
def admissible (state : State) (facts : Facts) : List Candidate :=
  state.pending.filter fun candidate => candidate.Fits facts

/-- The pending rules that only a contradiction keeps out. -/
def barred (state : State) (facts : Facts) : List (RuleId × Clash) :=
  state.pending.filterMap fun candidate => candidate.clash? facts

/-- Let every pending rule that fits the facts stand. -/
def promote (state : State) (facts : Facts) : State :=
  { state with
    pending :=
      (state.pending.filter fun candidate => ¬candidate.Fits facts).map
        (Candidate.review facts)
    standing := state.standing ++ state.admissible facts }

/-! ## Withdrawing -/

/-- The standing rules that do not fit the facts. -/
def stale (state : State) (facts : Facts) : List Candidate :=
  state.standing.filter fun candidate => ¬candidate.Fits facts

/-- Withdraw every standing rule that does not fit the facts. -/
def withdraw (state : State) (facts : Facts) : State :=
  { state with
    standing := state.standing.filter fun candidate => candidate.Fits facts
    withdrawn :=
      state.withdrawn ++ (state.stale facts).map (Candidate.review facts) }

/-! ## What gets shorter -/

private theorem length_filter_lt
    {candidates : List Candidate} {kept : Candidate → Bool}
    (dropsSome : candidates.filter (fun candidate => !kept candidate) ≠ []) :
    (candidates.filter kept).length < candidates.length := by
  obtain ⟨dropped, member⟩ := List.exists_mem_of_ne_nil _ dropsSome
  obtain ⟨isCandidate, notKept⟩ := List.mem_filter.1 member
  exact List.length_filter_lt_length_iff_exists.2
    ⟨dropped, isCandidate, by simpa using notKept⟩

/-- Admitting leaves fewer rules pending, unless none was admissible. -/
theorem length_pending_promote_lt
    {state : State} {facts : Facts}
    (someAdmissible : state.admissible facts ≠ []) :
    (state.promote facts).pending.length < state.pending.length := by
  rw [promote, List.length_map]
  apply length_filter_lt
  simpa [admissible] using someAdmissible

/-- Withdrawing leaves fewer rules standing, unless none was stale. -/
theorem length_standing_withdraw_lt
    {state : State} {facts : Facts}
    (someStale : state.stale facts ≠ []) :
    (state.withdraw facts).standing.length < state.standing.length := by
  apply length_filter_lt
  simpa [stale] using someStale

end State

end ConceptRules
