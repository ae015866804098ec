import Mathlib.Data.List.Basic
import ConceptRules.Resolution.Basic

/-!
# Resolutions in other terms

A translation puts facts and rules in other terms.  It has to be faithful: facts
may be merged before they are translated or afterwards, and a rule reads the
translated facts as it reads the facts themselves, but for the terms in which it
says what is amiss.  Then every move commutes with the translation, the loops do
as well, and a base and its rules may be resolved before or after they are put
in other terms (`Translation.resolve_translated`).
-/

namespace ConceptRules

/-- The verdict in other terms. -/
def Verdict.map (change : Gap → Gap) : Verdict → Verdict
  | .holds => .holds
  | .fails gap => .fails (change gap)

/-- A faithful way to put facts and rules, and what is said of them, in other
terms. -/
structure Translation where
  facts : Facts → Facts
  rule : Rule → Rule
  gap : Gap → Gap
  clash : Clash → Clash
  consequence_rule : ∀ original,
    (rule original).consequence = facts original.consequence
  merge_facts : ∀ left right,
    facts (left.merge right) = (facts left).merge (facts right)
  verdict_rule : ∀ original known,
    (rule original).trigger.verdict (facts known).is =
      (original.trigger.verdict known.is).map gap
  clash_facts : ∀ base candidate,
    (facts base).clash (facts candidate) = clash (base.clash candidate)
  isEmpty_clash : ∀ original, (clash original).isEmpty = original.isEmpty

namespace Translation

variable (translation : Translation)

/-! ## What is translated -/

def appraisal : Appraisal → Appraisal
  | .unmet gap => .unmet (translation.gap gap)
  | .barred clash => .barred (translation.clash clash)
  | .fits => .fits

def candidate (original : Candidate) : Candidate where
  id := original.id
  rule := translation.rule original.rule
  gap := original.gap.map translation.gap

def state (original : State) : State where
  pending := original.pending.map translation.candidate
  standing := original.standing.map translation.candidate
  withdrawn := original.withdrawn.map translation.candidate

def unmet (report : List (RuleId × Gap)) : List (RuleId × Gap) :=
  report.map fun entry => (entry.1, translation.gap entry.2)

def barred (report : List (RuleId × Clash)) : List (RuleId × Clash) :=
  report.map fun entry => (entry.1, translation.clash entry.2)

def settlement (original : Settlement) : Settlement where
  passes := original.passes
  state := translation.state original.state

def round (original : Round) : Round :=
  { original with barred := translation.barred original.barred }

def run (original : Run) : Run where
  base := translation.facts original.base
  rounds := original.rounds.map translation.round
  last := translation.state original.last

/-- The report in other terms: the rules that it speaks of, their order and the
number of rounds stay as they are. -/
def resolution (original : Resolution) : Resolution :=
  { original with
    base := translation.facts original.base
    closure := translation.facts original.closure
    unmet := translation.unmet original.unmet
    barred := translation.barred original.barred }

/-! ## Reading a rule -/

theorem compatible_facts_iff {base candidate : Facts} :
    (translation.facts base).Compatible (translation.facts candidate) ↔
      base.Compatible candidate := by
  rw [Facts.Compatible, Facts.Compatible, clash_facts, isEmpty_clash]

theorem appraise_rule (original : Rule) (known : Facts) :
    (translation.rule original).appraise (translation.facts known) =
      translation.appraisal (original.appraise known) := by
  rw [Rule.appraise, Rule.appraise, verdict_rule]
  cases original.trigger.verdict known.is with
  | fails gap => rfl
  | holds =>
      simp only [Verdict.map, consequence_rule, clash_facts,
        compatible_facts_iff]
      split
      · rfl
      · rfl

theorem fits_candidate_iff {original : Candidate} {known : Facts} :
    (translation.candidate original).Fits (translation.facts known) ↔
      original.Fits known := by
  have sameReading :=
    translation.appraise_rule original.rule known
  rw [Candidate.Fits, Candidate.Fits, candidate, sameReading]
  cases original.rule.appraise known with
  | unmet gap => simp [appraisal]
  | barred clash => simp [appraisal]
  | fits => simp [appraisal]

theorem review_candidate (original : Candidate) (known : Facts) :
    (translation.candidate original).review (translation.facts known) =
      translation.candidate (original.review known) := by
  have sameReading :=
    translation.appraise_rule original.rule known
  rw [Candidate.review, Candidate.review, candidate, sameReading]
  cases original.rule.appraise known with
  | unmet gap => rfl
  | barred clash => rfl
  | fits => rfl

theorem clash?_candidate (original : Candidate) (known : Facts) :
    (translation.candidate original).clash? (translation.facts known) =
      (original.clash? known).map fun entry =>
        (entry.1, translation.clash entry.2) := by
  have sameReading :=
    translation.appraise_rule original.rule known
  rw [Candidate.clash?, Candidate.clash?, candidate, sameReading]
  cases original.rule.appraise known with
  | unmet gap => rfl
  | barred clash => rfl
  | fits => rfl

/-! ## Moves -/

section Moves

variable (original : State) (known base : Facts)

theorem facts_mergeAll (sources : List Facts) :
    translation.facts (known.mergeAll sources) =
      (translation.facts known).mergeAll
        (sources.map translation.facts) := by
  induction sources generalizing known with
  | nil => rfl
  | cons head rest inductionHypothesis =>
      have merged := inductionHypothesis (known.merge head)
      rw [merge_facts] at merged
      exact merged

theorem closure_state :
    (translation.state original).closure (translation.facts base) =
      translation.facts (original.closure base) := by
  rw [State.closure, State.closure, facts_mergeAll, state, List.map_map,
    List.map_map]
  have sameConsequences :
      (fun stands : Candidate => stands.rule.consequence) ∘
          translation.candidate =
        translation.facts ∘ fun stands => stands.rule.consequence :=
    funext fun stands => translation.consequence_rule stands.rule
  rw [sameConsequences]

private theorem filter_candidates
    {kept keptAfter : Candidate → Bool} (candidates : List Candidate)
    (agree : ∀ tested,
      keptAfter (translation.candidate tested) = kept tested) :
    (candidates.map translation.candidate).filter keptAfter =
      (candidates.filter kept).map translation.candidate := by
  rw [List.filter_map]
  exact congrArg _ (List.filter_congr fun tested _ => agree tested)

private theorem filter_fits (candidates : List Candidate) :
    (candidates.map translation.candidate).filter
        (fun tested => tested.Fits (translation.facts known)) =
      (candidates.filter fun tested => tested.Fits known).map
        translation.candidate := by
  apply filter_candidates
  intro tested
  exact decide_eq_decide.2 translation.fits_candidate_iff

private theorem filter_not_fits (candidates : List Candidate) :
    (candidates.map translation.candidate).filter
        (fun tested => ¬tested.Fits (translation.facts known)) =
      (candidates.filter fun tested => ¬tested.Fits known).map
        translation.candidate := by
  apply filter_candidates
  intro tested
  exact decide_eq_decide.2 (not_congr translation.fits_candidate_iff)

private theorem map_review (candidates : List Candidate) :
    (candidates.map translation.candidate).map
        (Candidate.review (translation.facts known)) =
      (candidates.map (Candidate.review known)).map
        translation.candidate := by
  rw [List.map_map, List.map_map]
  apply List.map_congr_left
  intro tested _
  exact translation.review_candidate tested known

theorem admissible_state :
    (translation.state original).admissible (translation.facts known) =
      (original.admissible known).map translation.candidate :=
  translation.filter_fits known original.pending

theorem stale_state :
    (translation.state original).stale (translation.facts known) =
      (original.stale known).map translation.candidate :=
  translation.filter_not_fits known original.standing

theorem barred_state :
    (translation.state original).barred (translation.facts known) =
      translation.barred (original.barred known) := by
  rw [State.barred, State.barred, barred, List.map_filterMap, state,
    List.filterMap_map]
  apply List.filterMap_congr
  intro tested _
  exact translation.clash?_candidate tested known

theorem promote_state :
    (translation.state original).promote (translation.facts known) =
      translation.state (original.promote known) := by
  rw [State.promote, State.promote, admissible_state]
  simp only [state, filter_not_fits, map_review, List.map_append]

theorem withdraw_state :
    (translation.state original).withdraw (translation.facts known) =
      translation.state (original.withdraw known) := by
  rw [State.withdraw, State.withdraw, stale_state]
  simp only [state, filter_fits, map_review, List.map_append]

end Moves

private theorem map_id_candidate (candidates : List Candidate) :
    (candidates.map translation.candidate).map Candidate.id =
      candidates.map Candidate.id := by
  rw [List.map_map]
  rfl

/-! ## Loops -/

theorem settle_state (base : Facts) (original : State) :
    (translation.state original).settle (translation.facts base) =
      translation.settlement (original.settle base) := by
  fun_induction State.settle base original with
  | case1 original known noneStale =>
      have stillNone :
          (translation.state original).stale
              ((translation.state original).closure
                (translation.facts base)) = [] := by
        rw [closure_state, stale_state, noneStale, List.map_nil]
      rw [State.settle, dif_pos stillNone]
      rfl
  | case2 original known someStale rest inductionHypothesis =>
      have stillSome :
          (translation.state original).stale
              ((translation.state original).closure
                (translation.facts base)) ≠ [] := by
        rw [closure_state, stale_state]
        exact mt List.map_eq_nil_iff.1 someStale
      rw [State.settle, dif_neg stillSome, closure_state, withdraw_state,
        inductionHypothesis, stale_state, map_id_candidate]
      rfl

theorem saturate_state (base : Facts) (original : State) :
    (translation.state original).saturate (translation.facts base) =
      translation.run (original.saturate base) := by
  fun_induction State.saturate base original with
  | case1 original known settlement round noneAdmissible =>
      have stillNone :
          (translation.state original).admissible
              ((translation.state original).closure
                (translation.facts base)) = [] := by
        rw [closure_state, admissible_state, noneAdmissible, List.map_nil]
      rw [State.saturate, dif_pos stillNone, closure_state, promote_state,
        settle_state, barred_state, admissible_state, map_id_candidate]
      rfl
  | case2 original known settlement round someAdmissible rest
      inductionHypothesis =>
      have stillSome :
          (translation.state original).admissible
              ((translation.state original).closure
                (translation.facts base)) ≠ [] := by
        rw [closure_state, admissible_state]
        exact mt List.map_eq_nil_iff.1 someAdmissible
      rw [State.saturate, dif_neg stillSome, closure_state, promote_state,
        settle_state, barred_state, admissible_state, map_id_candidate]
      have later := inductionHypothesis
      simp only [Translation.settlement]
      rw [later]
      rfl

/-! ## What is reported -/

theorem state_start (rules : List Rule) :
    State.start (rules.map translation.rule) =
      translation.state (State.start rules) := by
  have samePending :
      (State.start (rules.map translation.rule)).pending =
        (State.start rules).pending.map translation.candidate := by
    apply List.ext_getElem?
    intro index
    rw [State.start, State.start, List.getElem?_mapIdx, List.getElem?_map,
      List.getElem?_map, List.getElem?_mapIdx]
    cases rules[index]? <;> rfl
  exact congrArg (fun pending => ({ pending } : State)) samePending

theorem run_translated (base : Facts) (rules : List Rule) :
    Run.ofRules (translation.facts base) (rules.map translation.rule) =
      translation.run (Run.ofRules base rules) := by
  rw [Run.ofRules, Run.ofRules, state_start, saturate_state]

theorem unmet_state (original : State) :
    (translation.state original).unmet =
      translation.unmet original.unmet := by
  rw [State.unmet, State.unmet, state, ← List.map_append, sortOn_map, unmet,
    List.map_filterMap, List.filterMap_map]
  apply List.filterMap_congr
  intro tested _
  cases gap : tested.gap <;> simp [candidate, gap]

theorem barred_run (original : Run) :
    (translation.run original).barred =
      translation.barred original.barred := by
  rw [Run.barred, Run.barred, run, List.getLast?_map]
  cases original.rounds.getLast? <;> rfl

theorem resolution_run (original : Run) :
    (translation.run original).resolution =
      translation.resolution original.resolution := by
  have sameClosure :=
    translation.closure_state original.last original.base
  have sameUnmet := translation.unmet_state original.last
  have sameBarred := translation.barred_run original
  apply Resolution.ext
  · rfl
  · exact sameClosure
  · exact translation.map_id_candidate original.last.standing
  · exact sameUnmet
  · exact sameBarred
  · exact translation.map_id_candidate original.last.withdrawn
  · exact List.length_map _

/-- To resolve translated facts under translated rules is to translate the
resolution. -/
theorem resolve_translated (base : Facts) (rules : List Rule) :
    resolve (translation.facts base) (rules.map translation.rule) =
      translation.resolution (resolve base rules) := by
  rw [resolve, resolve, run_translated, resolution_run]

end Translation

end ConceptRules
