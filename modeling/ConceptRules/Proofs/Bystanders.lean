import ConceptRules.Proofs.Partition
import ConceptRules.Proofs.Selection

/-!
# Rules that are never admitted

The facts that rules are read against come from the base and from the rules that
stand.  So a rule that is never admitted is not seen by the others, and may as
well be taken off the list: what remains is resolved in the same rounds, move by
move, and comes to the same end.

What is then reported is what was reported before, less the rules that were
taken off, with the places that the others have among themselves
(`Resolution.among`).  The places keep their order, so the reports do as well.
-/

namespace ConceptRules

variable {base : Facts} {chosen : RuleId → Bool}

/-! ## Reports at other places -/

theorem RuleId.among_lt_among
    {left right : RuleId} (leftChosen : chosen left = true)
    (precedes : left.index < right.index) :
    (left.among chosen).index < (right.among chosen).index :=
  Nat.count_strict_mono leftChosen precedes

/-- Every place among the chosen rules is the place of a chosen rule. -/
theorem exists_chosen_of_listed
    {rules : List Rule} {id : RuleId} {rule : Rule}
    (listed : (chosenRules chosen rules)[id.index]? = some rule) :
    ∃ original, chosen original = true ∧ original.among chosen = id := by
  have pends :
      { id, rule } ∈
        (State.start (chosenRules chosen rules)).members .pending :=
    State.mem_members_start.2 ⟨rfl, rfl, listed⟩
  rw [← State.only_start] at pends
  obtain ⟨original, _, isChosen, renumbered⟩ := mem_onlyChosen_iff.1 pends
  exact ⟨original.id, isChosen, congrArg Candidate.id renumbered⟩

section Report

variable {Note : Type}

/-- What a report says of the chosen rules, at their places among themselves. -/
def reportAmong
    (chosen : RuleId → Bool) (report : List (RuleId × Note)) :
    List (RuleId × Note) :=
  (report.filter fun entry => chosen entry.1).map fun entry =>
    (entry.1.among chosen, entry.2)

theorem mem_reportAmong_iff
    {report : List (RuleId × Note)} {id : RuleId} {note : Note} :
    (id, note) ∈ reportAmong chosen report ↔
      ∃ original, (original, note) ∈ report ∧ chosen original = true ∧
        original.among chosen = id := by
  simp [reportAmong, and_assoc]

theorem reportAmong_ascending
    {report : List (RuleId × Note)}
    (ascending : report.Pairwise
      fun earlier later => earlier.1.index < later.1.index) :
    (reportAmong chosen report).Pairwise
      fun earlier later => earlier.1.index < later.1.index := by
  rw [reportAmong, List.pairwise_map]
  refine (ascending.filter _).imp_of_mem ?_
  intro earlier later earlierKept _ precedes
  exact RuleId.among_lt_among (List.mem_filter.1 earlierKept).2 precedes

/-- Reports in list order that agree on every chosen rule are the same, but for
the places. -/
theorem eq_reportAmong
    {whole part : List (RuleId × Note)}
    (wholeAscending : whole.Pairwise
      fun earlier later => earlier.1.index < later.1.index)
    (partAscending : part.Pairwise
      fun earlier later => earlier.1.index < later.1.index)
    (agree : ∀ id, chosen id = true → ∀ note,
      (id, note) ∈ whole ↔ (id.among chosen, note) ∈ part)
    (partChosen : ∀ entry ∈ part,
      ∃ original, chosen original = true ∧
        original.among chosen = entry.1) :
    part = reportAmong chosen whole := by
  apply eq_of_ascending_of_mem_iff (fun entry => entry.1.index) partAscending
    (reportAmong_ascending wholeAscending)
  intro entry
  obtain ⟨id, note⟩ := entry
  rw [mem_reportAmong_iff]
  constructor
  · intro reported
    obtain ⟨original, isChosen, rfl⟩ := partChosen _ reported
    exact ⟨original, (agree original isChosen note).2 reported, isChosen, rfl⟩
  · intro reported
    obtain ⟨original, reportedThere, isChosen, rfl⟩ := reported
    exact (agree original isChosen note).1 reportedThere

end Report

/-- What a resolution reports of the chosen rules, at their places among
themselves. -/
def Resolution.among
    (chosen : RuleId → Bool) (resolution : Resolution) : Resolution :=
  { resolution with
    standing := resolution.standing.map (RuleId.among chosen)
    unmet := reportAmong chosen resolution.unmet
    barred := reportAmong chosen resolution.barred
    withdrawn := resolution.withdrawn.map (RuleId.among chosen) }

/-! ## The run without the others -/

namespace State

variable {state : State}

/-- Only chosen rules stand. -/
def StandsChosen (chosen : RuleId → Bool) (state : State) : Prop :=
  ∀ candidate ∈ state.standing, chosen candidate.id = true

theorem StandsChosen.closure_only (standsChosen : state.StandsChosen chosen) :
    (state.only chosen).closure base = state.closure base := by
  apply Facts.ext_of_holds
  intro verb concept
  rw [holds_closure_iff, holds_closure_iff]
  apply or_congr_right
  constructor
  · intro stated
    obtain ⟨candidate, stands, states⟩ := stated
    obtain ⟨original, stood, _, rfl⟩ := mem_onlyChosen_iff.1 stands
    exact ⟨original, stood, states⟩
  · intro stated
    obtain ⟨candidate, stands, states⟩ := stated
    have isChosen := standsChosen candidate stands
    exact ⟨candidate.among chosen,
      mem_onlyChosen_iff.2 ⟨candidate, stands, isChosen, rfl⟩, states⟩

theorem StandsChosen.withdraw
    (facts : Facts) (standsChosen : state.StandsChosen chosen) :
    (state.withdraw facts).StandsChosen chosen := by
  intro candidate stands
  exact standsChosen candidate (mem_standing_withdraw_iff.1 stands).1

theorem StandsChosen.settle (standsChosen : state.StandsChosen chosen) :
    (state.settle base).state.StandsChosen chosen := by
  fun_induction State.settle base state with
  | case1 => exact standsChosen
  | case2 state facts someStale rest inductionHypothesis =>
      exact inductionHypothesis (standsChosen.withdraw facts)

section Round

variable
  (standsChosen : state.StandsChosen chosen)
  (admitsChosen : ∀ candidate ∈ state.admissible (state.closure base),
    chosen candidate.id = true)

include standsChosen

theorem StandsChosen.onlyChosen_admissible :
    (state.only chosen).admissible ((state.only chosen).closure base) =
      onlyChosen chosen (state.admissible (state.closure base)) := by
  rw [standsChosen.closure_only]
  exact (State.onlyChosen_admissible fun _ _ _ => rfl).symm

include admitsChosen

theorem StandsChosen.promote :
    (state.promote (state.closure base)).StandsChosen chosen := by
  intro candidate stands
  rcases List.mem_append.1 stands with stood | isAdmissible
  · exact standsChosen candidate stood
  · exact admitsChosen candidate isAdmissible

theorem StandsChosen.afterRound :
    (state.afterRound base).StandsChosen chosen :=
  (standsChosen.promote admitsChosen).settle

theorem StandsChosen.only_afterRound :
    (state.afterRound base).only chosen =
      (state.only chosen).afterRound base := by
  have promoted :
      (state.promote (state.closure base)).only chosen =
        (state.only chosen).promote ((state.only chosen).closure base) := by
    rw [standsChosen.closure_only]
    exact only_promote fun _ _ _ => rfl
  rw [State.afterRound, State.afterRound, ← promoted]
  apply only_settle (StandsChosen chosen)
  · intro earlier earlierChosen
    exact earlierChosen.withdraw _
  · intro earlier earlierChosen candidate _ _
    rw [earlierChosen.closure_only]
  · exact standsChosen.promote admitsChosen

end Round

/-- Without rules that it never admits, a run takes as many rounds and comes to
the same end. -/
theorem StandsChosen.saturate
    (standsChosen : state.StandsChosen chosen)
    (admitsChosen : ∀ id ∈ (state.saturate base).admissions,
      chosen id = true) :
    (state.saturate base).last.only chosen =
        ((state.only chosen).saturate base).last ∧
      (state.saturate base).rounds.length =
        ((state.only chosen).saturate base).rounds.length := by
  fun_induction State.rest base state with
  | case1 state noneAdmissible =>
      have stillNone :
          (state.only chosen).admissible
            ((state.only chosen).closure base) = [] := by
        rw [standsChosen.onlyChosen_admissible, noneAdmissible]
        rfl
      rw [last_of_admissible_eq_nil noneAdmissible,
        last_of_admissible_eq_nil stillNone,
        length_rounds_of_admissible_eq_nil noneAdmissible,
        length_rounds_of_admissible_eq_nil stillNone]
      refine ⟨standsChosen.only_afterRound ?_, rfl⟩
      rw [noneAdmissible]
      exact List.forall_mem_nil _
  | case2 state someAdmissible inductionHypothesis =>
      rw [admissions_saturate_of_admissible_ne_nil someAdmissible]
        at admitsChosen
      have roundChosen :
          ∀ candidate ∈ state.admissible (state.closure base),
            chosen candidate.id = true := by
        intro candidate isAdmissible
        exact admitsChosen candidate.id
          (List.mem_append_left _ (List.mem_map_of_mem isAdmissible))
      -- the round admits a chosen rule, so the chosen ones go on as well
      obtain ⟨candidate, isAdmissible⟩ :=
        List.exists_mem_of_ne_nil _ someAdmissible
      have stillSome :
          (state.only chosen).admissible
            ((state.only chosen).closure base) ≠ [] := by
        rw [standsChosen.onlyChosen_admissible]
        exact List.ne_nil_of_mem (mem_onlyChosen_iff.2
          ⟨candidate, isAdmissible, roundChosen candidate isAdmissible, rfl⟩)
      have later := inductionHypothesis
        (standsChosen.afterRound roundChosen)
        fun id admittedLater => admitsChosen id
          (List.mem_append_right _ admittedLater)
      rw [standsChosen.only_afterRound roundChosen] at later
      rw [last_of_admissible_ne_nil someAdmissible,
        last_of_admissible_ne_nil stillSome,
        length_rounds_of_admissible_ne_nil someAdmissible,
        length_rounds_of_admissible_ne_nil stillSome, later.1, later.2]
      exact ⟨rfl, rfl⟩

end State

section Resolution

variable {rules : List Rule}
  (admitsChosen : ∀ id ∈ (Run.ofRules base rules).admissions,
    chosen id = true)

include admitsChosen

theorem run_of_admits_chosen :
    (Run.ofRules base rules).last.only chosen =
        (Run.ofRules base (chosenRules chosen rules)).last ∧
      (Run.ofRules base rules).rounds.length =
        (Run.ofRules base (chosenRules chosen rules)).rounds.length := by
  have noneStands : (State.start rules).StandsChosen chosen :=
    List.forall_mem_nil _
  rw [Run.ofRules, Run.ofRules, ← State.only_start]
  exact noneStands.saturate admitsChosen

theorem rounds_of_admits_chosen :
    (resolve base (chosenRules chosen rules)).rounds =
      (resolve base rules).rounds :=
  (run_of_admits_chosen admitsChosen).2.symm

theorem closure_of_admits_chosen :
    (resolve base (chosenRules chosen rules)).closure =
      (resolve base rules).closure := by
  have lastChosen : (Run.ofRules base rules).last.StandsChosen chosen := by
    intro candidate stands
    exact admitsChosen candidate.id (mem_admissions_iff.2
      (Or.inl (List.mem_map_of_mem stands)))
  rw [closure_resolve_eq_closure_last, closure_resolve_eq_closure_last,
    ← (run_of_admits_chosen admitsChosen).1, lastChosen.closure_only]

/-- Rules that are never admitted do not matter to the others. -/
theorem sameReport_of_admits_chosen
    {id : RuleId} (isChosen : chosen id = true) :
    SameReport (resolve base rules) id
      (resolve base (chosenRules chosen rules)) (id.among chosen) := by
  refine sameReport_of_last_only_eq
    (run_of_admits_chosen admitsChosen).1 ?_ isChosen
  intro candidate _ _
  rw [closure_of_admits_chosen admitsChosen]

theorem standing_of_admits_chosen :
    (resolve base (chosenRules chosen rules)).standing =
      (resolve base rules).standing.map (RuleId.among chosen) := by
  change (Run.ofRules base (chosenRules chosen rules)).last.standing.map
      Candidate.id =
    ((Run.ofRules base rules).last.standing.map Candidate.id).map
      (RuleId.among chosen)
  rw [← (run_of_admits_chosen admitsChosen).1]
  apply map_id_onlyChosen
  intro candidate stands
  exact admitsChosen candidate.id (mem_admissions_iff.2
    (Or.inl (List.mem_map_of_mem stands)))

theorem withdrawn_of_admits_chosen :
    (resolve base (chosenRules chosen rules)).withdrawn =
      (resolve base rules).withdrawn.map (RuleId.among chosen) := by
  change (Run.ofRules base (chosenRules chosen rules)).last.withdrawn.map
      Candidate.id =
    ((Run.ofRules base rules).last.withdrawn.map Candidate.id).map
      (RuleId.among chosen)
  rw [← (run_of_admits_chosen admitsChosen).1]
  apply map_id_onlyChosen
  intro candidate isWithdrawn
  exact admitsChosen candidate.id (mem_admissions_iff.2
    (Or.inr (List.mem_map_of_mem isWithdrawn)))

theorem barred_of_admits_chosen :
    (resolve base (chosenRules chosen rules)).barred =
      reportAmong chosen (resolve base rules).barred := by
  apply eq_reportAmong (barred_resolve_ascending base rules)
    (barred_resolve_ascending base _)
  · intro id isChosen
    exact (sameReport_of_admits_chosen admitsChosen isChosen).barred
  · intro entry isBarred
    obtain ⟨_, rule, listed, _⟩ := mem_barred_iff.1 isBarred
    exact exists_chosen_of_listed listed

theorem unmet_of_admits_chosen :
    (resolve base (chosenRules chosen rules)).unmet =
      reportAmong chosen (resolve base rules).unmet := by
  apply eq_reportAmong (unmet_resolve_ascending base rules)
    (unmet_resolve_ascending base _)
  · intro id isChosen
    exact (sameReport_of_admits_chosen admitsChosen isChosen).unmet
  · intro entry reported
    obtain ⟨_, rule, listed, _⟩ :=
      not_standing_and_observed_of_mem_unmet reported
    exact exists_chosen_of_listed listed

end Resolution

/-! ## Main result -/

/-- Rules that are never admitted may be left out, as many of them as one likes.
The closure and the number of rounds stay as they are, and so does everything
that is reported of the rules that are kept, lists and their order included, but
for the places of these rules. -/
theorem resolve_without_bystanders
    {rules : List Rule} {kept : RuleId → Bool}
    (standingKept : ∀ id ∈ (resolve base rules).standing, kept id = true)
    (withdrawnKept : ∀ id ∈ (resolve base rules).withdrawn, kept id = true) :
    (∀ id : RuleId, kept id = true → ∀ rule ∈ rules[id.index]?,
        (chosenRules kept rules)[(id.among kept).index]? = some rule) ∧
      resolve base (chosenRules kept rules) =
        (resolve base rules).among kept := by
  have admitsKept :
      ∀ id ∈ (Run.ofRules base rules).admissions, kept id = true := by
    intro id isAdmitted
    rcases mem_admissions_iff.1 isAdmitted with stands | isWithdrawn
    · exact standingKept id stands
    · exact withdrawnKept id isWithdrawn
  constructor
  · intro id isKept rule listed
    exact getElem?_chosenRules isKept listed
  · apply Resolution.ext
    · exact (base_resolve base _).trans (base_resolve base rules).symm
    · exact closure_of_admits_chosen admitsKept
    · exact standing_of_admits_chosen admitsKept
    · exact unmet_of_admits_chosen admitsKept
    · exact barred_of_admits_chosen admitsKept
    · exact withdrawn_of_admits_chosen admitsKept
    · exact rounds_of_admits_chosen admitsKept

/-- A quarrel at the even places, and onlookers: one that the base contradicts
and that is triggered in the first round only, one that is never triggered, and
one that is barred in the end. -/
def onlookers : List Rule :=
  [⟨⟨false, .single ⟨0⟩⟩, [⟨.is, ⟨1⟩⟩]⟩,
    ⟨⟨true, .single ⟨2⟩⟩, [⟨.isnt, ⟨0⟩⟩]⟩,
    ⟨⟨false, .single ⟨0⟩⟩, [⟨.isnt, ⟨1⟩⟩]⟩,
    ⟨⟨false, .single ⟨7⟩⟩, [⟨.is, ⟨8⟩⟩]⟩,
    ⟨⟨false, .single ⟨0⟩⟩, [⟨.is, ⟨2⟩⟩, ⟨.isnt, ⟨3⟩⟩]⟩,
    ⟨⟨false, .single ⟨2⟩⟩, [⟨.isnt, ⟨0⟩⟩]⟩]

theorem resolve_without_bystanders_onlookers :
    (∀ id ∈ (resolve (.ofIs [⟨0⟩]) onlookers).standing,
        decide (id.index ∉ [1, 3]) = true) ∧
      (∀ id ∈ (resolve (.ofIs [⟨0⟩]) onlookers).withdrawn,
        decide (id.index ∉ [1, 3]) = true) ∧
      resolve (.ofIs [⟨0⟩]) (chosenRules (·.index ∉ [1, 3]) onlookers) =
        (resolve (.ofIs [⟨0⟩]) onlookers).among (·.index ∉ [1, 3]) := by
  have standingKept :
      ∀ id ∈ (resolve (.ofIs [⟨0⟩]) onlookers).standing,
        decide (id.index ∉ [1, 3]) = true := by
    decide +kernel
  have withdrawnKept :
      ∀ id ∈ (resolve (.ofIs [⟨0⟩]) onlookers).withdrawn,
        decide (id.index ∉ [1, 3]) = true := by
    decide +kernel
  exact ⟨standingKept, withdrawnKept,
    (resolve_without_bystanders standingKept withdrawnKept).2⟩

end ConceptRules
