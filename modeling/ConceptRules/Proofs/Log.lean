import Mathlib.Algebra.GroupWithZero.Nat
import Mathlib.Data.List.DropRight
import ConceptRules.Proofs.Termination

/-!
# What the log tells

A resolution is told in events while it goes on, and reported when it is over.
Whoever only reads the log, by the messages of the events and the numbers they
carry, finds the report again (`Resolution.ToldBy`): how many rounds there were,
how many rules were admitted in each, which of them were withdrawn, and which
rules were barred in the end.

The log is taken apart round by round (`Round.events`), and put together by
adding the last round at the end (`chronicle_concat`).
-/

namespace ConceptRules

/-! ## Reading a log -/

/-- The number that an event carries in a field. -/
def Event.count? (event : Event) (field : String) : Option Nat :=
  match event.fields.lookup field with
  | some (.count value) => some value
  | _ => none

/-- The events of a log with a given message. -/
def saying (message : String) (log : List Event) : List Event :=
  log.filter fun event => event.message = message

/-- The events with a given message carry these numbers, in this order. -/
def Carries
    (log : List Event) (message field : String) (numbers : List Nat) : Prop :=
  (saying message log).map (Event.count? · field) = numbers.map some

/-- The events that lead up to the last one with a given message: those after
the one before it, or all of them if there is no other. -/
def leadingUpTo (message : String) (log : List Event) : List Event :=
  (log.rdropWhile fun event => event.message ≠ message).dropLast.rtakeWhile
    fun event => event.message ≠ message

/-- A log tells what a resolution comes to. -/
structure Resolution.ToldBy
    (resolution : Resolution) (log : List Event) : Prop where
  rounds :
    Carries log "resolution round" "round" (List.range' 1 resolution.rounds)
  /-- The last round admits no rule, and all the others do. -/
  admitted :
    ∃ earlier,
      Carries log "resolution round" "admitted" (earlier ++ [0]) ∧
        (∀ number ∈ earlier, 0 < number) ∧
        earlier.sum =
          resolution.standing.length + resolution.withdrawn.length
  barredCount :
    ∃ earlier,
      Carries log "resolution round" "incompatible"
        (earlier ++ [resolution.barred.length])
  barred :
    saying "incompatible with current facts"
        (leadingUpTo "resolution round" log) =
      resolution.barred.map fun entry => .barred entry.1
  withdrawn :
    saying "retracted" log = resolution.withdrawn.map .withdrawn
  passes :
    ∃ numbers,
      Carries log "retraction pass" "retracted" numbers ∧
        (∀ number ∈ numbers, 0 < number) ∧
        numbers.sum = resolution.withdrawn.length

section Reading

variable {message field : String}

theorem saying_append (earlier later : List Event) :
    saying message (earlier ++ later) =
      saying message earlier ++ saying message later :=
  List.filter_append earlier later

theorem saying_flatMap {α : Type} (told : α → List Event) (items : List α) :
    saying message (items.flatMap told) =
      items.flatMap fun item => saying message (told item) :=
  List.filter_flatMap

theorem saying_eq_self
    {log : List Event} (allSay : ∀ event ∈ log, event.message = message) :
    saying message log = log := by
  rw [saying, List.filter_eq_self]
  intro event told
  exact decide_eq_true (allSay event told)

theorem saying_eq_nil
    {log : List Event} (noneSays : ∀ event ∈ log, event.message ≠ message) :
    saying message log = [] := by
  rw [saying, List.filter_eq_nil_iff]
  intro event told
  simpa using noneSays event told

theorem rtakeWhile_append_of_none_says
    (earlier : List Event) {later : List Event}
    (noneSays : ∀ event ∈ later, event.message ≠ message) :
    (earlier ++ later).rtakeWhile (fun event => event.message ≠ message) =
      earlier.rtakeWhile (fun event => event.message ≠ message) ++ later := by
  have allPass :
      ∀ event ∈ later.reverse, decide (event.message ≠ message) = true := by
    intro event told
    exact decide_eq_true (noneSays event (List.mem_reverse.1 told))
  rw [List.rtakeWhile, List.rtakeWhile, List.reverse_append,
    List.takeWhile_append_of_pos allPass, List.reverse_append,
    List.reverse_reverse]

theorem Carries.append
    {earlier later : List Event} {first second : List Nat}
    (carriesFirst : Carries earlier message field first)
    (carriesSecond : Carries later message field second) :
    Carries (earlier ++ later) message field (first ++ second) := by
  rw [Carries, saying_append, List.map_append, List.map_append]
  exact congrArg₂ (· ++ ·) carriesFirst carriesSecond

/-- If the log ends with the message, the rest of it is read from its end up to
the message. -/
theorem leadingUpTo_concat
    (log : List Event) {mark : Event} (bears : mark.message = message) :
    leadingUpTo message (log ++ [mark]) =
      log.rtakeWhile fun event => event.message ≠ message := by
  have stays :
      (log ++ [mark]).rdropWhile (fun event => event.message ≠ message) =
        log ++ [mark] := by
    apply List.rdropWhile_concat_neg
    simpa using bears
  rw [leadingUpTo, stays, List.dropLast_concat]

end Reading

/-! ## The events of one round -/

namespace Round

variable (round : Round) (number : Nat)

/-- The event that counts the round. -/
def counted : Event :=
  .round number round.admitted.length round.barred.length

/-- The events that come before it. -/
def opening : List Event :=
  round.barred.map fun entry => .barred entry.1

/-- The events that come after it. -/
def settling : List Event :=
  round.passes.flatMap fun rules =>
    .pass rules.length :: rules.map .withdrawn

theorem events_eq :
    round.events number =
      round.opening ++ [round.counted number] ++ round.settling :=
  rfl

theorem message_counted :
    (round.counted number).message = "resolution round" :=
  rfl

theorem message_of_mem_opening
    {event : Event} (told : event ∈ round.opening) :
    event.message = "incompatible with current facts" := by
  obtain ⟨entry, _, rfl⟩ := List.mem_map.1 told
  rfl

theorem message_of_mem_withdrawals
    {rules : List RuleId} {event : Event}
    (told : event ∈ rules.map Event.withdrawn) :
    event.message = "retracted" := by
  obtain ⟨rule, _, rfl⟩ := List.mem_map.1 told
  rfl

theorem message_of_mem_settling
    {event : Event} (told : event ∈ round.settling) :
    event.message = "retraction pass" ∨ event.message = "retracted" := by
  obtain ⟨rules, _, ofPass⟩ := List.mem_flatMap.1 told
  rcases List.mem_cons.1 ofPass with isPass | isWithdrawal
  · exact Or.inl (congrArg Event.message isPass)
  · exact Or.inr (message_of_mem_withdrawals isWithdrawal)

theorem ne_message_of_mem_opening
    {message : String}
    (notBarred : "incompatible with current facts" ≠ message) :
    ∀ event ∈ round.opening, event.message ≠ message := by
  intro event told
  rw [round.message_of_mem_opening told]
  exact notBarred

theorem ne_message_of_mem_settling
    {message : String} (notPass : "retraction pass" ≠ message)
    (notWithdrawal : "retracted" ≠ message) :
    ∀ event ∈ round.settling, event.message ≠ message := by
  intro event told
  rcases round.message_of_mem_settling told with isPass | isWithdrawal
  · rw [isPass]
    exact notPass
  · rw [isWithdrawal]
    exact notWithdrawal

theorem none_counts_in_opening :
    ∀ event ∈ round.opening, event.message ≠ "resolution round" :=
  round.ne_message_of_mem_opening (by decide)

theorem none_counts_in_settling :
    ∀ event ∈ round.settling, event.message ≠ "resolution round" :=
  round.ne_message_of_mem_settling (by decide) (by decide)

theorem none_barred_in_settling :
    ∀ event ∈ round.settling,
      event.message ≠ "incompatible with current facts" :=
  round.ne_message_of_mem_settling (by decide) (by decide)

theorem saying_round_events :
    saying "resolution round" (round.events number) =
      [round.counted number] := by
  rw [events_eq, saying_append, saying_append,
    saying_eq_nil round.none_counts_in_opening,
    saying_eq_nil round.none_counts_in_settling]
  rfl

theorem saying_pass_events :
    saying "retraction pass" (round.events number) =
      round.passes.map fun rules => .pass rules.length := by
  have ofPass (rules : List RuleId) :
      saying "retraction pass"
          (.pass rules.length :: rules.map Event.withdrawn) =
        [.pass rules.length] := by
    have noneLater :
        saying "retraction pass" (rules.map Event.withdrawn) = [] := by
      apply saying_eq_nil
      intro event told
      rw [message_of_mem_withdrawals told]
      decide
    exact congrArg (Event.pass rules.length :: ·) noneLater
  rw [events_eq, saying_append, saying_append,
    saying_eq_nil (round.ne_message_of_mem_opening (by decide)), settling,
    saying_flatMap, List.map_eq_flatMap]
  simp only [ofPass]
  rfl

theorem saying_withdrawn_events :
    saying "retracted" (round.events number) =
      round.passes.flatMap fun rules => rules.map .withdrawn := by
  have ofPass (rules : List RuleId) :
      saying "retracted" (.pass rules.length :: rules.map Event.withdrawn) =
        rules.map Event.withdrawn :=
    saying_eq_self fun event told => message_of_mem_withdrawals told
  rw [events_eq, saying_append, saying_append,
    saying_eq_nil (round.ne_message_of_mem_opening (by decide)), settling,
    saying_flatMap]
  simp only [ofPass]
  rfl

end Round

/-! ## The events of several rounds -/

/-- The events of the rounds, numbered from one. -/
def chronicle (rounds : List Round) : List Event :=
  (rounds.mapIdx fun index round => round.events (index + 1)).flatten

theorem events_eq_chronicle (run : Run) :
    run.events = chronicle run.rounds :=
  rfl

theorem chronicle_concat (rounds : List Round) (round : Round) :
    chronicle (rounds ++ [round]) =
      chronicle rounds ++ round.events (rounds.length + 1) := by
  rw [chronicle, List.mapIdx_concat, List.flatten_concat]
  rfl

/-- What every round tells whatever its number, the log tells round by round. -/
theorem saying_chronicle
    {message : String} {told : Round → List Event}
    (ofRound :
      ∀ round number, saying message (round.events number) = told round)
    (rounds : List Round) :
    saying message (chronicle rounds) = rounds.flatMap told := by
  induction rounds using List.reverseRecOn with
  | nil => rfl
  | append_singleton rounds round inductionHypothesis =>
      rw [chronicle_concat, saying_append, inductionHypothesis, ofRound,
        List.flatMap_append, List.flatMap_singleton]

theorem carries_chronicle
    {message field : String} {numbers : Round → List Nat}
    (ofRound : ∀ round number,
      Carries (round.events number) message field (numbers round))
    (rounds : List Round) :
    Carries (chronicle rounds) message field (rounds.flatMap numbers) := by
  induction rounds using List.reverseRecOn with
  | nil => rfl
  | append_singleton rounds round inductionHypothesis =>
      rw [chronicle_concat, List.flatMap_append, List.flatMap_singleton]
      exact inductionHypothesis.append (ofRound round _)

/-- The rounds are numbered from one. -/
theorem carries_number_chronicle (rounds : List Round) :
    Carries (chronicle rounds) "resolution round" "round"
      (List.range' 1 rounds.length) := by
  induction rounds using List.reverseRecOn with
  | nil => rfl
  | append_singleton rounds round inductionHypothesis =>
      have ofRound :
          Carries (round.events (rounds.length + 1)) "resolution round" "round"
            [1 + rounds.length] := by
        rw [Carries, Round.saying_round_events, Nat.add_comm]
        rfl
      rw [chronicle_concat, List.length_append, List.length_singleton,
        List.range'_1_concat]
      exact inductionHypothesis.append ofRound

theorem carries_admitted_chronicle (rounds : List Round) :
    Carries (chronicle rounds) "resolution round" "admitted"
      (rounds.map fun round => round.admitted.length) := by
  rw [List.map_eq_flatMap]
  apply carries_chronicle
  intro round number
  rw [Carries, Round.saying_round_events]
  rfl

theorem carries_barred_chronicle (rounds : List Round) :
    Carries (chronicle rounds) "resolution round" "incompatible"
      (rounds.map fun round => round.barred.length) := by
  rw [List.map_eq_flatMap]
  apply carries_chronicle
  intro round number
  rw [Carries, Round.saying_round_events]
  rfl

theorem carries_pass_chronicle (rounds : List Round) :
    Carries (chronicle rounds) "retraction pass" "retracted"
      ((rounds.flatMap Round.passes).map List.length) := by
  rw [List.map_flatMap]
  apply carries_chronicle
  intro round number
  rw [Carries, Round.saying_pass_events, List.map_map, List.map_map]
  rfl

theorem saying_withdrawn_chronicle (rounds : List Round) :
    saying "retracted" (chronicle rounds) =
      (rounds.flatMap Round.passes).flatten.map .withdrawn := by
  rw [saying_chronicle Round.saying_withdrawn_events, List.map_flatten,
    ← List.flatMap_def, List.flatMap_assoc]

/-- After the last count of a round come its passes. -/
theorem rtakeWhile_chronicle_concat (rounds : List Round) (round : Round) :
    (chronicle (rounds ++ [round])).rtakeWhile
        (fun event => event.message ≠ "resolution round") =
      round.settling := by
  rw [chronicle_concat, Round.events_eq, ← List.append_assoc,
    ← List.append_assoc,
    rtakeWhile_append_of_none_says _ round.none_counts_in_settling,
    List.rtakeWhile_concat_neg _ _ _ (by simp [Round.message_counted]),
    List.nil_append]

/-- Before the count of a last round without passes come the passes of the
round before it, which say nothing of barred rules, and the barred rules. -/
theorem saying_barred_leadingUpTo
    (earlier : List Round) {round : Round} (noPasses : round.passes = []) :
    saying "incompatible with current facts"
        (leadingUpTo "resolution round" (chronicle (earlier ++ [round]))) =
      round.barred.map fun entry => .barred entry.1 := by
  have noneAfter : round.settling = [] := by
    rw [Round.settling, noPasses, List.flatMap_nil]
  have noneBefore :
      saying "incompatible with current facts"
          ((chronicle earlier).rtakeWhile fun event =>
            event.message ≠ "resolution round") =
        [] := by
    rcases List.eq_nil_or_concat' earlier with
      rfl | ⟨rounds, previous, rfl⟩
    · rfl
    · rw [rtakeWhile_chronicle_concat]
      exact saying_eq_nil previous.none_barred_in_settling
  rw [chronicle_concat, Round.events_eq, noneAfter, List.append_nil,
    ← List.append_assoc, leadingUpTo_concat _ (round.message_counted _),
    rtakeWhile_append_of_none_says _ round.none_counts_in_opening,
    saying_append, noneBefore, List.nil_append]
  exact saying_eq_self fun event told => round.message_of_mem_opening told

/-! ## The rounds of a resolution -/

theorem State.admitted_ne_nil_of_mem_dropLast
    (base : Facts) (state : State) {round : Round}
    (isEarlier : round ∈ (state.saturate base).rounds.dropLast) :
    round.admitted ≠ [] := by
  fun_induction saturate base state with
  | case1 => exact absurd isEarlier List.not_mem_nil
  | case2 state facts settlement first someAdmissible rest
      inductionHypothesis =>
      have someRound : rest.rounds ≠ [] :=
        List.length_pos_iff.1 (length_rounds_pos base _)
      rw [List.dropLast_cons_of_ne_nil someRound] at isEarlier
      rcases List.mem_cons.1 isEarlier with isFirst | isLater
      · rw [isFirst]
        exact mt List.map_eq_nil_iff.1 someAdmissible
      · exact inductionHypothesis isLater

section Report

variable (base : Facts) (rules : List Rule)

/-- Every round but the last admits a rule; the last one admits and withdraws
nothing. -/
theorem exists_rounds_ofRules :
    ∃ earlier,
      (Run.ofRules base rules).rounds =
          earlier ++ [(State.atRest base rules).closingRound base] ∧
        ∀ round ∈ earlier, round.admitted ≠ [] := by
  obtain ⟨_, earlier, sameRounds⟩ :=
    (State.settled_start base rules).last_round
  refine ⟨earlier, sameRounds, ?_⟩
  intro round isEarlier
  apply State.admitted_ne_nil_of_mem_dropLast base (State.start rules)
  rw [sameRounds, List.dropLast_concat]
  exact isEarlier

theorem exists_admitted_numbers :
    ∃ earlier,
      Carries (Run.ofRules base rules).events "resolution round" "admitted"
          (earlier ++ [0]) ∧
        (∀ number ∈ earlier, 0 < number) ∧
        earlier.sum =
          (resolve base rules).standing.length +
            (resolve base rules).withdrawn.length := by
  obtain ⟨earlier, sameRounds, someAdmitted⟩ :=
    exists_rounds_ofRules base rules
  have noneAtLast :
      ((State.atRest base rules).closingRound base).admitted = [] :=
    rfl
  refine ⟨earlier.map fun round => round.admitted.length, ?_, ?_, ?_⟩
  · have carries :=
      carries_admitted_chronicle (Run.ofRules base rules).rounds
    rw [← events_eq_chronicle, sameRounds, List.map_append] at carries
    exact carries
  · intro number counted
    obtain ⟨round, isEarlier, rfl⟩ := List.mem_map.1 counted
    exact List.length_pos_iff.2 (someAdmitted round isEarlier)
  · rw [← length_admissions, Run.admissions, sameRounds, List.flatMap_append,
      List.flatMap_singleton, noneAtLast, List.append_nil, List.length_flatMap]

theorem exists_barred_numbers :
    ∃ earlier,
      Carries (Run.ofRules base rules).events "resolution round" "incompatible"
        (earlier ++ [(resolve base rules).barred.length]) := by
  obtain ⟨earlier, sameRounds, _⟩ := exists_rounds_ofRules base rules
  refine ⟨earlier.map fun round => round.barred.length, ?_⟩
  have carries := carries_barred_chronicle (Run.ofRules base rules).rounds
  rw [← events_eq_chronicle, sameRounds, List.map_append] at carries
  rw [barred_resolve]
  exact carries

theorem saying_barred_events :
    saying "incompatible with current facts"
        (leadingUpTo "resolution round" (Run.ofRules base rules).events) =
      (resolve base rules).barred.map fun entry => .barred entry.1 := by
  obtain ⟨earlier, sameRounds, _⟩ := exists_rounds_ofRules base rules
  rw [events_eq_chronicle, sameRounds, barred_resolve]
  exact saying_barred_leadingUpTo earlier rfl

theorem saying_withdrawn_events :
    saying "retracted" (Run.ofRules base rules).events =
      (resolve base rules).withdrawn.map .withdrawn := by
  rw [withdrawn_resolve_eq_flatten]
  exact saying_withdrawn_chronicle (Run.ofRules base rules).rounds

theorem exists_pass_numbers :
    ∃ numbers,
      Carries (Run.ofRules base rules).events "retraction pass" "retracted"
          numbers ∧
        (∀ number ∈ numbers, 0 < number) ∧
        numbers.sum = (resolve base rules).withdrawn.length := by
  refine ⟨(Run.ofRules base rules).passes.map List.length,
    carries_pass_chronicle (Run.ofRules base rules).rounds, ?_, ?_⟩
  · intro number counted
    obtain ⟨pass, isPass, rfl⟩ := List.mem_map.1 counted
    exact List.length_pos_iff.2
      (State.ne_nil_of_mem_passes_saturate base _ isPass)
  · rw [withdrawn_resolve_eq_flatten, List.length_flatten]

end Report

/-! ## Main result -/

/-- Whatever the base and the rules, the log accounts for the resolution. -/
theorem resolve_toldBy_events (base : Facts) (rules : List Rule) :
    (resolve base rules).ToldBy (Run.ofRules base rules).events where
  rounds := carries_number_chronicle (Run.ofRules base rules).rounds
  admitted := exists_admitted_numbers base rules
  barredCount := exists_barred_numbers base rules
  barred := saying_barred_events base rules
  withdrawn := saying_withdrawn_events base rules
  passes := exists_pass_numbers base rules

end ConceptRules
