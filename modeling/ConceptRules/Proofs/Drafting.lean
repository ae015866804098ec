import ConceptRules.Draft.Closing
import ConceptRules.Draft.Step
import ConceptRules.Proofs.Naming

/-!
# Drafts in good order

Whatever is asked of a draft, in strict and in lenient moments, it stays in good
order: nothing is known of its concepts yet but what they are, no two of them
share a name, its rules are rules that it would accept again, and its findings
are rejections in the order of submission (`Draft.Orderly`).  Each step keeps
this.  It follows that concepts and names are in accord, that a refusal names
defined concepts only, and that the draft can always be finished.
-/

namespace ConceptRules

/-- The place in the order of submission of a rejected rule. -/
def Finding.position? : Finding → Option Nat
  | .contradicted _ _ _ => none
  | .rejected position _ => some position

/-- Every concept that the rule mentions is defined. -/
def Vocabulary.Defines (vocabulary : Vocabulary) (rule : Rule) : Prop :=
  ∀ concept ∈ rule.concepts, concept.index < vocabulary.size

/-- The rule speaks of defined concepts, asks for some of them, and does not
contradict itself. -/
structure Vocabulary.Admits (vocabulary : Vocabulary) (rule : Rule) : Prop where
  defined : vocabulary.Defines rule
  someConcept : rule.trigger.pattern.concepts ≠ []
  consistent : rule.selfClash.isEmpty = true

theorem Vocabulary.Admits.define
    {vocabulary : Vocabulary} {rule : Rule} (admitted : vocabulary.Admits rule)
    (name : String) (assumption : Assumption) :
    (vocabulary.define name assumption).Admits rule := by
  refine { admitted with defined := ?_ }
  intro concept mentioned
  have inRange := admitted.defined concept mentioned
  rw [size, Vocabulary.define, List.length_append]
  exact Nat.lt_add_right _ inRange

namespace Draft

variable {draft : Draft} {rule : Rule}

/-! ## Judging a rule -/

/-- What becomes of a submitted rule, and why. -/
inductive Judged (draft : Draft) (rule : Rule) : Submission → Prop where
  | foreign {concept : ConceptId}
      (mentioned : concept ∈ rule.concepts)
      (notDefined : draft.vocabulary.size ≤ concept.index) :
      Judged draft rule (.refused
        { fault := .unknownConcept concept, site := some draft.site })
  | memberless
      (defined : draft.vocabulary.Defines rule)
      (noConcept : rule.trigger.pattern.concepts = []) :
      Judged draft rule (.refused
        { fault := .emptyGroup, site := some draft.site })
  | accepted (admitted : draft.vocabulary.Admits rule) :
      Judged draft rule (.accepted ⟨draft.rules.length⟩)
  | inconsistent
      (defined : draft.vocabulary.Defines rule)
      (contradicts : ¬rule.selfClash.isEmpty = true)
      (strict : draft.strict = true) :
      Judged draft rule (.refused
        { fault := .inconsistentRule
            (draft.vocabulary.names rule.selfClash.asserted)
            (draft.vocabulary.names rule.selfClash.denied) })
  | dropped
      (defined : draft.vocabulary.Defines rule)
      (contradicts : ¬rule.selfClash.isEmpty = true)
      (lenient : ¬draft.strict = true) :
      Judged draft rule (.dropped draft.submitted rule.selfClash)

theorem judged (draft : Draft) (rule : Rule) :
    Judged draft rule (draft.judge rule) := by
  rw [judge]
  split
  case h_1 foreign found =>
    apply Judged.foreign (List.mem_of_find?_eq_some found)
    simpa using List.find?_some found
  case h_2 noneForeign =>
    have defined : draft.vocabulary.Defines rule := by
      intro concept mentioned
      simpa using List.find?_eq_none.1 noneForeign concept mentioned
    by_cases noConcept : rule.trigger.pattern.concepts = []
    · rw [if_pos (List.isEmpty_iff.2 noConcept)]
      exact .memberless defined noConcept
    · rw [if_neg (mt List.isEmpty_iff.1 noConcept)]
      by_cases consistent : rule.selfClash.isEmpty = true
      · rw [if_pos consistent]
        exact .accepted ⟨defined, noConcept, consistent⟩
      · rw [if_neg consistent]
        by_cases strict : draft.strict = true
        · rw [if_pos strict]
          exact .inconsistent defined consistent strict
        · rw [if_neg strict]
          exact .dropped defined consistent strict

theorem judge_eq_accepted_iff {id : RuleId} :
    draft.judge rule = .accepted id ↔
      draft.vocabulary.Admits rule ∧ id = ⟨draft.rules.length⟩ := by
  have judged := draft.judged rule
  generalize draft.judge rule = submission at judged ⊢
  cases judged with
  | foreign mentioned notDefined =>
      refine iff_of_false Submission.noConfusion ?_
      intro accepted
      exact Nat.not_le_of_lt (accepted.1.defined _ mentioned) notDefined
  | memberless _ noConcept =>
      refine iff_of_false Submission.noConfusion ?_
      intro accepted
      exact accepted.1.someConcept noConcept
  | accepted admitted =>
      rw [Submission.accepted.injEq, eq_comm]
      exact (and_iff_right admitted).symm
  | inconsistent _ contradicts =>
      refine iff_of_false Submission.noConfusion ?_
      intro accepted
      exact contradicts accepted.1.consistent
  | dropped _ contradicts =>
      refine iff_of_false Submission.noConfusion ?_
      intro accepted
      exact contradicts accepted.1.consistent

/-! ## Good order -/

/-- What every step keeps. -/
structure Orderly (draft : Draft) : Prop where
  /-- Nothing is known of a concept yet but that it is itself. -/
  unclosed : ∀ concept ∈ draft.vocabulary.concepts,
    concept = .define concept.id concept.name concept.assumption
  namesDistinct : draft.vocabulary.NamesDistinct
  admitted : ∀ rule ∈ draft.rules, draft.vocabulary.Admits rule
  rejected : ∀ finding ∈ draft.findings,
    ∃ position ∈ finding.position?, position < draft.submitted
  ascending : draft.findings.Pairwise fun earlier later =>
    ∃ first ∈ earlier.position?, ∃ second ∈ later.position?, first < second

theorem orderly_empty : empty.Orderly where
  unclosed := List.forall_mem_nil _
  namesDistinct := List.nodup_nil
  admitted := List.forall_mem_nil _
  rejected := List.forall_mem_nil _
  ascending := List.Pairwise.nil

theorem Orderly.define (orderly : draft.Orderly) (name : String) :
    (draft.define name).2.Orderly := by
  rw [Draft.define]
  split
  case h_1 => exact orderly
  case h_2 isNew =>
    refine { orderly with unclosed := ?_, namesDistinct := ?_, admitted := ?_ }
    · intro concept member
      rcases List.mem_append.1 member with earlier | isLast
      · exact orderly.unclosed concept earlier
      · rw [List.mem_singleton.1 isLast]
        rfl
    · exact orderly.namesDistinct.define draft.assumption isNew
    · intro rule isRule
      exact (orderly.admitted rule isRule).define name draft.assumption

theorem Orderly.defineAll (orderly : draft.Orderly) (names : List String) :
    (draft.defineAll names).2.Orderly := by
  induction names generalizing draft with
  | nil => exact orderly
  | cons name names inductionHypothesis =>
      exact inductionHypothesis (orderly.define name)

/-- A submission is counted, and else nothing happens. -/
theorem Orderly.count (orderly : draft.Orderly) :
    { draft with submitted := draft.submitted + 1 }.Orderly := by
  refine { orderly with rejected := ?_ }
  intro finding isFinding
  obtain ⟨position, isPosition, earlier⟩ := orderly.rejected finding isFinding
  exact ⟨position, isPosition, Nat.lt_succ_of_lt earlier⟩

theorem Orderly.submit (orderly : draft.Orderly) (rule : Rule) :
    (draft.submit rule).2.Orderly := by
  have judged := draft.judged rule
  rw [Draft.submit]
  generalize draft.judge rule = submission at judged ⊢
  cases judged with
  | foreign => exact orderly.count
  | memberless => exact orderly.count
  | inconsistent => exact orderly.count
  | accepted admitted =>
      refine { orderly.count with admitted := ?_ }
      intro other isRule
      rcases List.mem_append.1 isRule with earlier | isLast
      · exact orderly.admitted other earlier
      · rw [List.mem_singleton.1 isLast]
        exact admitted
  | dropped =>
      refine { orderly.count with rejected := ?_, ascending := ?_ }
      · intro finding isFinding
        rcases List.mem_append.1 isFinding with earlier | isLast
        · exact orderly.count.rejected finding earlier
        · rw [List.mem_singleton.1 isLast]
          exact ⟨draft.submitted, rfl, Nat.lt_succ_self _⟩
      · refine List.pairwise_append.2
          ⟨orderly.ascending, List.pairwise_singleton _ _, ?_⟩
        intro finding isFinding last isLast
        obtain ⟨position, isPosition, earlier⟩ :=
          orderly.rejected finding isFinding
        rw [List.mem_singleton.1 isLast]
        exact ⟨position, isPosition, draft.submitted, rfl, earlier⟩

theorem Orderly.apply (orderly : draft.Orderly) (step : Step) :
    (draft.apply step).2.Orderly := by
  cases step with
  | define name => exact orderly.define name
  | defineAll names => exact orderly.defineAll names
  | assume assumption => exact { orderly with }
  | setStrict strict => exact { orderly with }
  | submit rule => exact orderly.submit rule

theorem Orderly.run (orderly : draft.Orderly) (steps : List Step) :
    (draft.run steps).2.Orderly := by
  induction steps generalizing draft with
  | nil => exact orderly
  | cons step steps inductionHypothesis =>
      exact inductionHypothesis (orderly.apply step)

/-! ## Defining names -/

/-- To define a name changes nothing but the vocabulary. -/
theorem define_frame (draft : Draft) (name : String) :
    (draft.define name).2 =
      { draft with vocabulary := (draft.define name).2.vocabulary } := by
  rw [define]
  split <;> rfl

theorem defineAll_frame (draft : Draft) (names : List String) :
    (draft.defineAll names).2 =
      { draft with vocabulary := (draft.defineAll names).2.vocabulary } := by
  induction names generalizing draft with
  | nil => rfl
  | cons name names inductionHypothesis =>
      have firstFrame := define_frame draft name
      have othersFrame := inductionHypothesis (draft.define name).2
      exact othersFrame.trans (congrArg
        (fun defined : Draft =>
          { defined with
            vocabulary := (draft.defineAll (name :: names)).2.vocabulary })
        firstFrame)

/-- A submission leaves the vocabulary as it is. -/
theorem vocabulary_submit (draft : Draft) (rule : Rule) :
    (draft.submit rule).2.vocabulary = draft.vocabulary := by
  rw [submit]
  split <;> rfl

/-! ## Counting submissions -/

/-- The step submits a rule. -/
def Step.isSubmission : Step → Bool
  | .submit _ => true
  | _ => false

theorem submitted_submit (draft : Draft) (rule : Rule) :
    (draft.submit rule).2.submitted = draft.submitted + 1 := by
  rw [submit]
  split <;> rfl

theorem submitted_apply (draft : Draft) (step : Step) :
    (draft.apply step).2.submitted =
      draft.submitted + [step].countP Step.isSubmission := by
  cases step with
  | define name =>
      have sameCount := congrArg submitted (define_frame draft name)
      exact sameCount
  | defineAll names =>
      have sameCount := congrArg submitted (defineAll_frame draft names)
      exact sameCount
  | assume assumption => rfl
  | setStrict strict => rfl
  | submit rule => exact submitted_submit draft rule

theorem submitted_run (draft : Draft) (steps : List Step) :
    (draft.run steps).2.submitted =
      draft.submitted + steps.countP Step.isSubmission := by
  induction steps generalizing draft with
  | nil => rfl
  | cons step steps inductionHypothesis =>
      rw [run, inductionHypothesis, submitted_apply, Nat.add_assoc,
        ← List.countP_append]
      rfl

/-! ## Finishing -/

/-- The vocabulary of the finished ontology. -/
def closedVocabulary (draft : Draft) : Vocabulary where
  concepts := draft.closings.map Closing.closed
  placed := by
    have sameIds :
        (draft.closings.map Closing.closed).map Concept.id =
          draft.vocabulary.concepts.map Concept.id := by
      rw [closings, List.map_map, List.map_map]
      rfl
    have sameLength :
        (draft.closings.map Closing.closed).length =
          draft.vocabulary.concepts.length := by
      rw [closings, List.length_map, List.length_map]
    rw [sameIds, sameLength]
    exact draft.vocabulary.placed

/-- What a finished draft comes to. -/
def finished (draft : Draft) : Ontology where
  vocabulary := draft.closedVocabulary
  rules := draft.rules
  findings := draft.findings ++ draft.closings.flatMap Closing.findings

/-- A draft can always be finished. -/
theorem finish_eq (draft : Draft) : draft.finish = .ok draft.finished := by
  have remade := Vocabulary.ofConcepts?_concepts draft.closedVocabulary
  rw [closedVocabulary] at remade
  simp only [finish, remade]
  rfl

theorem names_closedVocabulary (draft : Draft) :
    draft.closedVocabulary.concepts.map Concept.name =
      draft.vocabulary.concepts.map Concept.name := by
  change (draft.closings.map Closing.closed).map Concept.name = _
  rw [closings, List.map_map, List.map_map]
  rfl

theorem Orderly.namesDistinct_closedVocabulary (orderly : draft.Orderly) :
    draft.closedVocabulary.NamesDistinct := by
  rw [Vocabulary.NamesDistinct, names_closedVocabulary]
  exact orderly.namesDistinct

/-! ## Main result -/

/-- All that can be relied on in a draft. -/
structure WellFormed (draft : Draft) : Prop extends Orderly draft where
  placed : ∀ id concept, draft.vocabulary.concept? id = some concept →
    concept.id = id ∧ concept.closure = .ofIs [id] ∧ concept.standing = []
  named : ∀ name id, draft.vocabulary.idOf? name = some id ↔
    ∃ concept, draft.vocabulary.concept? id = some concept ∧
      concept.name = name
  /-- The concepts named in a refusal are looked up at places that are taken. -/
  lookedUp : ∀ rule asserted denied site,
    draft.judge rule =
        .refused { fault := .inconsistentRule asserted denied, site } →
      rule.selfClash.asserted.toList.map draft.vocabulary.nameAt? =
          asserted.map some ∧
        rule.selfClash.denied.toList.map draft.vocabulary.nameAt? =
          denied.map some
  finishes : ∃ ontology, draft.finish = .ok ontology ∧
    ontology.vocabulary.concepts.map Concept.name =
      draft.vocabulary.concepts.map Concept.name ∧
    ontology.rules = draft.rules

theorem names_of_inconsistent
    {asserted denied : List String} {site : Option Site}
    (refused :
      draft.judge rule =
        .refused { fault := .inconsistentRule asserted denied, site }) :
    rule.selfClash.asserted.toList.map draft.vocabulary.nameAt? =
        asserted.map some ∧
      rule.selfClash.denied.toList.map draft.vocabulary.nameAt? =
        denied.map some := by
  have judged := draft.judged rule
  rw [refused] at judged
  cases judged with
  | inconsistent defined =>
      have taken := rule.selfClash_takenFrom
      constructor
      · apply Vocabulary.map_nameAt?_of_defined
        intro concept named
        exact defined concept
          (Rule.mem_concepts_of_holds (taken.asserted concept named))
      · apply Vocabulary.map_nameAt?_of_defined
        intro concept named
        exact defined concept
          (Rule.mem_concepts_of_holds (taken.denied concept named))

theorem Orderly.wellFormed (orderly : draft.Orderly) : draft.WellFormed := by
  refine { orderly with
    placed := ?_
    named := fun _ _ => orderly.namesDistinct.idOf?_eq_some_iff
    lookedUp := fun _ _ _ _ refused => names_of_inconsistent refused
    finishes :=
      ⟨_, draft.finish_eq, draft.names_closedVocabulary, rfl⟩ }
  intro id concept found
  obtain ⟨member, rfl⟩ := Vocabulary.concept?_eq_some_iff.1 found
  rw [orderly.unclosed concept member]
  exact ⟨rfl, rfl, rfl⟩

/-- However a draft is made, it is well-formed, and it knows how many rules were
submitted. -/
theorem run_wellFormed (steps : List Step) :
    (empty.run steps).2.WellFormed ∧
      (empty.run steps).2.submitted = steps.countP Step.isSubmission := by
  constructor
  · exact (orderly_empty.run steps).wellFormed
  · rw [submitted_run]
    exact Nat.zero_add _

/-- A rule that contradicts itself is submitted in a lenient and in a strict
moment, between a foreign rule and a sound one. -/
def moodySteps : List Step :=
  let lakeIsNoLake : Rule := ⟨⟨false, .single ⟨0⟩⟩, [⟨.isnt, ⟨0⟩⟩]⟩
  [.defineAll ["lake", "water"], .setStrict false,
    .submit ⟨⟨false, .single ⟨7⟩⟩, [⟨.is, ⟨0⟩⟩]⟩, .submit lakeIsNoLake,
    .define "lake", .submit ⟨⟨false, .single ⟨0⟩⟩, [⟨.is, ⟨1⟩⟩]⟩,
    .setStrict true, .submit lakeIsNoLake, .define "pond",
    .setStrict false, .submit lakeIsNoLake]

theorem run_wellFormed_moodySteps :
    (empty.run moodySteps).2.WellFormed ∧
      (empty.run moodySteps).2.findings.map Finding.position? =
        [some 1, some 4] ∧
      (empty.run moodySteps).2.submitted = 5 := by
  have positions :
      (empty.run moodySteps).2.findings.map Finding.position? =
        [some 1, some 4] := by
    decide +kernel
  obtain ⟨wellFormed, counted⟩ := run_wellFormed moodySteps
  exact ⟨wellFormed, positions, counted⟩

end Draft

end ConceptRules
