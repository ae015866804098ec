import ConceptRules.Proofs.Drafting

/-!
# Submissions that come to nothing

A submission that is refused or dropped adds no rule.  It might as well not have
been made: without it all other steps have the replies that they had, and the
draft is finished with the same concepts, the same rules and the same findings
about them.  Only the rejections are gone, one for each dropped rule, numbered by
the submissions before it, refused ones included.
-/

namespace ConceptRules.Draft

/-- A rule was submitted and not accepted. -/
def Reply.isFutile : Reply → Bool
  | .judged (.accepted _) => false
  | .judged _ => true
  | _ => false

/-- The steps of a history but for the futile submissions. -/
def fruitful (steps : List Step) : List Step :=
  ((steps.zip (empty.run steps).1).filter fun entry =>
    !entry.2.isFutile).map Prod.fst

/-- What is found out by a step that submits a rule and has it dropped. -/
def Step.rejection? (step : Step) (reply : Reply) (position : Nat) :
    Option Finding :=
  match step, reply with
  | .submit rule, .judged (.dropped _ _) =>
      some (.rejected position rule.selfClash)
  | _, _ => none

/-- The rejection at a place of a history.  Its position is the number of
submissions before that place. -/
def rejectionAt? (steps : List Step) (place : Nat) : Option Finding := do
  let step ← steps[place]?
  let reply ← (empty.run steps).1[place]?
  step.rejection? reply ((steps.take place).countP Step.isSubmission)

/-- The rejections of a history, in order. -/
def rejections (steps : List Step) : List Finding :=
  (List.range steps.length).filterMap (rejectionAt? steps)

variable {draft left right : Draft} {steps : List Step} {step : Step}

/-! ## One more step -/

theorem run_concat (draft : Draft) (steps : List Step) (step : Step) :
    draft.run (steps ++ [step]) =
      ((draft.run steps).1 ++ [((draft.run steps).2.apply step).1],
        ((draft.run steps).2.apply step).2) := by
  induction steps generalizing draft with
  | nil => rfl
  | cons first steps inductionHypothesis =>
      rw [List.cons_append, run, inductionHypothesis]
      rfl

theorem length_replies (draft : Draft) (steps : List Step) :
    (draft.run steps).1.length = steps.length := by
  induction steps generalizing draft with
  | nil => rfl
  | cons step steps inductionHypothesis =>
      rw [run, List.length_cons, List.length_cons, inductionHypothesis]

theorem fruitful_concat (steps : List Step) (step : Step) :
    fruitful (steps ++ [step]) =
      fruitful steps ++
        if ((empty.run steps).2.apply step).1.isFutile then [] else [step] := by
  rw [fruitful, run_concat, List.zip_append (length_replies _ _).symm,
    List.filter_append, List.map_append]
  cases futile : ((empty.run steps).2.apply step).1.isFutile <;>
    simp [fruitful, futile]

theorem rejections_concat (steps : List Step) (step : Step) :
    rejections (steps ++ [step]) =
      rejections steps ++
        (step.rejection? ((empty.run steps).2.apply step).1
          (steps.countP Step.isSubmission)).toList := by
  have earlierSame :
      (List.range steps.length).filterMap (rejectionAt? (steps ++ [step])) =
        rejections steps := by
    apply List.filterMap_congr
    intro place isPlace
    have earlier : place < steps.length := List.mem_range.1 isPlace
    rw [rejectionAt?, rejectionAt?, run_concat,
      List.getElem?_append_left earlier,
      List.getElem?_append_left (by rwa [length_replies]),
      List.take_append_of_le_length (Nat.le_of_lt earlier)]
  have atLast :
      rejectionAt? (steps ++ [step]) steps.length =
        step.rejection? ((empty.run steps).2.apply step).1
          (steps.countP Step.isSubmission) := by
    have lastReply :
        (empty.run (steps ++ [step])).1[steps.length]? =
          some ((empty.run steps).2.apply step).1 := by
      rw [run_concat, ← length_replies empty steps, List.getElem?_concat_length]
    rw [rejectionAt?, lastReply, List.getElem?_concat_length,
      List.take_left]
    rfl
  rw [rejections, List.length_append, List.length_singleton, List.range_succ,
    List.filterMap_append, earlierSame, ← atLast]
  cases rejected : rejectionAt? (steps ++ [step]) steps.length with
  | none => simp [rejected]
  | some rejection => simp [rejected]

/-! ## Findings of a history -/

theorem findings_apply (draft : Draft) (step : Step) :
    (draft.apply step).2.findings =
      draft.findings ++
        (step.rejection? (draft.apply step).1 draft.submitted).toList := by
  cases step with
  | define name =>
      have sameFindings := congrArg findings (define_frame draft name)
      exact sameFindings.trans (List.append_nil _).symm
  | defineAll names =>
      have sameFindings := congrArg findings (defineAll_frame draft names)
      exact sameFindings.trans (List.append_nil _).symm
  | assume assumption => exact (List.append_nil _).symm
  | setStrict strict => exact (List.append_nil _).symm
  | submit rule =>
      have judged := draft.judged rule
      rw [apply, submit]
      generalize draft.judge rule = submission at judged ⊢
      cases judged with
      | dropped => rfl
      | foreign => exact (List.append_nil _).symm
      | memberless => exact (List.append_nil _).symm
      | accepted => exact (List.append_nil _).symm
      | inconsistent => exact (List.append_nil _).symm

/-- A draft has no other findings than the rejections of its history. -/
theorem findings_run (steps : List Step) :
    (empty.run steps).2.findings = rejections steps := by
  induction steps using List.reverseRecOn with
  | nil => rfl
  | append_singleton steps step inductionHypothesis =>
      have counted :
          (empty.run steps).2.submitted = steps.countP Step.isSubmission :=
        (submitted_run empty steps).trans (Nat.zero_add _)
      rw [run_concat, findings_apply, inductionHypothesis, counted,
        rejections_concat]

/-! ## Leaving out futile submissions -/

theorem reply_submit (draft : Draft) (rule : Rule) :
    (draft.apply (.submit rule)).1 = .judged (draft.judge rule) := by
  simp only [apply, submit]
  cases draft.judge rule <;> rfl

theorem judge_of_not_futile {rule : Rule}
    (notFutile : (draft.apply (.submit rule)).1.isFutile = false) :
    ∃ id, draft.judge rule = .accepted id := by
  rw [reply_submit] at notFutile
  cases judged : draft.judge rule with
  | accepted id => exact ⟨id, rfl⟩
  | dropped position clash =>
      rw [judged] at notFutile
      cases notFutile
  | refused failure =>
      rw [judged] at notFutile
      cases notFutile

theorem rejection?_of_not_futile {reply : Reply} {position : Nat}
    (notFutile : reply.isFutile = false) :
    step.rejection? reply position = none := by
  cases reply with
  | judged submission =>
      cases submission with
      | accepted id => cases step <;> rfl
      | dropped position clash => cases notFutile
      | refused failure => cases notFutile
  | done => cases step <;> rfl
  | defined concept => cases step <;> rfl
  | definedAll concepts => cases step <;> rfl

/-- Two drafts go on alike. -/
structure Alike (left right : Draft) : Prop where
  vocabulary : left.vocabulary = right.vocabulary
  rules : left.rules = right.rules
  assumption : left.assumption = right.assumption
  strict : left.strict = right.strict

theorem Alike.define (alike : left.Alike right) (name : String) :
    (right.define name).1 = (left.define name).1 ∧
      (left.define name).2.Alike (right.define name).2 := by
  rw [Draft.define, Draft.define, alike.vocabulary]
  cases right.vocabulary.idOf? name with
  | some concept => exact ⟨rfl, alike⟩
  | none =>
      refine ⟨rfl, ⟨?_, alike.rules, alike.assumption, alike.strict⟩⟩
      exact congrArg (right.vocabulary.define name) alike.assumption

theorem Alike.defineAll (alike : left.Alike right) (names : List String) :
    (right.defineAll names).1 = (left.defineAll names).1 ∧
      (left.defineAll names).2.Alike (right.defineAll names).2 := by
  induction names generalizing left right with
  | nil => exact ⟨rfl, alike⟩
  | cons name names inductionHypothesis =>
      obtain ⟨sameConcept, alikeThen⟩ := alike.define name
      obtain ⟨sameOthers, alikeLater⟩ := inductionHypothesis alikeThen
      refine ⟨?_, alikeLater⟩
      rw [Draft.defineAll, Draft.defineAll, sameConcept, sameOthers]

theorem Alike.judge_eq_accepted
    (alike : left.Alike right) {rule : Rule} {id : RuleId}
    (accepted : left.judge rule = .accepted id) :
    right.judge rule = .accepted id := by
  rw [judge_eq_accepted_iff] at accepted ⊢
  rw [← alike.vocabulary, ← alike.rules]
  exact accepted

theorem Alike.apply
    (alike : left.Alike right)
    (notFutile : (left.apply step).1.isFutile = false) :
    (right.apply step).1 = (left.apply step).1 ∧
      (left.apply step).2.Alike (right.apply step).2 := by
  cases step with
  | define name =>
      obtain ⟨sameConcept, alikeThen⟩ := alike.define name
      exact ⟨congrArg Reply.defined sameConcept, alikeThen⟩
  | defineAll names =>
      obtain ⟨sameConcepts, alikeThen⟩ := alike.defineAll names
      exact ⟨congrArg Reply.definedAll sameConcepts, alikeThen⟩
  | assume assumption => exact ⟨rfl, { alike with assumption := rfl }⟩
  | setStrict strict => exact ⟨rfl, { alike with strict := rfl }⟩
  | submit rule =>
      obtain ⟨id, judged⟩ := judge_of_not_futile notFutile
      simp only [Draft.apply, submit, judged, alike.judge_eq_accepted judged]
      refine ⟨trivial, { alike with rules := ?_ }⟩
      exact congrArg (· ++ [rule]) alike.rules

theorem Alike.apply_of_isFutile
    (alike : left.Alike right)
    (futile : (left.apply step).1.isFutile = true) :
    (left.apply step).2.Alike right := by
  cases step with
  | define name => cases futile
  | defineAll names => cases futile
  | assume assumption => cases futile
  | setStrict strict => cases futile
  | submit rule =>
      rw [reply_submit] at futile
      cases judged : left.judge rule with
      | accepted id =>
          rw [judged] at futile
          cases futile
      | dropped position clash =>
          simp only [Draft.apply, submit, judged]
          exact { alike with }
      | refused failure =>
          simp only [Draft.apply, submit, judged]
          exact { alike with }

/-- Without the futile submissions every other step has the reply that it had,
and the draft goes on alike. -/
theorem run_fruitful (steps : List Step) :
    (empty.run (fruitful steps)).1 =
        (empty.run steps).1.filter (fun reply => !reply.isFutile) ∧
      (empty.run steps).2.Alike (empty.run (fruitful steps)).2 := by
  induction steps using List.reverseRecOn with
  | nil => exact ⟨rfl, ⟨rfl, rfl, rfl, rfl⟩⟩
  | append_singleton steps step inductionHypothesis =>
      obtain ⟨sameReplies, alike⟩ := inductionHypothesis
      rw [fruitful_concat, run_concat, List.filter_append]
      cases futile : ((empty.run steps).2.apply step).1.isFutile with
      | true =>
          rw [if_pos rfl, List.append_nil, sameReplies]
          refine ⟨?_, alike.apply_of_isFutile futile⟩
          simp [futile]
      | false =>
          obtain ⟨sameReply, alikeThen⟩ := alike.apply futile
          rw [if_neg Bool.false_ne_true, run_concat, sameReplies, sameReply]
          refine ⟨?_, alikeThen⟩
          simp [futile]

/-- Nothing is rejected once the futile submissions are left out. -/
theorem findings_run_fruitful (steps : List Step) :
    (empty.run (fruitful steps)).2.findings = [] := by
  induction steps using List.reverseRecOn with
  | nil => rfl
  | append_singleton steps step inductionHypothesis =>
      rw [fruitful_concat]
      cases futile : ((empty.run steps).2.apply step).1.isFutile with
      | true => rw [if_pos rfl, List.append_nil, inductionHypothesis]
      | false =>
          have sameReply := ((run_fruitful steps).2.apply futile).1
          rw [if_neg Bool.false_ne_true, run_concat, findings_apply,
            inductionHypothesis, sameReply, rejection?_of_not_futile futile]
          rfl

/-! ## Main result -/

theorem Alike.closings_eq (alike : left.Alike right) :
    right.closings = left.closings := by
  rw [closings, closings, alike.vocabulary, alike.rules]

theorem Alike.closedVocabulary_eq (alike : left.Alike right) :
    right.closedVocabulary = left.closedVocabulary :=
  Vocabulary.ext (congrArg (List.map Closing.closed) alike.closings_eq)

theorem position?_of_mem_closing_findings
    {closing : Closing} {finding : Finding}
    (isFinding : finding ∈ closing.findings) : finding.position? = none := by
  obtain ⟨entry, -, rfl⟩ := List.mem_map.1 isFinding
  rfl

/-- Submissions that come to nothing leave no trace but the rejections. -/
theorem futile_submissions_leave_no_trace (steps : List Step) :
    (empty.run (fruitful steps)).1 =
        (empty.run steps).1.filter (fun reply => !reply.isFutile) ∧
      ∃ whole part,
        (empty.run steps).2.finish = .ok whole ∧
          (empty.run (fruitful steps)).2.finish = .ok part ∧
          part.vocabulary = whole.vocabulary ∧
          part.rules = whole.rules ∧
          (∀ finding ∈ part.findings, finding.position? = none) ∧
          whole.findings = rejections steps ++ part.findings := by
  obtain ⟨sameReplies, alike⟩ := run_fruitful steps
  refine ⟨sameReplies, _, _, finish_eq _, finish_eq _,
    alike.closedVocabulary_eq, alike.rules.symm, ?_, ?_⟩
  · intro finding isFinding
    rw [finished, findings_run_fruitful, List.nil_append] at isFinding
    obtain ⟨closing, -, isClosing⟩ := List.mem_flatMap.1 isFinding
    exact position?_of_mem_closing_findings isClosing
  · rw [finished, finished, findings_run, findings_run_fruitful,
      alike.closings_eq, List.nil_append]

theorem futile_submissions_leave_no_trace_moodySteps :
    (empty.run (fruitful moodySteps)).1 =
        (empty.run moodySteps).1.filter (fun reply => !reply.isFutile) ∧
      (rejections moodySteps).map Finding.position? = [some 1, some 4] ∧
      (fruitful moodySteps).countP Step.isSubmission = 1 := by
  have positions :
      (rejections moodySteps).map Finding.position? = [some 1, some 4] := by
    decide +kernel
  have submissionsLeft :
      (fruitful moodySteps).countP Step.isSubmission = 1 := by
    decide +kernel
  exact ⟨(futile_submissions_leave_no_trace moodySteps).1, positions,
    submissionsLeft⟩

end ConceptRules.Draft
