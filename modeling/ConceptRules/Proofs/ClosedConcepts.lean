import ConceptRules.Proofs.Drafting
import ConceptRules.Proofs.Extension
import ConceptRules.Proofs.Growth

/-!
# Closed concepts

When a draft is finished, each concept is closed under the rules, once and for
all.  To suppose the concept by its name later, in the finished ontology, leads
to the same closure, the same standing rules and the same contradictions
(`Ontology.AgreesOn`).  It does so because nothing was known of the concept in
the draft but what it is, and because its name speaks of no other concept.
-/

namespace ConceptRules

/-! ## Contradictions by concept -/

/-- The rule and the clash, if the finding is a contradiction of the concept. -/
def Finding.contradiction? (id : ConceptId) : Finding → Option (RuleId × Clash)
  | .contradicted concept rule clash =>
      if concept = id then some (rule, clash) else none
  | .rejected _ _ => none

/-- The contradictions found in the closure of a concept, in order. -/
def Ontology.contradictions (ontology : Ontology) (id : ConceptId) :
    List (RuleId × Clash) :=
  ontology.findings.filterMap (Finding.contradiction? id)

/-- What an ontology notes of a concept is what to suppose its name comes to. -/
structure Ontology.AgreesOn (ontology : Ontology) (concept : Concept) :
    Prop where
  supposed :
    ontology.vocabulary.suppose [concept.name] = .ok (.ofIs [concept.id])
  closure :
    (ontology.resolve (.ofIs [concept.id])).closure = concept.closure
  standing :
    (ontology.resolve (.ofIs [concept.id])).standing = concept.standing
  barred :
    (ontology.resolve (.ofIs [concept.id])).barred =
      ontology.contradictions concept.id

namespace Closing

variable {closing : Closing} {closings : List Closing} {id : ConceptId}

theorem contradictions_findings (closing : Closing) :
    closing.findings.filterMap (Finding.contradiction? closing.concept.id) =
      closing.run.barred := by
  rw [findings, List.filterMap_map]
  have eachKept :
      Finding.contradiction? closing.concept.id ∘
          (fun entry => .contradicted closing.concept.id entry.1 entry.2) =
        some := by
    funext entry
    exact if_pos rfl
  rw [eachKept, List.filterMap_some]

theorem contradictions_findings_of_ne (other : closing.concept.id ≠ id) :
    closing.findings.filterMap (Finding.contradiction? id) = [] := by
  rw [List.filterMap_eq_nil_iff]
  intro finding isFinding
  obtain ⟨entry, -, rfl⟩ := List.mem_map.1 isFinding
  exact if_neg other

theorem contradictions_flatMap_of_not_mem
    (absent : id ∉ closings.map fun closing => closing.concept.id) :
    (closings.flatMap findings).filterMap (Finding.contradiction? id) = [] := by
  rw [List.filterMap_flatMap, List.flatMap_eq_nil_iff]
  intro closing member
  apply contradictions_findings_of_ne
  rintro rfl
  exact absent (List.mem_map_of_mem member)

/-- The findings are kept apart by the identifiers of their concepts. -/
theorem contradictions_flatMap
    (nodup : (closings.map fun closing => closing.concept.id).Nodup)
    (member : closing ∈ closings) :
    (closings.flatMap findings).filterMap
        (Finding.contradiction? closing.concept.id) =
      closing.run.barred := by
  obtain ⟨before, after, rfl⟩ := List.append_of_mem member
  rw [List.map_append, List.map_cons, List.nodup_middle, List.nodup_cons,
    List.mem_append, not_or] at nodup
  obtain ⟨⟨notBefore, notAfter⟩, -⟩ := nodup
  rw [List.flatMap_append, List.flatMap_cons, List.filterMap_append,
    List.filterMap_append, contradictions_flatMap_of_not_mem notBefore,
    contradictions_flatMap_of_not_mem notAfter, contradictions_findings,
    List.nil_append, List.append_nil]

end Closing

/-! ## Closing the concepts of a draft -/

namespace Draft

variable {draft : Draft} {closing : Closing} {id : ConceptId}

theorem Orderly.run_of_mem_closings
    (orderly : draft.Orderly) (member : closing ∈ draft.closings) :
    closing.run = .ofRules (.ofIs [closing.concept.id]) draft.rules := by
  obtain ⟨concept, isConcept, rfl⟩ := List.mem_map.1 member
  have unclosed := congrArg Concept.closure (orderly.unclosed concept isConcept)
  exact congrArg (Run.ofRules · draft.rules) unclosed

theorem Orderly.resolve_of_mem_closings
    (orderly : draft.Orderly) (member : closing ∈ draft.closings) :
    draft.finished.resolve (.ofIs [closing.concept.id]) =
      closing.run.resolution :=
  congrArg Run.resolution (orderly.run_of_mem_closings member).symm

theorem closing_ids_nodup (draft : Draft) :
    (draft.closings.map fun closing => closing.concept.id).Nodup := by
  rw [closings, List.map_map]
  exact draft.vocabulary.ids_nodup

theorem Orderly.contradictions_finished
    (orderly : draft.Orderly) (member : closing ∈ draft.closings) :
    draft.finished.contradictions closing.concept.id = closing.run.barred := by
  have noneRejected :
      draft.findings.filterMap
        (Finding.contradiction? closing.concept.id) = [] := by
    rw [List.filterMap_eq_nil_iff]
    intro finding isFinding
    obtain ⟨position, isPosition, -⟩ := orderly.rejected finding isFinding
    cases finding with
    | rejected => rfl
    | contradicted => cases isPosition
  rw [Ontology.contradictions, finished, List.filterMap_append, noneRejected,
    List.nil_append]
  exact Closing.contradictions_flatMap draft.closing_ids_nodup member

theorem Orderly.suppose_name
    (orderly : draft.Orderly) {concept : Concept}
    (member : concept ∈ draft.closedVocabulary.concepts) :
    draft.closedVocabulary.suppose [concept.name] =
      .ok (.ofIs [concept.id]) := by
  have found :
      draft.closedVocabulary.concept? concept.id = some concept :=
    Vocabulary.concept?_eq_some_iff.2 ⟨member, rfl⟩
  have named :=
    orderly.namesDistinct_closedVocabulary.idOf?_eq_some_iff.2
      ⟨concept, found, rfl⟩
  exact Vocabulary.suppose_eq_ok (List.Forall₂.cons named List.Forall₂.nil)

theorem Orderly.agreesOn
    (orderly : draft.Orderly) {concept : Concept}
    (member : concept ∈ draft.finished.vocabulary.concepts) :
    draft.finished.AgreesOn concept := by
  have supposed := orderly.suppose_name member
  obtain ⟨closing, isClosing, rfl⟩ := List.mem_map.1 member
  have resolved := orderly.resolve_of_mem_closings isClosing
  exact {
    supposed
    closure := congrArg Resolution.closure resolved
    standing := congrArg Resolution.standing resolved
    barred := (congrArg Resolution.barred resolved).trans
      (orderly.contradictions_finished isClosing).symm }

theorem Orderly.findings_finished (orderly : draft.Orderly) :
    draft.finished.findings =
      draft.findings ++
        draft.finished.vocabulary.concepts.flatMap fun concept =>
          (draft.finished.contradictions concept.id).map fun entry =>
            .contradicted concept.id entry.1 entry.2 := by
  change draft.findings ++ draft.closings.flatMap Closing.findings =
    draft.findings ++ (draft.closings.map Closing.closed).flatMap _
  rw [List.flatMap_map]
  congr 1
  apply List.flatMap_congr
  intro closing member
  exact congrArg _ (orderly.contradictions_finished member).symm

theorem Orderly.closure_of_mem_finished
    (orderly : draft.Orderly) {concept : Concept}
    (member : concept ∈ draft.finished.vocabulary.concepts) :
    concept.id ∈ concept.closure.is ∧
      concept.closure.is.Apart concept.closure.isnt := by
  rw [← (orderly.agreesOn member).closure]
  constructor
  · apply base_within_closure_resolve _ _ .is
    exact Facts.holds_ofIs.2 ⟨rfl, List.mem_singleton_self _⟩
  · intro other asserted denied
    have supposed := Ontology.supposed_of_contradiction asserted denied
    cases (Facts.holds_ofIs.1 supposed.2).1

/-! ## Main result -/

/-- In every finished ontology, what is noted of the concepts is what is found
out when their names are supposed.  The findings are the rejections and then,
concept by concept, the contradictions. -/
theorem finish_agrees_with_resolve (steps : List Step) :
    ∃ ontology, (empty.run steps).2.finish = .ok ontology ∧
      (∀ concept ∈ ontology.vocabulary.concepts,
        ontology.AgreesOn concept ∧
          concept.id ∈ concept.closure.is ∧
          concept.closure.is.Apart concept.closure.isnt) ∧
      ∃ rejected : List Finding,
        (∀ finding ∈ rejected, finding.position?.isSome = true) ∧
          ontology.findings =
            rejected ++
              ontology.vocabulary.concepts.flatMap fun concept =>
                (ontology.contradictions concept.id).map fun entry =>
                  .contradicted concept.id entry.1 entry.2 := by
  have orderly := orderly_empty.run steps
  refine ⟨_, finish_eq _, ?_, _, ?_, orderly.findings_finished⟩
  · intro concept member
    exact ⟨orderly.agreesOn member, orderly.closure_of_mem_finished member⟩
  · intro finding isFinding
    obtain ⟨position, isPosition, -⟩ := orderly.rejected finding isFinding
    exact Option.isSome_of_mem isPosition

/-- A lake is water, and water is no lake; a rule that contradicts itself is
submitted first. -/
def lakeSteps : List Step :=
  [.defineAll ["lake", "water", "pond"], .setStrict false,
    .submit ⟨⟨false, .single ⟨2⟩⟩, [⟨.isnt, ⟨2⟩⟩]⟩,
    .submit ⟨⟨false, .single ⟨0⟩⟩, [⟨.is, ⟨1⟩⟩]⟩,
    .submit ⟨⟨false, .single ⟨1⟩⟩, [⟨.isnt, ⟨0⟩⟩]⟩]

theorem finish_agrees_with_resolve_lakeSteps :
    ∃ ontology, (empty.run lakeSteps).2.finish = .ok ontology ∧
      (∀ concept ∈ ontology.vocabulary.concepts, ontology.AgreesOn concept) ∧
      ontology.findings.map Finding.position? = [some 0, none] ∧
      (ontology.contradictions ⟨0⟩).map Prod.fst = [⟨1⟩] := by
  obtain ⟨ontology, isFinished, agrees, -⟩ :=
    finish_agrees_with_resolve lakeSteps
  have sameOntology : (empty.run lakeSteps).2.finished = ontology :=
    Except.ok.inj ((finish_eq _).symm.trans isFinished)
  refine ⟨ontology, isFinished, fun concept member => (agrees concept member).1,
    ?_⟩
  rw [← sameOntology]
  decide +kernel

end Draft

end ConceptRules
