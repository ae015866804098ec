import ConceptRules.Proofs.Drafting
import ConceptRules.Proofs.FirstMention

/-!
# Names there and back

A draft defines a concept for every name that is new to it.  So the concepts of
the finished ontology have the names that were mentioned, in the order in which
they were mentioned first (`Draft.nameList_run`), and each name speaks of one
concept.

A list of names is then as good as a set of concepts
(`Vocabulary.RoundTrips`).  The names of a set give back the set.  Names in any
order, some of them maybe twice, give a set whose names are these, once each and
in order of definition; and if a name was never mentioned, the first such one is
reported.
-/

namespace ConceptRules

namespace Vocabulary

/-- The names of all concepts, in order of definition. -/
def nameList (vocabulary : Vocabulary) : List String :=
  vocabulary.concepts.map Concept.name

variable {vocabulary : Vocabulary} {concept : Concept} {concepts : ConceptSet}
  {name stranger : String} {names : List String}

/-! ## Names of a set -/

theorem nameOf_id (member : concept ∈ vocabulary.concepts) :
    vocabulary.nameOf concept.id = concept.name := by
  rw [nameOf, concept?_eq_some_iff.2 ⟨member, rfl⟩]

theorem exists_concept_of_index_lt {id : ConceptId}
    (inRange : id.index < vocabulary.size) :
    ∃ concept ∈ vocabulary.concepts, concept.id = id := by
  obtain ⟨concept, found⟩ := exists_concept?_iff.2 inRange
  exact ⟨concept, concept?_eq_some_iff.1 found⟩

theorem index_lt_of_mem (member : concept ∈ vocabulary.concepts) :
    concept.id.index < vocabulary.size :=
  exists_concept?_iff.1 ⟨concept, concept?_eq_some_iff.2 ⟨member, rfl⟩⟩

theorem ids_ascending (vocabulary : Vocabulary) :
    (vocabulary.concepts.map Concept.id).Pairwise (· < ·) := by
  rw [vocabulary.placed, List.pairwise_map]
  exact List.pairwise_lt_range

/-- A set of defined concepts lists them in order of definition. -/
theorem toList_eq_map_id
    (defined : ∀ id ∈ concepts, id.index < vocabulary.size) :
    concepts.toList =
      (vocabulary.concepts.filter fun concept => concept.id ∈ concepts).map
        Concept.id := by
  have ascending :=
    vocabulary.ids_ascending.sublist
      (List.Sublist.map Concept.id
        (List.filter_sublist (p := fun concept => concept.id ∈ concepts)))
  apply eq_of_ascending_of_mem_iff ConceptId.index concepts.ascending ascending
  intro id
  simp only [ConceptSet.mem_toList, List.mem_map, List.mem_filter,
    decide_eq_true_eq]
  constructor
  · intro member
    obtain ⟨concept, isConcept, rfl⟩ :=
      exists_concept_of_index_lt (defined id member)
    exact ⟨concept, ⟨isConcept, member⟩, rfl⟩
  · rintro ⟨concept, ⟨-, member⟩, rfl⟩
    exact member

theorem names_eq_map_name
    (defined : ∀ id ∈ concepts, id.index < vocabulary.size) :
    vocabulary.names concepts =
      (vocabulary.concepts.filter fun concept => concept.id ∈ concepts).map
        Concept.name := by
  rw [names, toList_eq_map_id defined, List.map_map]
  apply List.map_congr_left
  intro concept member
  exact nameOf_id (List.mem_of_mem_filter member)

/-! ## Concepts of some names -/

theorem mapM_eq_error
    {Error Source Target : Type} {convert : Source → Except Error Target}
    {earlier later : List Source} {source : Source} (error : Error)
    (converted : ∀ other ∈ earlier, ∃ target, convert other = .ok target)
    (fails : convert source = .error error) :
    (earlier ++ source :: later).mapM convert = .error error := by
  induction earlier with
  | nil =>
      rw [List.nil_append, List.mapM_cons, fails]
      rfl
  | cons first earlier inductionHypothesis =>
      obtain ⟨⟨target, isTarget⟩, othersConverted⟩ :=
        List.forall_mem_cons.1 converted
      rw [List.cons_append, List.mapM_cons, isTarget,
        inductionHypothesis othersConverted]
      rfl

theorem exists_idOf?_of_mem (known : name ∈ vocabulary.nameList) :
    ∃ id, vocabulary.idOf? name = some id := by
  rw [← Option.isSome_iff_exists, ← Option.ne_none_iff_isSome]
  exact fun isNone => idOf?_eq_none_iff.1 isNone known

/-- The first name that no concept bears is reported. -/
theorem suppose_eq_error
    (first :
      names.find? (fun name => name ∉ vocabulary.nameList) = some stranger) :
    vocabulary.suppose names = .error { fault := .unknownName stranger } := by
  obtain ⟨isStrange, earlier, later, rfl, known⟩ :=
    List.find?_eq_some_iff_append.1 first
  rw [suppose, mapM_eq_error { fault := .unknownName stranger }]
  · rfl
  · intro name member
    have isKnown : name ∈ vocabulary.nameList := by
      simpa using known name member
    obtain ⟨id, named⟩ := exists_idOf?_of_mem isKnown
    rw [named]
    exact ⟨id, rfl⟩
  · rw [idOf?_eq_none_iff.2 (of_decide_eq_true isStrange)]
    rfl

theorem suppose_eq_ok_of_known
    (known : ∀ name ∈ names, name ∈ vocabulary.nameList) :
    vocabulary.suppose names =
      .ok (.ofIs (names.filterMap vocabulary.idOf?)) := by
  apply suppose_eq_ok
  induction names with
  | nil => exact List.Forall₂.nil
  | cons name names inductionHypothesis =>
      obtain ⟨isKnown, othersKnown⟩ := List.forall_mem_cons.1 known
      obtain ⟨id, named⟩ := exists_idOf?_of_mem isKnown
      rw [List.filterMap_cons_some named]
      exact List.Forall₂.cons named (inductionHypothesis othersKnown)

/-! ## There and back -/

namespace NamesDistinct

variable (distinct : vocabulary.NamesDistinct)
include distinct

theorem idOf?_eq_some_id_iff (member : concept ∈ vocabulary.concepts) :
    vocabulary.idOf? name = some concept.id ↔ concept.name = name := by
  have found : vocabulary.concept? concept.id = some concept :=
    concept?_eq_some_iff.2 ⟨member, rfl⟩
  rw [distinct.idOf?_eq_some_iff, found]
  simp

/-- The names of the concepts of some names are these, once each. -/
theorem names_ofList_filterMap_idOf? (names : List String) :
    vocabulary.names (.ofList (names.filterMap vocabulary.idOf?)) =
      vocabulary.nameList.filter (· ∈ names) := by
  rw [names_eq_map_name, nameList, List.filter_map]
  · congr 1
    apply List.filter_congr
    intro concept member
    have isNamed :
        concept.id ∈ ConceptSet.ofList (names.filterMap vocabulary.idOf?) ↔
          concept.name ∈ names := by
      simp only [ConceptSet.mem_ofList, List.mem_filterMap,
        distinct.idOf?_eq_some_id_iff member]
      exact exists_eq_right'
    simp only [isNamed, Function.comp_apply]
  · intro id member
    obtain ⟨name, -, named⟩ :=
      List.mem_filterMap.1 (ConceptSet.mem_ofList.1 member)
    obtain ⟨concept, isConcept, -, rfl⟩ := exists_of_idOf?_eq_some named
    exact index_lt_of_mem isConcept

/-- The concepts of the names of a set are the members of the set. -/
theorem filterMap_idOf?_names
    (defined : ∀ id ∈ concepts, id.index < vocabulary.size) :
    (vocabulary.names concepts).filterMap vocabulary.idOf? =
      concepts.toList := by
  rw [names, List.filterMap_map]
  refine (List.filterMap_congr ?_).trans List.filterMap_some
  intro id member
  obtain ⟨concept, isConcept, rfl⟩ :=
    exists_concept_of_index_lt (defined id member)
  rw [Function.comp_apply, nameOf_id isConcept]
  exact (distinct.idOf?_eq_some_id_iff isConcept).2 rfl

theorem suppose_names
    (defined : ∀ id ∈ concepts, id.index < vocabulary.size) :
    vocabulary.suppose (vocabulary.names concepts) = .ok { is := concepts } := by
  have known : ∀ name ∈ vocabulary.names concepts,
      name ∈ vocabulary.nameList := by
    rw [names_eq_map_name defined]
    intro name member
    exact List.Sublist.mem member (List.Sublist.map _ List.filter_sublist)
  rw [suppose_eq_ok_of_known known, distinct.filterMap_idOf?_names defined,
    Facts.ofIs, ConceptSet.ofList_toList]

end NamesDistinct

/-! ## Main result -/

/-- Exactly some names are defined, in the order of a list, and one can go from
names to concepts and back. -/
structure RoundTrips
    (vocabulary : Vocabulary) (defined : List String) : Prop where
  /-- What is wrong with a list of names is the first one that is not defined,
  and nothing else. -/
  suppose_eq_error_iff : ∀ names failure,
    vocabulary.suppose names = .error failure ↔
      ∃ stranger, names.find? (fun name => name ∉ defined) = some stranger ∧
        failure = { fault := .unknownName stranger }
  /-- Defined names come back once each, in order of definition. -/
  names_of_suppose : ∀ names, (∀ name ∈ names, name ∈ defined) →
    ∃ facts, vocabulary.suppose names = .ok facts ∧
      facts.isnt = ∅ ∧ facts.canBe = ∅ ∧
      vocabulary.names facts.is = defined.filter (· ∈ names)
  /-- The names of a set of concepts give back the set. -/
  suppose_names : ∀ concepts : ConceptSet,
    (∀ id ∈ concepts, id.index < vocabulary.size) →
      vocabulary.suppose (vocabulary.names concepts) = .ok { is := concepts }

theorem NamesDistinct.roundTrips (distinct : vocabulary.NamesDistinct) :
    vocabulary.RoundTrips vocabulary.nameList where
  suppose_eq_error_iff names failure := by
    constructor
    · intro refused
      cases first :
          names.find? fun name => name ∉ vocabulary.nameList with
      | some stranger =>
          rw [suppose_eq_error first] at refused
          exact ⟨stranger, rfl, (Except.error.inj refused).symm⟩
      | none =>
          have known : ∀ name ∈ names, name ∈ vocabulary.nameList := by
            simpa using first
          rw [suppose_eq_ok_of_known known] at refused
          cases refused
    · rintro ⟨stranger, first, rfl⟩
      exact suppose_eq_error first
  names_of_suppose names known :=
    ⟨_, suppose_eq_ok_of_known known, rfl, rfl,
      distinct.names_ofList_filterMap_idOf? names⟩
  suppose_names _ defined := distinct.suppose_names defined

end Vocabulary

namespace Draft

/-! ## Names that are mentioned -/

/-- The names for which a step asks for concepts. -/
def Step.mentions : Step → List String
  | .define name => [name]
  | .defineAll names => names
  | .assume _ => []
  | .setStrict _ => []
  | .submit _ => []

/-- The names that are mentioned in a history, as often as they are. -/
def mentionedNames (steps : List Step) : List String :=
  steps.flatMap Step.mentions

section Mentioned

variable {draft : Draft} {earlier : List String}
  (known : draft.vocabulary.nameList = earlier.eraseDups)
include known

theorem nameList_define (name : String) :
    (draft.define name).2.vocabulary.nameList =
      (earlier ++ [name]).eraseDups := by
  rw [define]
  split
  case h_1 id found =>
    have mentioned : name ∈ earlier := by
      obtain ⟨concept, member, rfl, -⟩ :=
        Vocabulary.exists_of_idOf?_eq_some found
      rw [← List.mem_eraseDups, ← known]
      exact List.mem_map_of_mem member
    rw [eraseDups_concat_of_mem mentioned]
    exact known
  case h_2 isNew =>
    have notMentioned : name ∉ earlier := by
      rw [← List.mem_eraseDups, ← known]
      exact Vocabulary.idOf?_eq_none_iff.1 isNew
    rw [eraseDups_concat_of_not_mem notMentioned, ← known]
    exact List.map_append

theorem nameList_defineAll (names : List String) :
    (draft.defineAll names).2.vocabulary.nameList =
      (earlier ++ names).eraseDups := by
  induction names generalizing draft earlier with
  | nil =>
      rw [List.append_nil]
      exact known
  | cons name names inductionHypothesis =>
      rw [List.append_cons]
      exact inductionHypothesis (nameList_define known name)

theorem nameList_apply (step : Step) :
    (draft.apply step).2.vocabulary.nameList =
      (earlier ++ step.mentions).eraseDups := by
  cases step with
  | define name => exact nameList_define known name
  | defineAll names => exact nameList_defineAll known names
  | assume assumption =>
      rw [Step.mentions, List.append_nil]
      exact known
  | setStrict strict =>
      rw [Step.mentions, List.append_nil]
      exact known
  | submit rule =>
      rw [Step.mentions, List.append_nil, apply, vocabulary_submit]
      exact known

theorem nameList_run (steps : List Step) :
    (draft.run steps).2.vocabulary.nameList =
      (earlier ++ mentionedNames steps).eraseDups := by
  induction steps generalizing draft earlier with
  | nil =>
      rw [mentionedNames, List.flatMap_nil, List.append_nil]
      exact known
  | cons step steps inductionHypothesis =>
      rw [mentionedNames, List.flatMap_cons, ← List.append_assoc]
      exact inductionHypothesis (nameList_apply known step)

end Mentioned

/-- In every finished ontology the names that were mentioned, each at its first
mention, are the names of the concepts, and concepts and names are got from each
other. -/
theorem finish_names_roundTrip (steps : List Step) :
    ∃ ontology, (empty.run steps).2.finish = .ok ontology ∧
      ontology.vocabulary.RoundTrips (mentionedNames steps).eraseDups := by
  have noNames : empty.vocabulary.nameList = [].eraseDups := rfl
  have sameNames :
      (empty.run steps).2.closedVocabulary.nameList =
        (mentionedNames steps).eraseDups :=
    (names_closedVocabulary _).trans (nameList_run noNames steps)
  refine ⟨_, finish_eq _, ?_⟩
  rw [← sameNames]
  exact (orderly_empty.run steps).namesDistinct_closedVocabulary.roundTrips

/-- Three concepts, two of which are mentioned again. -/
def pondSteps : List Step :=
  [.defineAll ["lake", "water", "lake"], .setStrict false, .define "pond",
    .define "water"]

theorem finish_names_roundTrip_pondSteps :
    ∃ ontology, (empty.run pondSteps).2.finish = .ok ontology ∧
      (∃ facts,
        ontology.vocabulary.suppose ["pond", "lake", "pond"] = .ok facts ∧
          ontology.vocabulary.names facts.is = ["lake", "pond"]) ∧
      ontology.vocabulary.suppose ["lake", "sea", "bog"] =
        .error { fault := .unknownName "sea" } := by
  have defined :
      (mentionedNames pondSteps).eraseDups = ["lake", "water", "pond"] := by
    decide
  obtain ⟨ontology, isFinished, roundTrips⟩ :=
    finish_names_roundTrip pondSteps
  rw [defined] at roundTrips
  refine ⟨ontology, isFinished, ?_, ?_⟩
  · obtain ⟨facts, supposed, -, -, namesBack⟩ :=
      roundTrips.names_of_suppose ["pond", "lake", "pond"] (by decide)
    refine ⟨facts, supposed, ?_⟩
    rw [namesBack]
    decide
  · exact (roundTrips.suppose_eq_error_iff _ _).2 ⟨"sea", by decide, rfl⟩

end Draft

end ConceptRules
