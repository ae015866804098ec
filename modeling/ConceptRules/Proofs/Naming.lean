import Mathlib.Data.List.Induction
import Mathlib.Data.List.Nodup
import Mathlib.Logic.Function.Basic
import ConceptRules.Ontology.Vocabulary

/-!
# Places and names

A vocabulary is read by place and by name.  Every place that is taken holds the
concept of that place (`concept?_eq_some_iff`).  To look up a name is to look it
up in a table in which the concepts were entered in order of definition, each in
place of an earlier one of its name (`idOf?_eq_nameTable`).  As long as no two
concepts share a name, the table sends the name of each concept to its place and
has no other entries (`idOf?_eq_some_iff`).
-/

namespace ConceptRules.Vocabulary

variable {vocabulary : Vocabulary} {concept : Concept} {id : ConceptId}
  {name : String}

/-! ## Places -/

theorem id_of_concept?_eq_some
    (found : vocabulary.concept? id = some concept) : concept.id = id := by
  have sameId :
      (vocabulary.concepts.map Concept.id)[id.index]? = some concept.id := by
    rw [List.getElem?_map, ← concept?, found]
    rfl
  rw [vocabulary.placed, List.getElem?_map, Option.map_eq_some_iff] at sameId
  obtain ⟨place, listed, isPlace⟩ := sameId
  rw [← isPlace, (List.getElem?_eq_some_iff.1 listed).2.symm,
    List.getElem_range]

theorem concept?_eq_some_iff :
    vocabulary.concept? id = some concept ↔
      concept ∈ vocabulary.concepts ∧ concept.id = id := by
  constructor
  · intro found
    exact ⟨List.mem_of_getElem? found, id_of_concept?_eq_some found⟩
  · rintro ⟨member, rfl⟩
    obtain ⟨place, found⟩ := List.mem_iff_getElem?.1 member
    have foundThere : vocabulary.concept? ⟨place⟩ = some concept := found
    rw [id_of_concept?_eq_some foundThere]
    exact found

theorem exists_concept?_iff :
    (∃ concept, vocabulary.concept? id = some concept) ↔
      id.index < vocabulary.size := by
  constructor
  · intro someConcept
    obtain ⟨concept, found⟩ := someConcept
    exact (List.getElem?_eq_some_iff.1 found).1
  · intro inRange
    exact ⟨_, List.getElem?_eq_getElem inRange⟩

theorem ids_nodup (vocabulary : Vocabulary) :
    (vocabulary.concepts.map Concept.id).Nodup := by
  rw [vocabulary.placed]
  apply List.Nodup.map _ List.nodup_range
  intro left right same
  exact congrArg ConceptId.index same

theorem misplaced?_concepts (vocabulary : Vocabulary) :
    misplaced? vocabulary.concepts = none := by
  rw [misplaced?, Option.map_eq_none_iff, List.find?_eq_none]
  intro entry member
  have found : vocabulary.concept? ⟨entry.2⟩ = some entry.1 :=
    List.mem_zipIdx_iff_getElem?.1 member
  simp [id_of_concept?_eq_some found]

/-- A vocabulary is made anew from its concepts. -/
theorem ofConcepts?_concepts (vocabulary : Vocabulary) :
    ofConcepts? vocabulary.concepts = .ok vocabulary := by
  unfold ofConcepts?
  split
  case h_1 => rfl
  case h_2 stray isStray =>
    rw [misplaced?_concepts] at isStray
    cases isStray

/-! ## Names -/

/-- The table in which concepts are entered by name, a later one in place of an
earlier one. -/
def nameTable (concepts : List Concept) : String → Option ConceptId :=
  concepts.foldl
    (fun table concept =>
      Function.update table concept.name (some concept.id))
    fun _ => none

theorem nameTable_concat (concepts : List Concept) (concept : Concept) :
    nameTable (concepts ++ [concept]) =
      Function.update (nameTable concepts) concept.name (some concept.id) := by
  rw [nameTable, List.foldl_concat]
  rfl

theorem idOf?_eq_nameTable (vocabulary : Vocabulary) (name : String) :
    vocabulary.idOf? name = nameTable vocabulary.concepts name := by
  rw [idOf?]
  induction vocabulary.concepts using List.reverseRecOn with
  | nil => rfl
  | append_singleton concepts concept inductionHypothesis =>
      rw [nameTable_concat, List.reverse_concat]
      by_cases sameName : concept.name = name
      · rw [List.find?_cons_of_pos (by simpa using sameName), ← sameName,
          Function.update_self]
        rfl
      · rw [List.find?_cons_of_neg (by simpa using sameName),
          inductionHypothesis, Function.update_of_ne (Ne.symm sameName)]

theorem idOf?_eq_none_iff :
    vocabulary.idOf? name = none ↔
      name ∉ vocabulary.concepts.map Concept.name := by
  simp [idOf?]

theorem exists_of_idOf?_eq_some (named : vocabulary.idOf? name = some id) :
    ∃ concept ∈ vocabulary.concepts, concept.name = name ∧ concept.id = id := by
  obtain ⟨concept, isLast, sameId⟩ := Option.map_eq_some_iff.1 named
  have member := List.mem_reverse.1 (List.mem_of_find?_eq_some isLast)
  have sameName : concept.name = name := by
    simpa using List.find?_some isLast
  exact ⟨concept, member, sameName, sameId⟩

/-- No two concepts share a name. -/
def NamesDistinct (vocabulary : Vocabulary) : Prop :=
  (vocabulary.concepts.map Concept.name).Nodup

theorem NamesDistinct.define
    (distinct : vocabulary.NamesDistinct) (assumption : Assumption)
    (isNew : vocabulary.idOf? name = none) :
    (vocabulary.define name assumption).NamesDistinct := by
  rw [NamesDistinct, Vocabulary.define, List.map_append]
  apply List.Nodup.append distinct (List.nodup_singleton name)
  exact List.disjoint_singleton.2 (idOf?_eq_none_iff.1 isNew)

theorem NamesDistinct.idOf?_eq_some_iff
    (distinct : vocabulary.NamesDistinct) :
    vocabulary.idOf? name = some id ↔
      ∃ concept, vocabulary.concept? id = some concept ∧
        concept.name = name := by
  constructor
  · intro named
    obtain ⟨concept, member, sameName, rfl⟩ := exists_of_idOf?_eq_some named
    exact ⟨concept, concept?_eq_some_iff.2 ⟨member, rfl⟩, sameName⟩
  · intro isName
    obtain ⟨concept, found, rfl⟩ := isName
    obtain ⟨member, rfl⟩ := concept?_eq_some_iff.1 found
    -- the lookup finds some concept of the name, and there is no other one
    cases looked : vocabulary.idOf? concept.name with
    | none =>
        exact absurd (List.mem_map_of_mem member) (idOf?_eq_none_iff.1 looked)
    | some other =>
        obtain ⟨last, lastMember, sameName, rfl⟩ :=
          exists_of_idOf?_eq_some looked
        rw [List.inj_on_of_nodup_map distinct lastMember member sameName]

/-! ## Names of a set, and concepts of some names -/

/-- The name of the concept of a place, if the place is taken. -/
def nameAt? (vocabulary : Vocabulary) (id : ConceptId) : Option String :=
  (vocabulary.concept? id).map Concept.name

/-- The names of defined concepts are looked up, and not made up. -/
theorem map_nameAt?_of_defined
    {concepts : ConceptSet}
    (defined : ∀ concept ∈ concepts, concept.index < vocabulary.size) :
    concepts.toList.map vocabulary.nameAt? =
      (vocabulary.names concepts).map some := by
  rw [names, List.map_map]
  apply List.map_congr_left
  intro id member
  obtain ⟨concept, found⟩ := exists_concept?_iff.2 (defined id member)
  rw [Function.comp_apply, nameAt?, nameOf, found]
  rfl

theorem mapM_eq_ok
    {Error Source Target : Type} {convert : Source → Except Error Target}
    {sources : List Source} (targets : List Target)
    (converted : List.Forall₂
      (fun source target => convert source = .ok target) sources targets) :
    sources.mapM convert = .ok targets := by
  induction converted with
  | nil => rfl
  | cons first _ inductionHypothesis =>
      rw [List.mapM_cons, first, inductionHypothesis]
      rfl

theorem suppose_eq_ok
    {names : List String} {ids : List ConceptId}
    (found : List.Forall₂
      (fun name id => vocabulary.idOf? name = some id) names ids) :
    vocabulary.suppose names = .ok (.ofIs ids) := by
  rw [suppose, mapM_eq_ok ids]
  · rfl
  · apply found.imp
    intro name id named
    rw [named]
    rfl

end ConceptRules.Vocabulary
