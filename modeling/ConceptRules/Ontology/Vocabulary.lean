import ConceptRules.Facts.Basic
import ConceptRules.Fault

/-!
# Vocabularies

A vocabulary lists concepts in order of definition.  The position of a concept
is its identity; its name is how it is spoken of.  A concept carries its own
closure: what is known of a subject of which only that concept is supposed.

A name that several concepts bear speaks of the one defined last.
-/

namespace ConceptRules

/-- What to take for granted of a concept that a source never mentions.  This
is a note for those who describe concepts: no rule reads it. -/
inductive Assumption where
  | canBeAnything
  | isNothing
  deriving DecidableEq

def Assumption.text : Assumption → String
  | .canBeAnything => "can-be-anything"
  | .isNothing => "is-nothing"

structure Concept where
  id : ConceptId
  name : String
  assumption : Assumption
  /-- What is known of a subject that is this concept. -/
  closure : Facts
  /-- The rules that stand in that closure, in order of admission. -/
  standing : List RuleId
  deriving DecidableEq

namespace Concept

/-- A concept of which only itself is known. -/
def define
    (id : ConceptId) (name : String) (assumption : Assumption) : Concept where
  id
  name
  assumption
  closure := .ofIs [id]
  standing := []

/-- Concepts are the same if they have the same identifier, whatever their
names. -/
def Same (left right : Concept) : Prop :=
  left.id = right.id

instance (left right : Concept) : Decidable (left.Same right) :=
  inferInstanceAs (Decidable (left.id = right.id))

end Concept

/-- Concepts in order of definition, each identified by its position. -/
@[ext]
structure Vocabulary where
  concepts : List Concept := []
  placed :
    concepts.map Concept.id =
      (List.range concepts.length).map ConceptId.mk := by rfl
  deriving DecidableEq

namespace Vocabulary

/-! ## Looking up concepts -/

def size (vocabulary : Vocabulary) : Nat :=
  vocabulary.concepts.length

def concept? (vocabulary : Vocabulary) (id : ConceptId) : Option Concept :=
  vocabulary.concepts[id.index]?

/-- The identifier of the last concept of a name. -/
def idOf? (vocabulary : Vocabulary) (name : String) : Option ConceptId :=
  (vocabulary.concepts.reverse.find? fun concept => concept.name = name).map
    Concept.id

/-- The name of a concept, or a question mark if the concept is foreign. -/
def nameOf (vocabulary : Vocabulary) (id : ConceptId) : String :=
  match vocabulary.concept? id with
  | none => "?"
  | some concept => concept.name

/-- The names of the concepts of a set, in order of definition. -/
def names (vocabulary : Vocabulary) (concepts : ConceptSet) : List String :=
  concepts.toList.map vocabulary.nameOf

/-- The facts that a subject is each of the named concepts. -/
def suppose (vocabulary : Vocabulary) (names : List String) :
    Except Failure Facts := do
  let concepts ← names.mapM fun name =>
    match vocabulary.idOf? name with
    | none => throw { fault := .unknownName name }
    | some concept => pure concept
  return .ofIs concepts

/-! ## Making a vocabulary -/

/-- The vocabulary with one more concept, at the end. -/
def define
    (vocabulary : Vocabulary) (name : String) (assumption : Assumption) :
    Vocabulary where
  concepts :=
    vocabulary.concepts ++ [.define ⟨vocabulary.size⟩ name assumption]
  placed := by
    simp [vocabulary.placed, List.range_succ, Concept.define, size]

/-- The first concept that does not have the identifier of its position. -/
def misplaced? (concepts : List Concept) : Option Concept :=
  (concepts.zipIdx.find? fun entry => entry.1.id.index ≠ entry.2).map Prod.fst

theorem placed_of_misplaced?_eq_none
    {concepts : List Concept} (noneMisplaced : misplaced? concepts = none) :
    concepts.map Concept.id =
      (List.range concepts.length).map ConceptId.mk := by
  simp only [misplaced?, Option.map_eq_none_iff, List.find?_eq_none,
    decide_eq_true_eq, ne_eq, Decidable.not_not] at noneMisplaced
  apply List.ext_getElem
  · simp
  · intro position positionBound _
    have bound : position < concepts.length := by simpa using positionBound
    have member : (concepts[position], position) ∈ concepts.zipIdx :=
      List.mem_zipIdx_iff_getElem?.2 (List.getElem?_eq_getElem bound)
    have samePosition := noneMisplaced _ member
    simp only [List.getElem_map, List.getElem_range]
    exact ConceptId.ext samePosition

/-- The vocabulary of a list of concepts, if each has the identifier of its
position. -/
def ofConcepts? (concepts : List Concept) : Except Failure Vocabulary :=
  match noneMisplaced : misplaced? concepts with
  | none => .ok ⟨concepts, placed_of_misplaced?_eq_none noneMisplaced⟩
  | some stray => .error { fault := .unknownConcept stray.id }

end Vocabulary

end ConceptRules
