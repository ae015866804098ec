import ConceptRules.Ontology.Basic
import ConceptRules.Rule.SelfClash

/-!
# Drafting an ontology

A draft collects concepts, which are defined when they are first named, and
rules, which are judged when they are submitted.  A rule is refused if it
mentions a concept that the draft has not defined, or if it asks for a group
without members.  A rule that contradicts itself is refused by a strict draft;
any other draft drops it and notes the fact.  Submissions are numbered from
zero, whatever becomes of them.
-/

namespace ConceptRules

/-- An ontology in the making. -/
structure Draft where
  vocabulary : Vocabulary := {}
  rules : List Rule := []
  findings : List Finding := []
  /-- The assumption noted for the concepts to be defined. -/
  assumption : Assumption := .canBeAnything
  strict : Bool := true
  /-- How many rules were submitted. -/
  submitted : Nat := 0
  deriving DecidableEq

/-- What becomes of a submitted rule. -/
inductive Submission where
  | accepted (rule : RuleId)
  | dropped (position : Nat) (clash : Clash)
  | refused (failure : Failure)
  deriving DecidableEq

/-- Only a dropped rule is worth an event: for the others the answer tells. -/
def Submission.events : Submission → List Event
  | .dropped position _ => [.ruleDropped position]
  | _ => []

namespace Draft

/-- The concept of a name, defined if no concept has the name. -/
def define (draft : Draft) (name : String) : ConceptId × Draft :=
  match draft.vocabulary.idOf? name with
  | some concept => (concept, draft)
  | none =>
      (⟨draft.vocabulary.size⟩,
        { draft with
          vocabulary := draft.vocabulary.define name draft.assumption })

/-- The concepts of several names, the first name first. -/
def defineAll (draft : Draft) : List String → List ConceptId × Draft
  | [] => ([], draft)
  | name :: names =>
      let first := draft.define name
      let others := first.2.defineAll names
      (first.1 :: others.1, others.2)

/-- Where a rule submitted now is said to come from. -/
def site (draft : Draft) : Site where
  source := some ("qualification #" ++ toString draft.submitted)

/-- What to do with a rule submitted now. -/
def judge (draft : Draft) (rule : Rule) : Submission :=
  match rule.concepts.find? fun concept =>
      draft.vocabulary.size ≤ concept.index with
  | some foreign =>
      .refused { fault := .unknownConcept foreign, site := some draft.site }
  | none =>
      if rule.trigger.pattern.concepts.isEmpty then
        .refused { fault := .emptyGroup, site := some draft.site }
      else
        let clash := rule.selfClash
        if clash.isEmpty then
          .accepted ⟨draft.rules.length⟩
        else if draft.strict then
          .refused
            { fault := .inconsistentRule
                (draft.vocabulary.names clash.asserted)
                (draft.vocabulary.names clash.denied) }
        else
          .dropped draft.submitted clash

/-- Submit a rule: add it to the rules, or note that it was dropped, or leave
it. -/
def submit (draft : Draft) (rule : Rule) : Submission × Draft :=
  let counted := { draft with submitted := draft.submitted + 1 }
  match draft.judge rule with
  | .accepted id =>
      (.accepted id, { counted with rules := draft.rules ++ [rule] })
  | .dropped position clash =>
      (.dropped position clash,
        { counted with
          findings := draft.findings ++ [.rejected position clash] })
  | .refused failure => (.refused failure, counted)

end Draft

end ConceptRules
