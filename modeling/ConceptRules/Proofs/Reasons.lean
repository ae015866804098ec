import Mathlib.Data.List.Nodup
import ConceptRules.Proofs.Admission
import ConceptRules.Proofs.Extension
import ConceptRules.Proofs.Partition

/-!
# Reasons for a fact

An explanation is read off the base, the standing rules and their declarations,
and never looks at the closure.  Still the two agree on every fact: the closure
is the base with what the standing rules declare (`Explanation.Accounts`).  The
rules that an explanation names are all the standing ones that declare the fact,
in the order in which they were admitted, and no others.
-/

namespace ConceptRules

/-- The rule of this identifier declares the fact. -/
def Ontology.Declares
    (ontology : Ontology) (verb : Verb) (concept : ConceptId) (id : RuleId) :
    Prop :=
  ∃ rule ∈ ontology.rules[id.index]?, ⟨verb, concept⟩ ∈ rule.declared

/-- An explanation that gives the reasons for a fact, as far as there are any,
and nothing else. -/
structure Explanation.Accounts
    (explanation : Explanation) (ontology : Ontology) (facts : Facts)
    (verb : Verb) (concept : ConceptId) : Prop where
  holds_iff :
    explanation.holds = true ↔
      (ontology.resolve facts).closure.Holds verb concept
  asserted_iff : explanation.asserted = true ↔ facts.Holds verb concept
  mem_supporters_iff :
    ∀ id, id ∈ explanation.supporters ↔
      id ∈ (ontology.resolve facts).standing ∧
        ontology.Declares verb concept id
  inReportOrder :
    explanation.supporters.Sublist (ontology.resolve facts).standing
  inAdmissionOrder :
    explanation.supporters.Sublist (ontology.run facts).admissions
  nodup : explanation.supporters.Nodup
  /-- No rule is named that was withdrawn, is barred or lacks its trigger. -/
  inForce :
    ∀ id ∈ explanation.supporters,
      id ∉ (ontology.resolve facts).withdrawn ∧
        (∀ clash, (id, clash) ∉ (ontology.resolve facts).barred) ∧
        ∀ gap, (id, gap) ∉ (ontology.resolve facts).unmet

variable {ontology : Ontology} {facts : Facts} {verb : Verb}
  {concept : ConceptId} {id : RuleId}

/-! ## Who supports a fact -/

theorem Explanation.holds_iff_asserted_or_supported
    {explanation : Explanation} :
    explanation.holds = true ↔
      explanation.asserted = true ∨ ∃ id, id ∈ explanation.supporters := by
  rw [holds, Bool.or_eq_true, Bool.not_eq_true',
    List.isEmpty_eq_false_iff_exists_mem]

theorem Ontology.states_iff_declares :
    ontology.States verb concept id ↔ ontology.Declares verb concept id := by
  simp only [States, Declares, Rule.holds_consequence_iff]
  rfl

theorem Ontology.asserted_explain_iff :
    ((ontology.resolve facts).explain ontology verb concept).asserted =
        true ↔
      facts.Holds verb concept := by
  have sameBase : (ontology.resolve facts).base = facts :=
    base_resolve facts ontology.rules
  rw [Resolution.explain, sameBase, decide_eq_true_iff]

theorem Resolution.supporters_sublist
    (resolution : Resolution) (ontology : Ontology) (verb : Verb)
    (concept : ConceptId) :
    (resolution.explain ontology verb concept).supporters.Sublist
      resolution.standing :=
  List.filter_sublist

/-! ## The rules that stand -/

theorem standing_resolve_nodup (base : Facts) (rules : List Rule) :
    (resolve base rules).standing.Nodup := by
  have distinct := indices_resolve_nodup base rules
  exact (List.Nodup.of_map _ distinct).of_append_left

/-- A standing rule is in none of the other lists of a report. -/
theorem in_force_of_mem_standing
    {base : Facts} {rules : List Rule}
    (stands : id ∈ (resolve base rules).standing) :
    id ∉ (resolve base rules).withdrawn ∧
      (∀ clash, (id, clash) ∉ (resolve base rules).barred) ∧
      ∀ gap, (id, gap) ∉ (resolve base rules).unmet := by
  obtain ⟨notWithdrawn, rule, listed, fits⟩ := mem_standing_iff.1 stands
  refine ⟨notWithdrawn, ?_, ?_⟩
  · intro clash isBarred
    obtain ⟨_, other, otherListed, appraised⟩ := mem_barred_iff.1 isBarred
    cases Option.mem_unique listed otherListed
    rw [fits] at appraised
    cases appraised
  · intro gap reported
    exact (not_standing_and_observed_of_mem_unmet reported).1 stands

/-! ## Main result -/

theorem explain_accounts
    (ontology : Ontology) (facts : Facts) (verb : Verb) (concept : ConceptId) :
    ((ontology.resolve facts).explain ontology verb concept).Accounts ontology
      facts verb concept where
  holds_iff := by
    rw [Explanation.holds_iff_asserted_or_supported,
      Ontology.holds_closure_resolve_iff, Ontology.asserted_explain_iff]
  asserted_iff := Ontology.asserted_explain_iff
  mem_supporters_iff := by
    intro id
    rw [Resolution.mem_supporters_iff, Ontology.states_iff_declares]
  inReportOrder := Resolution.supporters_sublist _ ontology verb concept
  inAdmissionOrder :=
    (Resolution.supporters_sublist _ ontology verb concept).trans
      (standing_resolve_sublist facts ontology.rules)
  nodup :=
    (standing_resolve_nodup facts ontology.rules).sublist
      (Resolution.supporters_sublist _ ontology verb concept)
  inForce := by
    intro id supports
    exact in_force_of_mem_standing
      (Resolution.mem_supporters_iff.1 supports).1

end ConceptRules
