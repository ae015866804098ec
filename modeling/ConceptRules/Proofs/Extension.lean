import ConceptRules.Advice.Concepts
import ConceptRules.Draft.Step
import ConceptRules.Ontology.Explanation
import ConceptRules.Proofs.Standing

/-!
# Proposed concepts

A proposed concept is tried: it is supposed as well, and the trial tells whether
a rule is barred and whether the rules that must stand do.  More follows from
that than is asked (`Inquiry.Conservative`).  Whatever was supposed or rests on
one of these rules holds in the trial as before; nothing is contradicted that
was not before; and a concept that was denied is proposed only where all the
rules that deny it may be upset.
-/

namespace ConceptRules

/-! ## Reasons for a fact -/

section Reasons

variable
  {ontology : Ontology} {facts : Facts} {verb : Verb} {concept : ConceptId}

theorem Resolution.mem_supporters_iff
    {resolution : Resolution} {id : RuleId} :
    id ∈ (resolution.explain ontology verb concept).supporters ↔
      id ∈ resolution.standing ∧ ontology.States verb concept id := by
  rw [explain, List.mem_filter, decide_eq_true_eq]

theorem Ontology.holds_closure_resolve_iff :
    (ontology.resolve facts).closure.Holds verb concept ↔
      facts.Holds verb concept ∨
        ∃ id, id ∈
          ((ontology.resolve facts).explain ontology verb
            concept).supporters := by
  simp only [Resolution.mem_supporters_iff]
  exact ConceptRules.holds_closure_resolve_iff

theorem Ontology.supposed_of_contradiction
    (asserted : (ontology.resolve facts).closure.Holds .is concept)
    (denied : (ontology.resolve facts).closure.Holds .isnt concept) :
    facts.Holds .is concept ∧ facts.Holds .isnt concept := by
  have sameClosure :
      (ontology.resolve facts).closure =
        (State.atRest facts ontology.rules).closure facts :=
    closure_resolve facts ontology.rules
  rw [sameClosure] at asserted denied
  exact (State.settled_atRest facts ontology.rules).base_holds_of_contradiction
    asserted denied

end Reasons

namespace Inquiry

variable {inquiry : Inquiry} {concept : ConceptId}

/-! ## What is asked of a proposal -/

/-- What follows if a concept is supposed as well. -/
def extended (inquiry : Inquiry) (concept : ConceptId) : Resolution :=
  inquiry.ontology.resolve (inquiry.supposed.insert .is concept)

theorem accepted_iff {required : List RuleId} :
    (inquiry.tryConcept required concept).accepted = true ↔
      (inquiry.extended concept).isCompatible = true ∧
        ∀ id ∈ required, id ∈ (inquiry.extended concept).standing := by
  have tried :
      (inquiry.tryConcept required concept).accepted =
        ((inquiry.extended concept).isCompatible &&
          required.all (inquiry.extended concept).isStanding) :=
    rfl
  rw [tried, Bool.and_eq_true, List.all_eq_true]
  simp only [Resolution.isStanding, decide_eq_true_eq]

theorem mem_furtherConcepts_iff :
    concept ∈ inquiry.furtherConcepts ↔
      inquiry.current.resolution.isCompatible = true ∧
        concept ∈ inquiry.openConcepts inquiry.current.resolution ∧
        (inquiry.extended concept).isCompatible = true ∧
        ∀ id ∈ inquiry.required inquiry.current.resolution,
          id ∈ (inquiry.extended concept).standing := by
  rw [furtherConcepts, trials]
  by_cases sound : inquiry.current.resolution.isCompatible = true
  · rw [if_pos sound, and_iff_right sound, ← accepted_iff]
    simp only [List.mem_map, List.mem_filter, and_assoc,
      exists_exists_and_eq_and]
    constructor
    · rintro ⟨tried, isOpen, accepted, rfl⟩
      exact ⟨isOpen, accepted⟩
    · rintro ⟨isOpen, accepted⟩
      exact ⟨concept, isOpen, accepted, rfl⟩
  · rw [if_neg sound]
    simp [sound]

/-- The facts that a proposal must keep: those that were supposed, and those
that some rule supports that it must not upset. -/
def MustKeep (inquiry : Inquiry) (verb : Verb) (concept : ConceptId) : Prop :=
  inquiry.supposed.Holds verb concept ∨
    ∃ id ∈ (inquiry.current.resolution.explain inquiry.ontology verb
        concept).supporters,
      id ∉ inquiry.overridable

/-- Supposing the concept as well extends what follows, and changes it only where
the asker allows it. -/
structure Conservative (inquiry : Inquiry) (concept : ConceptId) : Prop where
  isCompatible : (inquiry.extended concept).isCompatible = true
  keeps : ∀ verb other, inquiry.MustKeep verb other →
    (inquiry.extended concept).closure.Holds verb other
  contradictions :
    (inquiry.extended concept).closure.is ∩
        (inquiry.extended concept).closure.isnt =
      inquiry.supposed.is ∩ inquiry.supposed.isnt
  /-- A denial of the concept has supporters, and none of them has to stand. -/
  denial : inquiry.current.resolution.closure.Holds .isnt concept →
    (∃ id, id ∈
      (inquiry.current.resolution.explain inquiry.ontology .isnt
        concept).supporters) ∧
      ∀ id ∈ (inquiry.current.resolution.explain inquiry.ontology .isnt
          concept).supporters,
        id ∈ inquiry.overridable

/-! ## What comes with it -/

theorem holds_extended_of_supposed
    {verb : Verb} {other : ConceptId}
    (supposed : inquiry.supposed.Holds verb other) :
    (inquiry.extended concept).closure.Holds verb other := by
  apply Ontology.holds_closure_resolve_iff.2
  exact Or.inl (Facts.holds_insert.2 (Or.inr supposed))

theorem holds_extended_of_mustKeep
    (requiredStand : ∀ id ∈ inquiry.required inquiry.current.resolution,
      id ∈ (inquiry.extended concept).standing)
    {verb : Verb} {other : ConceptId} (kept : inquiry.MustKeep verb other) :
    (inquiry.extended concept).closure.Holds verb other := by
  rcases kept with supposed | ⟨id, supports, mustStand⟩
  · exact holds_extended_of_supposed supposed
  · obtain ⟨stands, states⟩ := Resolution.mem_supporters_iff.1 supports
    have isRequired : id ∈ inquiry.required inquiry.current.resolution :=
      List.mem_filter.2 ⟨stands, decide_eq_true mustStand⟩
    apply Ontology.holds_closure_resolve_iff.2
    exact Or.inr ⟨id, Resolution.mem_supporters_iff.2
      ⟨requiredStand id isRequired, states⟩⟩

/-- A contradiction would have to be supposed, and the concept is not denied
there. -/
theorem contradictions_extended
    (notDenied : ¬inquiry.supposed.Holds .isnt concept) :
    (inquiry.extended concept).closure.is ∩
        (inquiry.extended concept).closure.isnt =
      inquiry.supposed.is ∩ inquiry.supposed.isnt := by
  ext tested
  rw [ConceptSet.mem_inter, ConceptSet.mem_inter]
  constructor
  · rintro ⟨asserted, denied⟩
    obtain ⟨supposedIs, supposedIsnt⟩ :=
      Ontology.supposed_of_contradiction asserted denied
    rw [Facts.holds_insert] at supposedIs supposedIsnt
    have denies : inquiry.supposed.Holds .isnt tested := by
      simpa using supposedIsnt
    rcases supposedIs with ⟨_, rfl⟩ | asserts
    · exact absurd denies notDenied
    · exact ⟨asserts, denies⟩
  · rintro ⟨asserts, denies⟩
    have supposedIs : inquiry.supposed.Holds .is tested := asserts
    have supposedIsnt : inquiry.supposed.Holds .isnt tested := denies
    exact ⟨holds_extended_of_supposed supposedIs,
      holds_extended_of_supposed supposedIsnt⟩

/-- A supporter of a denial that had to stand would contradict the trial. -/
theorem overridable_of_supports_denial
    (notDenied : ¬inquiry.supposed.Holds .isnt concept)
    (requiredStand : ∀ id ∈ inquiry.required inquiry.current.resolution,
      id ∈ (inquiry.extended concept).standing)
    {id : RuleId}
    (supports : id ∈ (inquiry.current.resolution.explain inquiry.ontology .isnt
      concept).supporters) :
    id ∈ inquiry.overridable := by
  by_cases mayBeUpset : id ∈ inquiry.overridable
  · exact mayBeUpset
  · have denied : (inquiry.extended concept).closure.Holds .isnt concept :=
      holds_extended_of_mustKeep requiredStand (Or.inr ⟨id, supports, mayBeUpset⟩)
    have asserted : (inquiry.extended concept).closure.Holds .is concept :=
      Ontology.holds_closure_resolve_iff.2
        (Or.inl (Facts.holds_insert.2 (Or.inl ⟨rfl, rfl⟩)))
    have supposedDenied :=
      (Ontology.supposed_of_contradiction asserted denied).2
    have denies : inquiry.supposed.Holds .isnt concept := by
      simpa using Facts.holds_insert.1 supposedDenied
    exact absurd denies notDenied

/-! ## Main result -/

theorem furtherConcepts_conservative (inquiry : Inquiry) :
    ∀ concept ∈ inquiry.furtherConcepts, inquiry.Conservative concept := by
  intro concept proposed
  obtain ⟨_, isOpen, isCompatible, requiredStand⟩ :=
    mem_furtherConcepts_iff.1 proposed
  have notDenied : ¬inquiry.supposed.Holds .isnt concept := by
    have untried := (List.mem_filter.1 isOpen).2
    exact (of_decide_eq_true untried).2.1
  constructor
  · exact isCompatible
  · intro verb other kept
    exact holds_extended_of_mustKeep requiredStand kept
  · exact contradictions_extended notDenied
  · intro denied
    constructor
    · exact (Ontology.holds_closure_resolve_iff.1 denied).resolve_left notDenied
    · intro id supports
      exact overridable_of_supports_denial notDenied requiredStand supports

/-- The first rule denies the third concept, which would trigger the second rule
and so upset the first. -/
def detour : Inquiry where
  supposed := .ofIs [⟨0⟩]
  ontology :=
    { vocabulary :=
        (Draft.empty.defineAll ["site", "road", "tunnel", "lamp"]).2.vocabulary
      rules :=
        [⟨⟨true, .single ⟨1⟩⟩, [⟨.isnt, ⟨2⟩⟩]⟩,
          ⟨⟨false, .single ⟨2⟩⟩, [⟨.is, ⟨1⟩⟩]⟩,
          ⟨⟨false, .single ⟨0⟩⟩, [⟨.is, ⟨3⟩⟩]⟩] }
  overridable := [⟨0⟩]

theorem furtherConcepts_conservative_detour :
    ⟨2⟩ ∈ detour.furtherConcepts ∧
      detour.current.resolution.closure.Holds .isnt ⟨2⟩ ∧
      detour.MustKeep .is ⟨3⟩ ∧
      detour.Conservative ⟨2⟩ := by
  have proposed : ⟨2⟩ ∈ detour.furtherConcepts := by
    decide +kernel
  have denied : detour.current.resolution.closure.Holds .isnt ⟨2⟩ := by
    decide +kernel
  have mustKeep : detour.MustKeep .is ⟨3⟩ := by
    refine Or.inr ⟨⟨2⟩, ?_, ?_⟩
    · decide +kernel
    · decide
  exact ⟨proposed, denied, mustKeep,
    furtherConcepts_conservative detour ⟨2⟩ proposed⟩

end Inquiry

end ConceptRules
