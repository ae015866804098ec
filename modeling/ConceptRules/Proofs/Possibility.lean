import Mathlib.Data.List.Forall2
import ConceptRules.Proofs.Extension
import ConceptRules.Proofs.Translation

/-!
# What a subject can be

What a subject can be is kept on record, and nothing is ever decided by it.
Facts and rules may be stripped of it (`Facts.definite`, `Rule.definite`), which
is a translation that leaves the reading of every rule as it is.  So two
resolutions that differ in nothing else report the same, and so do the proposals
that are made on their grounds.
-/

namespace ConceptRules

/-! ## Definite facts and rules -/

namespace Facts

variable {left right : Facts}

/-- The facts less what can be. -/
def definite (facts : Facts) : Facts :=
  { facts with canBe := ∅ }

theorem holds_definite_iff
    {facts : Facts} {verb : Verb} {concept : ConceptId} :
    facts.definite.Holds verb concept ↔
      verb ≠ .canBe ∧ facts.Holds verb concept := by
  cases verb <;> simp [definite, Holds, pick]

theorem definite_merge (left right : Facts) :
    (left.merge right).definite = left.definite.merge right.definite := by
  apply ext_of_holds
  intro verb concept
  simp only [holds_merge, holds_definite_iff, and_or_left]

/-- The facts differ at most in what can be. -/
structure SameDefinite (left right : Facts) : Prop where
  is : left.is = right.is
  isnt : left.isnt = right.isnt

theorem SameDefinite.definite_eq (same : left.SameDefinite right) :
    left.definite = right.definite := by
  rw [definite, definite, same.is, same.isnt]

theorem sameDefinite_of_definite_eq
    (sameFacts : left.definite = right.definite) : left.SameDefinite right := by
  rw [definite, definite, mk.injEq] at sameFacts
  exact ⟨sameFacts.1, sameFacts.2.1⟩

theorem SameDefinite.insert
    (same : left.SameDefinite right) (concept : ConceptId) :
    (left.insert .is concept).SameDefinite (right.insert .is concept) :=
  ⟨congrArg (·.insert concept) same.is, same.isnt⟩

end Facts

namespace Rule

variable {left right : Rule}

/-- The rule less what it says can be. -/
def definite (rule : Rule) : Rule where
  trigger := rule.trigger
  declared :=
    rule.consequence.is.toList.map (Declaration.mk .is) ++
      rule.consequence.isnt.toList.map (Declaration.mk .isnt)

theorem consequence_definite (rule : Rule) :
    rule.definite.consequence = rule.consequence.definite := by
  apply Facts.ext_of_holds
  intro verb concept
  rw [holds_consequence_iff, Facts.holds_definite_iff, definite,
    List.mem_append, List.mem_map, List.mem_map]
  cases verb <;> simp [Facts.Holds, Facts.pick]

/-- The rules differ at most in what they say can be. -/
structure SameDefinite (left right : Rule) : Prop where
  trigger : left.trigger = right.trigger
  consequence : left.consequence.SameDefinite right.consequence

theorem SameDefinite.definite_eq (same : left.SameDefinite right) :
    left.definite = right.definite := by
  rw [definite, definite, same.trigger, same.consequence.is,
    same.consequence.isnt]

theorem map_definite_eq
    {leftRules rightRules : List Rule}
    (same : List.Forall₂ SameDefinite leftRules rightRules) :
    leftRules.map definite = rightRules.map definite := by
  induction same with
  | nil => rfl
  | cons sameHead _ inductionHypothesis =>
      rw [List.map_cons, List.map_cons, sameHead.definite_eq,
        inductionHypothesis]

end Rule

/-- Leave out what can be. -/
def Translation.definite : Translation where
  facts := Facts.definite
  rule := Rule.definite
  gap := id
  clash := id
  consequence_rule := Rule.consequence_definite
  merge_facts := Facts.definite_merge
  verdict_rule original known := by
    change original.trigger.verdict known.is = _
    cases original.trigger.verdict known.is <;> rfl
  clash_facts _ _ := rfl
  isEmpty_clash _ := rfl

/-! ## Resolutions -/

/-- The resolutions differ at most in what can be. -/
structure Resolution.SameDefinite (left right : Resolution) : Prop where
  closure : left.closure.SameDefinite right.closure
  standing : left.standing = right.standing
  unmet : left.unmet = right.unmet
  barred : left.barred = right.barred
  withdrawn : left.withdrawn = right.withdrawn
  rounds : left.rounds = right.rounds

theorem Resolution.sameDefinite_of_translated_eq
    {left right : Resolution}
    (same :
      Translation.definite.resolution left =
        Translation.definite.resolution right) :
    left.SameDefinite right := by
  have unmetKept (report : List (RuleId × Gap)) :
      Translation.definite.unmet report = report :=
    List.map_id report
  have barredKept (report : List (RuleId × Clash)) :
      Translation.definite.barred report = report :=
    List.map_id report
  rw [Resolution.ext_iff] at same
  obtain ⟨_, closure, standing, unmet, barred, withdrawn, rounds⟩ := same
  constructor
  · exact Facts.sameDefinite_of_definite_eq closure
  · exact standing
  · rw [← unmetKept left.unmet, ← unmetKept right.unmet]
    exact unmet
  · rw [← barredKept left.barred, ← barredKept right.barred]
    exact barred
  · exact withdrawn
  · exact rounds

theorem resolve_sameDefinite
    {leftBase rightBase : Facts} {leftRules rightRules : List Rule}
    (sameBase : leftBase.SameDefinite rightBase)
    (sameRules : List.Forall₂ Rule.SameDefinite leftRules rightRules) :
    (resolve leftBase leftRules).SameDefinite
      (resolve rightBase rightRules) := by
  apply Resolution.sameDefinite_of_translated_eq
  rw [← Translation.resolve_translated, ← Translation.resolve_translated]
  have sameFacts :
      Translation.definite.facts leftBase =
        Translation.definite.facts rightBase :=
    sameBase.definite_eq
  have sameStripped :
      leftRules.map Translation.definite.rule =
        rightRules.map Translation.definite.rule :=
    Rule.map_definite_eq sameRules
  rw [sameFacts, sameStripped]

/-! ## Proposals -/

namespace Inquiry

variable {left right : Inquiry}

theorem furtherConcepts_eq (inquiry : Inquiry) :
    inquiry.furtherConcepts =
      if inquiry.current.resolution.isCompatible then
        (inquiry.openConcepts inquiry.current.resolution).filter fun concept =>
          (inquiry.tryConcept
            (inquiry.required inquiry.current.resolution) concept).accepted
      else
        [] := by
  rw [furtherConcepts, trials]
  split
  · rw [List.filter_map, List.map_map]
    exact List.map_id _
  · rfl

/-- The inquiries are over equally many concepts and have the same filters, and
what they suppose and their rules differ at most in what can be. -/
structure SameDefinite (left right : Inquiry) : Prop where
  supposed : left.supposed.SameDefinite right.supposed
  rules : List.Forall₂ Rule.SameDefinite
    left.ontology.rules right.ontology.rules
  size : left.ontology.vocabulary.size = right.ontology.vocabulary.size
  overridable : ∀ id, id ∈ left.overridable ↔ id ∈ right.overridable
  excludedConcepts : ∀ concept,
    concept ∈ left.excludedConcepts ↔ concept ∈ right.excludedConcepts

namespace SameDefinite

variable (same : left.SameDefinite right)

include same

theorem current :
    left.current.resolution.SameDefinite right.current.resolution :=
  resolve_sameDefinite same.supposed same.rules

theorem extended (concept : ConceptId) :
    (left.extended concept).SameDefinite (right.extended concept) :=
  resolve_sameDefinite (same.supposed.insert concept) same.rules

theorem openConcepts_eq :
    left.openConcepts left.current.resolution =
      right.openConcepts right.current.resolution := by
  have sameIds :
      left.ontology.vocabulary.concepts.map Concept.id =
        right.ontology.vocabulary.concepts.map Concept.id := by
    rw [left.ontology.vocabulary.placed, right.ontology.vocabulary.placed]
    exact congrArg (fun size => (List.range size).map ConceptId.mk) same.size
  rw [openConcepts, openConcepts, sameIds]
  apply List.filter_congr
  intro concept _
  simp only [same.supposed.is, same.supposed.isnt, same.current.closure.is,
    same.excludedConcepts]

theorem required_eq :
    left.required left.current.resolution =
      right.required right.current.resolution := by
  rw [required, required, same.current.standing]
  apply List.filter_congr
  intro id _
  exact decide_eq_decide.2 (not_congr (same.overridable id))

theorem accepted_eq (required : List RuleId) (concept : ConceptId) :
    (left.tryConcept required concept).accepted =
      (right.tryConcept required concept).accepted := by
  have sameExtended := same.extended concept
  rw [Bool.eq_iff_iff, accepted_iff, accepted_iff, Resolution.isCompatible,
    Resolution.isCompatible, sameExtended.barred, sameExtended.standing]

theorem furtherConcepts_eq : left.furtherConcepts = right.furtherConcepts := by
  have sameSoundness :
      left.current.resolution.isCompatible =
        right.current.resolution.isCompatible :=
    congrArg List.isEmpty same.current.barred
  rw [Inquiry.furtherConcepts_eq, Inquiry.furtherConcepts_eq, sameSoundness,
    same.openConcepts_eq, same.required_eq]
  split
  · exact List.filter_congr fun concept _ => same.accepted_eq _ concept
  · rfl

end SameDefinite

end Inquiry

/-! ## Main result -/

/-- What can be decides neither what is and isn't, nor what becomes of a rule,
nor which concepts are proposed. -/
theorem canBe_decides_nothing :
    (∀ (leftBase rightBase : Facts) (leftRules rightRules : List Rule),
        leftBase.SameDefinite rightBase →
          List.Forall₂ Rule.SameDefinite leftRules rightRules →
            (resolve leftBase leftRules).SameDefinite
              (resolve rightBase rightRules)) ∧
      ∀ left right : Inquiry, left.SameDefinite right →
        left.furtherConcepts = right.furtherConcepts := by
  constructor
  · intro leftBase rightBase leftRules rightRules sameBase sameRules
    exact resolve_sameDefinite sameBase sameRules
  · intro left right same
    exact same.furtherConcepts_eq

/-- The rule states its facts in another order, and adds that the subject can be
what it is already known to be, and more. -/
def Rule.hedged (rule : Rule) : Rule :=
  { rule with
    declared := rule.declared.reverse ++ [⟨.canBe, ⟨1⟩⟩, ⟨.canBe, ⟨9⟩⟩] }

theorem Rule.sameDefinite_hedged (rule : Rule) :
    rule.SameDefinite rule.hedged := by
  have keeps (verb : Verb) (definite : verb ≠ .canBe) (concept : ConceptId) :
      rule.consequence.Holds verb concept ↔
        rule.hedged.consequence.Holds verb concept := by
    rw [holds_consequence_iff, holds_consequence_iff, hedged]
    simp [definite]
  constructor
  · rfl
  · exact ⟨ConceptSet.ext (keeps .is (by decide)),
      ConceptSet.ext (keeps .isnt (by decide))⟩

theorem Rule.forall₂_hedged (rules : List Rule) :
    List.Forall₂ SameDefinite rules (rules.map hedged) := by
  rw [List.forall₂_map_right_iff, List.forall₂_same]
  intro rule _
  exact rule.sameDefinite_hedged

/-- The detour, where more can be than is known. -/
def hedgedDetour : Inquiry where
  supposed := { Inquiry.detour.supposed with canBe := .ofList [⟨2⟩, ⟨7⟩] }
  ontology :=
    { Inquiry.detour.ontology with
      rules := Inquiry.detour.ontology.rules.map Rule.hedged }
  overridable := Inquiry.detour.overridable

theorem canBe_decides_nothing_detour :
    Inquiry.detour.supposed.SameDefinite hedgedDetour.supposed ∧
      List.Forall₂ Rule.SameDefinite Inquiry.detour.ontology.rules
        hedgedDetour.ontology.rules ∧
      (resolve Inquiry.detour.supposed Inquiry.detour.ontology.rules).standing =
        (resolve hedgedDetour.supposed hedgedDetour.ontology.rules).standing ∧
      Inquiry.detour.SameDefinite hedgedDetour ∧
      ⟨2⟩ ∈ hedgedDetour.furtherConcepts := by
  have sameSupposed :
      Inquiry.detour.supposed.SameDefinite hedgedDetour.supposed :=
    ⟨rfl, rfl⟩
  have sameRules :
      List.Forall₂ Rule.SameDefinite Inquiry.detour.ontology.rules
        hedgedDetour.ontology.rules :=
    Rule.forall₂_hedged Inquiry.detour.ontology.rules
  have same : Inquiry.detour.SameDefinite hedgedDetour :=
    ⟨sameSupposed, sameRules, rfl, fun _ => Iff.rfl, fun _ => Iff.rfl⟩
  have proposed : ⟨2⟩ ∈ Inquiry.detour.furtherConcepts := by
    decide +kernel
  have sameResolution :=
    canBe_decides_nothing.1 _ _ _ _ sameSupposed sameRules
  rw [canBe_decides_nothing.2 _ _ same] at proposed
  exact ⟨sameSupposed, sameRules, sameResolution.standing, same, proposed⟩

end ConceptRules
