import Mathlib.Data.List.Nodup
import Mathlib.Logic.Embedding.Basic
import ConceptRules.Amendment
import ConceptRules.Proofs.Translation

/-!
# Renaming concepts

A concept is told from another, and nothing else about its identifier matters.
Sets keep their members in the order of the identifiers, and a renaming may well
shuffle them; but what is in a set, and what a trigger, a clash or an amendment
makes of it, does not depend on that order.  So a renaming is a translation, and
what follows from renamed facts under renamed rules is what followed before, in
the new names.
-/

namespace ConceptRules

/-- New identifiers for the concepts, a different one for each. -/
abbrev Renaming := ConceptId ↪ ConceptId

variable {newName : Renaming}

/-! ## Sets -/

namespace ConceptSet

variable {set left right : ConceptSet} {concept tested : ConceptId}

def rename (newName : Renaming) (set : ConceptSet) : ConceptSet :=
  ofList (set.toList.map newName)

theorem mem_rename_iff :
    tested ∈ set.rename newName ↔ ∃ concept ∈ set, newName concept = tested := by
  rw [rename, mem_ofList, List.mem_map]
  rfl

@[simp]
theorem apply_mem_rename_iff :
    newName concept ∈ set.rename newName ↔ concept ∈ set := by
  rw [mem_rename_iff]
  constructor
  · intro renamed
    obtain ⟨original, member, sameName⟩ := renamed
    rw [← newName.injective sameName]
    exact member
  · intro member
    exact ⟨concept, member, rfl⟩

theorem rename_union :
    (left ∪ right).rename newName =
      left.rename newName ∪ right.rename newName := by
  ext tested
  simp only [mem_rename_iff, mem_union, or_and_right, exists_or]

theorem rename_inter :
    (left ∩ right).rename newName =
      left.rename newName ∩ right.rename newName := by
  ext tested
  rw [mem_inter]
  constructor
  · intro renamed
    obtain ⟨concept, member, rfl⟩ := mem_rename_iff.1 renamed
    rw [apply_mem_rename_iff, apply_mem_rename_iff]
    exact mem_inter.1 member
  · intro renamed
    obtain ⟨concept, inLeft, rfl⟩ := mem_rename_iff.1 renamed.1
    have inRight : concept ∈ right := apply_mem_rename_iff.1 renamed.2
    exact apply_mem_rename_iff.2 (mem_inter.2 ⟨inLeft, inRight⟩)

theorem rename_insert :
    (set.insert concept).rename newName =
      (set.rename newName).insert (newName concept) := by
  ext tested
  simp only [mem_rename_iff, mem_insert, or_and_right, exists_or,
    exists_eq_left]
  exact or_congr_left eq_comm

theorem rename_erase :
    (set.erase concept).rename newName =
      (set.rename newName).erase (newName concept) := by
  ext tested
  rw [mem_erase]
  constructor
  · intro renamed
    obtain ⟨original, kept, rfl⟩ := mem_rename_iff.1 renamed
    obtain ⟨member, different⟩ := mem_erase.1 kept
    refine ⟨apply_mem_rename_iff.2 member, fun sameName => ?_⟩
    exact different (newName.injective sameName)
  · intro renamed
    obtain ⟨original, member, rfl⟩ := mem_rename_iff.1 renamed.1
    have different : original ≠ concept := mt (congrArg newName) renamed.2
    exact apply_mem_rename_iff.2 (mem_erase.2 ⟨member, different⟩)

theorem isEmpty_rename : (set.rename newName).isEmpty = set.isEmpty := by
  rw [Bool.eq_iff_iff, isEmpty_iff, isEmpty_iff]
  constructor
  · intro noneRenamed concept member
    exact noneRenamed _ (apply_mem_rename_iff.2 member)
  · intro noneThere tested renamed
    obtain ⟨concept, member, _⟩ := mem_rename_iff.1 renamed
    exact noneThere concept member

end ConceptSet

/-! ## Facts and clashes -/

namespace Facts

def rename (newName : Renaming) (facts : Facts) : Facts where
  is := facts.is.rename newName
  isnt := facts.isnt.rename newName
  canBe := facts.canBe.rename newName

theorem holds_rename_iff
    {facts : Facts} {verb : Verb} {tested : ConceptId} :
    (facts.rename newName).Holds verb tested ↔
      ∃ concept, facts.Holds verb concept ∧ newName concept = tested := by
  cases verb <;> exact ConceptSet.mem_rename_iff

theorem rename_merge (left right : Facts) :
    (left.merge right).rename newName =
      (left.rename newName).merge (right.rename newName) := by
  simp only [merge, rename, ConceptSet.rename_union]

end Facts

namespace Clash

def rename (newName : Renaming) (clash : Clash) : Clash where
  asserted := clash.asserted.rename newName
  denied := clash.denied.rename newName

theorem isEmpty_rename (clash : Clash) :
    (clash.rename newName).isEmpty = clash.isEmpty := by
  rw [isEmpty, isEmpty, rename, ConceptSet.isEmpty_rename,
    ConceptSet.isEmpty_rename]

end Clash

theorem Facts.clash_rename (base candidate : Facts) :
    (base.rename newName).clash (candidate.rename newName) =
      (base.clash candidate).rename newName := by
  simp only [clash, Clash.rename, rename, ConceptSet.rename_inter]

/-! ## Triggers -/

/-- The gap in the new names, concept by concept and in the same order. -/
def Gap.rename (newName : Renaming) (gap : Gap) : Gap where
  missing := gap.missing.map newName
  redundant := gap.redundant.map newName

namespace Group

variable {group : Group} {present : ConceptSet}

def rename (newName : Renaming) (group : Group) : Group where
  connective := group.connective
  members := group.members.map newName
  nodup := group.nodup.map newName.injective

theorem found_rename :
    (group.rename newName).found (present.rename newName) =
      (group.found present).map newName := by
  rw [found, rename, List.filter_map]
  refine congrArg _ (List.filter_congr fun member _ => ?_)
  exact decide_eq_decide.2 ConceptSet.apply_mem_rename_iff

theorem lacking_rename :
    (group.rename newName).lacking (present.rename newName) =
      (group.lacking present).map newName := by
  rw [lacking, rename, List.filter_map]
  refine congrArg _ (List.filter_congr fun member _ => ?_)
  exact decide_eq_decide.2 (not_congr ConceptSet.apply_mem_rename_iff)

theorem isSatisfied_rename :
    (group.rename newName).isSatisfied (present.rename newName) =
      group.isSatisfied present := by
  rw [isSatisfied, isSatisfied, found_rename, lacking_rename,
    List.isEmpty_map, List.isEmpty_map, List.length_map, rename]

theorem gap_rename {negated : Bool} :
    (group.rename newName).gap negated (present.rename newName) =
      (group.gap negated present).rename newName := by
  unfold gap
  rw [found_rename, lacking_rename, List.isEmpty_map, rename]
  cases group.connective with
  | allOf => cases negated <;> rfl
  | anyOf => cases negated <;> rfl
  | oneOf =>
      cases negated with
      | true => rfl
      | false =>
          simp only
          split
          · rfl
          · rfl

end Group

def Pattern.rename (newName : Renaming) : Pattern → Pattern
  | .single concept => .single (newName concept)
  | .grouped group => .grouped (group.rename newName)

namespace Trigger

variable {trigger : Trigger} {present : ConceptSet}

def rename (newName : Renaming) (trigger : Trigger) : Trigger where
  negated := trigger.negated
  pattern := trigger.pattern.rename newName

theorem verdict_rename :
    (trigger.rename newName).verdict (present.rename newName) =
      (trigger.verdict present).map (Gap.rename newName) := by
  obtain ⟨negated, pattern⟩ := trigger
  cases pattern with
  | single concept =>
      simp only [verdict, rename, Pattern.rename,
        ConceptSet.apply_mem_rename_iff]
      cases negated with
      | false =>
          split
          · rfl
          · rfl
      | true =>
          split
          · rfl
          · rfl
  | grouped group =>
      simp only [verdict, rename, Pattern.rename, Group.isSatisfied_rename,
        Group.gap_rename]
      split
      · rfl
      · rfl

end Trigger

/-! ## Rules -/

def Declaration.rename
    (newName : Renaming) (declaration : Declaration) : Declaration :=
  { declaration with concept := newName declaration.concept }

namespace Rule

def rename (newName : Renaming) (rule : Rule) : Rule where
  trigger := rule.trigger.rename newName
  declared := rule.declared.map (Declaration.rename newName)

theorem consequence_rename (rule : Rule) :
    (rule.rename newName).consequence =
      rule.consequence.rename newName := by
  apply Facts.ext_of_holds
  intro verb tested
  rw [holds_consequence_iff, Facts.holds_rename_iff, rename, List.mem_map]
  simp only [holds_consequence_iff]
  constructor
  · intro declared
    obtain ⟨declaration, member, renamed⟩ := declared
    cases renamed
    exact ⟨declaration.concept, member, rfl⟩
  · intro stated
    obtain ⟨concept, member, rfl⟩ := stated
    exact ⟨⟨verb, concept⟩, member, rfl⟩

end Rule

/-- Put new names for the concepts. -/
def Translation.ofRenaming (newName : Renaming) : Translation where
  facts := Facts.rename newName
  rule := Rule.rename newName
  gap := Gap.rename newName
  clash := Clash.rename newName
  consequence_rule := Rule.consequence_rename
  merge_facts := Facts.rename_merge
  verdict_rule _ _ := Trigger.verdict_rename
  clash_facts := Facts.clash_rename
  isEmpty_clash := Clash.isEmpty_rename

/-- A resolution in the new names.  Rules keep their identifiers. -/
def Resolution.rename
    (newName : Renaming) (resolution : Resolution) : Resolution :=
  { resolution with
    base := resolution.base.rename newName
    closure := resolution.closure.rename newName
    unmet := resolution.unmet.map fun entry =>
      (entry.1, entry.2.rename newName)
    barred := resolution.barred.map fun entry =>
      (entry.1, entry.2.rename newName) }

theorem resolve_rename (newName : Renaming) (base : Facts) (rules : List Rule) :
    resolve (base.rename newName) (rules.map (Rule.rename newName)) =
      (resolve base rules).rename newName :=
  (Translation.ofRenaming newName).resolve_translated base rules

/-! ## Amendments -/

namespace Edit

def rename (newName : Renaming) : Edit → Edit
  | .add concept => .add (newName concept)
  | .drop concept => .drop (newName concept)

theorem apply_rename (edit : Edit) (present : ConceptSet) :
    (edit.rename newName).apply (present.rename newName) =
      (edit.apply present).rename newName := by
  cases edit with
  | add concept => exact ConceptSet.rename_insert.symm
  | drop concept => exact ConceptSet.rename_erase.symm

end Edit

theorem Gap.edit?_rename (gap : Gap) :
    (gap.rename newName).edit? = gap.edit?.map (Edit.rename newName) := by
  obtain ⟨missing, redundant⟩ := gap
  cases missing with
  | cons concept rest => rfl
  | nil =>
      cases redundant with
      | cons concept rest => rfl
      | nil => rfl

/-- An amendment makes the same edits in the new names, one after the other. -/
theorem Trigger.amend_rename
    (trigger : Trigger) (steps : Nat) (present : ConceptSet) :
    (trigger.rename newName).amend steps (present.rename newName) =
      (trigger.amend steps present).map (ConceptSet.rename newName) := by
  induction steps generalizing present with
  | zero =>
      rw [amend, amend, verdict_rename]
      cases trigger.verdict present with
      | holds => rfl
      | fails gap => rfl
  | succ remaining inductionHypothesis =>
      rw [amend, amend, verdict_rename]
      cases trigger.verdict present with
      | holds => rfl
      | fails gap =>
          simp only [Verdict.map, Gap.edit?_rename]
          cases gap.edit? with
          | none => rfl
          | some edit =>
              simp only [Option.map_some, Edit.apply_rename]
              exact inductionHypothesis (edit.apply present)

theorem Rule.amend_rename
    (rule : Rule) (limit : Nat) (name : Option RuleId) (facts : Facts) :
    (rule.rename newName).amend limit name (facts.rename newName) =
      (rule.amend limit name facts).map (Facts.rename newName) := by
  have sameAmendment :
      (rule.trigger.rename newName).amend limit (facts.is.rename newName) =
        (rule.trigger.amend limit facts.is).map (ConceptSet.rename newName) :=
    rule.trigger.amend_rename limit facts.is
  rw [amend, amend, rename, Facts.rename, sameAmendment]
  cases rule.trigger.amend limit facts.is with
  | error obstacle => rfl
  | ok present => rfl

/-! ## Main result -/

/-- Concepts may be renamed before or after a base is resolved or facts are
amended. -/
theorem resolve_and_amend_rename (newName : Renaming) :
    (∀ base rules,
        resolve (base.rename newName) (rules.map (Rule.rename newName)) =
          (resolve base rules).rename newName) ∧
      ∀ (rule : Rule) (limit : Nat) (name : Option RuleId) (facts : Facts),
        (rule.rename newName).amend limit name (facts.rename newName) =
          (rule.amend limit name facts).map (Facts.rename newName) := by
  constructor
  · intro base rules
    exact resolve_rename newName base rules
  · intro rule limit name facts
    exact rule.amend_rename limit name facts

end ConceptRules
