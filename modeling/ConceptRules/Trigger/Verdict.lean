import ConceptRules.Trigger.Basic

/-!
# Reading a trigger

Reading a trigger against the concepts that are present gives a verdict.  Where
the trigger does not hold, the verdict says which concepts would help if they
were added (`missing`) and which would help if they were dropped
(`redundant`), both in the order of the pattern:

* a single concept is missing, or, if negated, redundant;
* *all of* a group misses the absent members; negated, every member is
  redundant;
* *any of* a group misses every member; negated, the present members are
  redundant;
* *one of* a group misses every member if none is present, and has the present
  members too many otherwise; negated, either kind of edit helps, since the
  one present member can go and any absent one can join it.

The verdict agrees with `Trigger.Holds` (`Trigger.verdict_eq_holds_iff`).
-/

namespace ConceptRules

/-- The concepts that keep a trigger from holding. -/
structure Gap where
  missing : List ConceptId
  redundant : List ConceptId
  deriving DecidableEq

/-- The gap can be closed by adding concepts only. -/
def Gap.onlyMissing (gap : Gap) : Bool :=
  gap.redundant.isEmpty

/-- The outcome of reading a trigger. -/
inductive Verdict where
  | holds
  | fails (gap : Gap)
  deriving DecidableEq

/-- The gap of a trigger that does not hold. -/
def Verdict.gap? : Verdict → Option Gap
  | .holds => none
  | .fails gap => some gap

namespace Group

/-- The members that are present. -/
def found (group : Group) (present : ConceptSet) : List ConceptId :=
  group.members.filter (· ∈ present)

/-- The members that are not present. -/
def lacking (group : Group) (present : ConceptSet) : List ConceptId :=
  group.members.filter (· ∉ present)

/-- Whether the group is satisfied, read off its present and absent members. -/
def isSatisfied (group : Group) (present : ConceptSet) : Bool :=
  match group.connective with
  | .allOf => (group.lacking present).isEmpty
  | .anyOf => !(group.found present).isEmpty
  | .oneOf => (group.found present).length == 1

/-- What keeps a group from being satisfied, or, if negated, from not being
satisfied. -/
def gap (group : Group) (negated : Bool) (present : ConceptSet) : Gap :=
  match group.connective, negated with
  | .allOf, false => ⟨group.lacking present, []⟩
  | .allOf, true => ⟨[], group.members⟩
  | .anyOf, false => ⟨group.members, []⟩
  | .anyOf, true => ⟨[], group.found present⟩
  | .oneOf, false =>
      if (group.found present).isEmpty then
        ⟨group.members, []⟩
      else
        ⟨[], group.found present⟩
  | .oneOf, true => ⟨group.lacking present, group.found present⟩

variable {group : Group} {present : ConceptSet} {concept : ConceptId}

theorem mem_found_iff :
    concept ∈ group.found present ↔
      concept ∈ group.members ∧ concept ∈ present := by
  simp only [found, List.mem_filter, decide_eq_true_eq]

theorem mem_lacking_iff :
    concept ∈ group.lacking present ↔
      concept ∈ group.members ∧ concept ∉ present := by
  simp only [lacking, List.mem_filter, decide_eq_true_eq]

theorem found_eq_nil_iff :
    group.found present = [] ↔ ∀ member ∈ group.members, member ∉ present := by
  simp [found]

theorem lacking_eq_nil_iff :
    group.lacking present = [] ↔ ∀ member ∈ group.members, member ∈ present := by
  simp [lacking]

end Group

namespace Trigger

/-- The outcome of reading a trigger against the concepts that are present. -/
def verdict (trigger : Trigger) (present : ConceptSet) : Verdict :=
  match trigger.pattern with
  | .single concept =>
      if decide (concept ∈ present) != trigger.negated then
        .holds
      else if trigger.negated then
        .fails ⟨[], [concept]⟩
      else
        .fails ⟨[concept], []⟩
  | .grouped group =>
      if group.isSatisfied present != trigger.negated then
        .holds
      else
        .fails (group.gap trigger.negated present)

end Trigger

/-! ## The verdict and what the trigger asks for -/

private theorem eq_singleton_of_nodup
    {concepts : List ConceptId} {concept : ConceptId}
    (nodup : concepts.Nodup) (member : concept ∈ concepts)
    (unique : ∀ other ∈ concepts, other = concept) :
    concepts = [concept] := by
  match concepts with
  | [] => simp at member
  | [only] => rw [List.mem_singleton.1 member]
  | first :: second :: rest =>
      have firstSame := unique first (by simp)
      have secondSame := unique second (by simp)
      subst firstSame
      simp [secondSame] at nodup

theorem Group.isSatisfied_iff {group : Group} {present : ConceptSet} :
    group.isSatisfied present = true ↔ group.Holds present := by
  rw [isSatisfied, Holds]
  cases group.connective with
  | allOf => simp [lacking]
  | anyOf => simp [found]
  | oneOf =>
      simp only [beq_iff_eq]
      constructor
      · intro single
        obtain ⟨only, isOnly⟩ := List.length_eq_one_iff.1 single
        have onlyFound : only ∈ group.found present := by simp [isOnly]
        rw [mem_found_iff] at onlyFound
        refine ⟨only, onlyFound.1, onlyFound.2, fun other member isPresent => ?_⟩
        have otherFound : other ∈ group.found present :=
          mem_found_iff.2 ⟨member, isPresent⟩
        simpa [isOnly] using otherFound
      · rintro ⟨only, member, isPresent, unique⟩
        have isOnly : group.found present = [only] := by
          apply eq_singleton_of_nodup (group.nodup.filter _)
          · simp [member, isPresent]
          · intro other otherFound
            simp only [List.mem_filter, decide_eq_true_eq] at otherFound
            exact unique other otherFound.1 otherFound.2
        simp [isOnly]

/-- The verdict is that the trigger holds exactly when it does. -/
theorem Trigger.verdict_eq_holds_iff
    {trigger : Trigger} {present : ConceptSet} :
    trigger.verdict present = .holds ↔ trigger.Holds present := by
  obtain ⟨negated, pattern⟩ := trigger
  cases pattern with
  | single concept =>
      cases negated <;>
        simp [verdict, Trigger.Holds, Pattern.Holds]
  | grouped group =>
      have satisfied :
          group.isSatisfied present = true ↔ group.Holds present :=
        Group.isSatisfied_iff
      cases negated <;>
        simp [verdict, Trigger.Holds, Pattern.Holds, ← satisfied]

theorem Trigger.not_holds_of_verdict_eq_fails
    {trigger : Trigger} {present : ConceptSet} {gap : Gap}
    (fails : trigger.verdict present = .fails gap) :
    ¬trigger.Holds present := by
  intro holds
  rw [verdict_eq_holds_iff.2 holds] at fails
  cases fails

end ConceptRules
