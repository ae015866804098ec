import ConceptRules.Proofs.FirstMention
import ConceptRules.Rule.Basic

/-!
# Rules to the letter

A rule is stated by a polarity, a connective with the concepts that it joins, and
a list of declarations.  Three things are made of this: the members of the group,
which are the concepts in order of first mention; the consequence, in which a
fact holds exactly if it is declared; and the list of all concepts of the rule.
None of them departs from what was stated (`Rule.KeepsTo`), and whatever holds of
every concept of the list holds of all that the rule looks for and entails.
-/

namespace ConceptRules

/-- A group is made anew from its members. -/
theorem Group.ofList_members (group : Group) :
    ofList group.connective group.members = group := by
  obtain ⟨connective, members, nodup⟩ := group
  simp only [ofList, eraseDups_eq_self nodup]

namespace Rule

/-- The rule that is stated by its parts. -/
def stated
    (negated : Bool) (connective : Connective) (members : List ConceptId)
    (declared : List Declaration) : Rule where
  trigger := { negated, pattern := .grouped (.ofList connective members) }
  declared

variable {rule : Rule} {check : ConceptId → Prop}

/-- Order and repetition of the declarations do not matter for what they amount
to. -/
theorem consequence_eq_of_same_declared
    {left right : Rule}
    (same : ∀ declaration,
      declaration ∈ left.declared ↔ declaration ∈ right.declared) :
    left.consequence = right.consequence := by
  apply Facts.ext_of_holds
  intro verb concept
  rw [holds_consequence_iff, holds_consequence_iff, same]

theorem mentions_consequence_iff {concept : ConceptId} :
    rule.consequence.Mentions concept ↔
      concept ∈ rule.declared.map Declaration.concept := by
  rw [List.mem_map]
  constructor
  · rintro ⟨verb, -, holds⟩
    exact ⟨_, holds_consequence_iff.1 holds, rfl⟩
  · rintro ⟨⟨verb, declared⟩, member, rfl⟩
    refine ⟨verb, ?_, holds_consequence_iff.2 member⟩
    cases verb <;> decide

/-- To check the concepts of a rule is to check those of its trigger and those
that its consequence mentions. -/
theorem forall_mem_concepts_iff :
    (∀ concept ∈ rule.concepts, check concept) ↔
      (∀ concept ∈ rule.trigger.pattern.concepts, check concept) ∧
        ∀ concept, rule.consequence.Mentions concept → check concept := by
  rw [concepts, List.forall_mem_append]
  simp only [mentions_consequence_iff]

/-- What a rule is made of says what its statement says. -/
structure KeepsTo
    (rule : Rule) (members : List ConceptId) (declared : List Declaration) :
    Prop where
  /-- A fact is entailed if it is declared, and no other is. -/
  holds_iff : ∀ verb concept,
    rule.consequence.Holds verb concept ↔ ⟨verb, concept⟩ ∈ declared
  nodup : rule.trigger.pattern.concepts.Nodup
  mem_iff : ∀ concept,
    concept ∈ rule.trigger.pattern.concepts ↔ concept ∈ members
  /-- The concepts are looked for in the order of their first mentions. -/
  inOrder :
    rule.trigger.pattern.concepts.Pairwise fun earlier later =>
      members.idxOf earlier < members.idxOf later
  concepts_eq :
    rule.concepts =
      rule.trigger.pattern.concepts ++ declared.map Declaration.concept
  /-- Nothing escapes a check of the concepts. -/
  checked : ∀ check : ConceptId → Prop,
    (∀ concept ∈ rule.concepts, check concept) ↔
      (∀ concept ∈ rule.trigger.pattern.concepts, check concept) ∧
        ∀ concept, rule.consequence.Mentions concept → check concept

theorem stated_keepsTo
    (negated : Bool) (connective : Connective) (members : List ConceptId)
    (declared : List Declaration) :
    (stated negated connective members declared).KeepsTo members declared where
  holds_iff _ _ := holds_consequence_iff
  nodup := nodup_eraseDups members
  mem_iff _ := Group.mem_ofList
  inOrder := eraseDups_inOrder members
  concepts_eq := rfl
  checked _ := forall_mem_concepts_iff

/-- A rule keeps to its statement.  Its consequence is the same for all lists of
the same declarations, and to state its group over again by the members of the
group changes nothing. -/
theorem keeps_to_statement
    (negated : Bool) (connective : Connective) (members : List ConceptId)
    (declared : List Declaration) :
    (stated negated connective members declared).KeepsTo members declared ∧
      (∀ others : List Declaration,
        (∀ declaration, declaration ∈ others ↔ declaration ∈ declared) →
          (stated negated connective members others).consequence =
            (stated negated connective members declared).consequence) ∧
      stated negated connective
          (stated negated connective members declared).trigger.pattern.concepts
          declared =
        stated negated connective members declared := by
  refine ⟨stated_keepsTo negated connective members declared, ?_, ?_⟩
  · intro others same
    exact consequence_eq_of_same_declared same
  · have remade := (Group.ofList connective members).ofList_members
    rw [stated, stated]
    exact congrArg
      (fun group : Group =>
        (⟨⟨negated, .grouped group⟩, declared⟩ : Rule))
      remade

/-- Concepts and declarations are repeated, and the declarations are in another
order than before. -/
theorem keeps_to_statement_repeated :
    let declared : List Declaration := [⟨.is, ⟨4⟩⟩, ⟨.isnt, ⟨5⟩⟩]
    let others : List Declaration :=
      [⟨.isnt, ⟨5⟩⟩, ⟨.is, ⟨4⟩⟩, ⟨.isnt, ⟨5⟩⟩]
    let rule := stated true .oneOf [⟨2⟩, ⟨1⟩, ⟨2⟩, ⟨3⟩, ⟨1⟩] others
    (∀ declaration, declaration ∈ others ↔ declaration ∈ declared) ∧
      rule.consequence = { is := .ofList [⟨4⟩], isnt := .ofList [⟨5⟩] } ∧
      rule.trigger.pattern.concepts = [⟨2⟩, ⟨1⟩, ⟨3⟩] := by
  intro declared others rule
  have same :
      ∀ declaration, declaration ∈ others ↔ declaration ∈ declared := by
    intro declaration
    simp only [others, declared, List.mem_cons, List.not_mem_nil, or_false]
    grind
  obtain ⟨-, unmoved, -⟩ :=
    keeps_to_statement true .oneOf [⟨2⟩, ⟨1⟩, ⟨2⟩, ⟨3⟩, ⟨1⟩] declared
  refine ⟨same, ?_, by decide⟩
  rw [unmoved others same]
  decide

end Rule

end ConceptRules
