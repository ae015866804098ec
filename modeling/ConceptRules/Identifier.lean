/-!
# Identifiers

A concept is named by its position in the vocabulary that defines it, and a
rule by its position in the rule list.  Both are plain positions: nothing but
equality, order and the written forms below depends on the number inside.

Identifiers are numbered with 32 bits, so `ofPosition?` refuses a position
that does not fit.
-/

namespace ConceptRules

/-- The number of positions that 32 bits can name. -/
def positionLimit : Nat := 4294967296

/-- A concept, named by its position in the vocabulary. -/
structure ConceptId where
  index : Nat
  deriving DecidableEq

/-- A rule, named by its position in the rule list. -/
structure RuleId where
  index : Nat
  deriving DecidableEq

namespace ConceptId

instance : LT ConceptId where
  lt left right := left.index < right.index

instance (left right : ConceptId) : Decidable (left < right) :=
  inferInstanceAs (Decidable (left.index < right.index))

theorem lt_def {left right : ConceptId} :
    left < right ↔ left.index < right.index :=
  Iff.rfl

protected theorem ext {left right : ConceptId}
    (sameIndex : left.index = right.index) : left = right := by
  cases left
  cases right
  cases sameIndex
  rfl

protected theorem lt_trans {first second third : ConceptId}
    (earlier : first < second) (later : second < third) : first < third :=
  Nat.lt_trans earlier later

/-- Of two different concepts one comes first. -/
protected theorem lt_of_not_lt_of_ne {left right : ConceptId}
    (notSmaller : ¬left < right) (different : left ≠ right) :
    right < left := by
  rw [lt_def] at *
  have differentIndex : left.index ≠ right.index :=
    fun sameIndex => different (ConceptId.ext sameIndex)
  omega

/-- The identifier of a position, if the position can be numbered. -/
def ofPosition? (position : Nat) : Option ConceptId :=
  if position < positionLimit then some ⟨position⟩ else none

/-- The written form inside messages and events, as in `#4`. -/
def label (concept : ConceptId) : String :=
  "#" ++ toString concept.index

/-- The written form that also says what is named, as in `ConceptId(4)`. -/
def describe (concept : ConceptId) : String :=
  "ConceptId(" ++ toString concept.index ++ ")"

end ConceptId

namespace RuleId

/-- The identifier of a position, if the position can be numbered. -/
def ofPosition? (position : Nat) : Option RuleId :=
  if position < positionLimit then some ⟨position⟩ else none

/-- The written form inside messages and events, as in `q4`. -/
def label (rule : RuleId) : String :=
  "q" ++ toString rule.index

/-- The written form that also says what is named. -/
def describe (rule : RuleId) : String :=
  "QualificationId(" ++ toString rule.index ++ ")"

end RuleId

end ConceptRules
