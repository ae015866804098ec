import ConceptRules.Identifier

/-!
# Failures

Resolution never fails.  Failures come from describing a vocabulary or a rule
badly and from a repair that cannot be finished.  A fault is the cause, and a
failure adds where it was met, if that is known.
-/

namespace ConceptRules

/-- Why something could not be done. -/
inductive Fault where
  | unknownConcept (concept : ConceptId)
  | unknownName (name : String)
  | unknownRule (rule : RuleId)
  | emptyGroup
  /-- Names of the concepts that a rule wrongly asserts and denies. -/
  | inconsistentRule (asserted denied : List String)
  | stepLimit (limit : Nat) (rule : Option RuleId)
  | internal (reason : String)
  deriving DecidableEq

/-- The sentence that reports a fault. -/
def Fault.message : Fault → String
  | .unknownConcept concept => "unknown concept: " ++ concept.describe
  | .unknownName name => "unknown concept name: " ++ name
  | .unknownRule rule => "unknown qualification: " ++ rule.describe
  | .emptyGroup => "group matcher has no members"
  | .inconsistentRule asserted denied =>
      "inconsistent qualification: is \x7b"
        ++ String.intercalate ", " asserted
        ++ "\x7d, isn't \x7b"
        ++ String.intercalate ", " denied
        ++ "\x7d"
  | .stepLimit limit rule =>
      "limit exceeded: max repair steps (" ++ toString limit ++ ") exceeded"
        ++ match rule with
          | none => ""
          | some rule => " for qualification " ++ rule.label
  | .internal reason => "internal error: " ++ reason

/-- Where a fault was met: what was being read, and the operations around it,
the innermost last. -/
structure Site where
  source : Option String := none
  stack : List String := []
  deriving DecidableEq

/-- The written form of a site: the source, then a line for each operation. -/
def Site.text (site : Site) : String :=
  let source :=
    match site.source with
    | none => ""
    | some source => "at " ++ source
  let frames := site.stack.map fun frame => "  in " ++ frame ++ "\n"
  if frames.isEmpty then source else source ++ "\n" ++ String.join frames

/-- A fault and where it was met. -/
structure Failure where
  fault : Fault
  site : Option Site := none
  deriving DecidableEq

end ConceptRules
