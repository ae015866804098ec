import ConceptRules.Fault

/-!
# Events

What happens on the way to an answer is told in events.  An event is a value;
its level, message and fields are how it is written down.
-/

namespace ConceptRules

/-- How much attention an event deserves. -/
inductive Level where
  | trace
  | debug
  | warn
  deriving DecidableEq

def Level.text : Level → String
  | .trace => "TRACE"
  | .debug => "DEBUG"
  | .warn => "WARN"

inductive Detail where
  | text (value : String)
  | count (value : Nat)
  | flag (value : Bool)
  deriving DecidableEq

/-- One step on the way to an answer. -/
inductive Event where
  /-- A rule's trigger holds and its consequence contradicts the facts. -/
  | barred (rule : RuleId)
  | round (number admittedCount barredCount : Nat)
  /-- A pass over the standing rules found some that do not stand any more. -/
  | pass (withdrawnCount : Nat)
  | withdrawn (rule : RuleId)
  /-- A concept was supposed, to see whether it can be suggested. -/
  | trial (concept : ConceptId) (accepted : Bool)
  | repairAbandoned (rule : RuleId) (fault : Fault)
  /-- A rule that contradicts itself was left out. -/
  | ruleDropped (position : Nat)
  /-- A rule contradicts the closure of a named concept. -/
  | conceptContradicted (name : String) (rule : RuleId)
  deriving DecidableEq

namespace Event

def level : Event → Level
  | .barred _ => .trace
  | .round _ _ _ => .debug
  | .pass _ => .debug
  | .withdrawn _ => .trace
  | .trial _ _ => .trace
  | .repairAbandoned _ _ => .warn
  | .ruleDropped _ => .warn
  | .conceptContradicted _ _ => .warn

def message : Event → String
  | .barred _ => "incompatible with current facts"
  | .round _ _ _ => "resolution round"
  | .pass _ => "retraction pass"
  | .withdrawn _ => "retracted"
  | .trial _ _ => "candidate concept"
  | .repairAbandoned _ _ => "repair abandoned"
  | .ruleDropped _ => "dropping self-inconsistent qualification"
  | .conceptContradicted _ _ => "qualification contradicts concept closure"

def fields : Event → List (String × Detail)
  | .barred rule => [("qualification", .text rule.label)]
  | .round number admittedCount barredCount =>
      [("round", .count number), ("admitted", .count admittedCount),
        ("incompatible", .count barredCount)]
  | .pass withdrawnCount => [("retracted", .count withdrawnCount)]
  | .withdrawn rule => [("qualification", .text rule.label)]
  | .trial concept accepted =>
      [("concept", .text concept.label), ("accepted", .flag accepted)]
  | .repairAbandoned rule fault =>
      [("qualification", .text rule.label), ("error", .text fault.message)]
  | .ruleDropped position => [("position", .count position)]
  | .conceptContradicted name rule =>
      [("concept", .text name), ("qualification", .text rule.label)]

end Event

end ConceptRules
