import ConceptRules.Resolution.Run
import ConceptRules.StableSort

/-!
# Resolutions

To resolve a base under a list of rules is to find out what else is then known
of the subject.  A resolution says so (`closure`), and for every rule why its
consequence is part of that or not.
-/

namespace ConceptRules

/-- The outcome of a run. -/
@[ext]
structure Resolution where
  base : Facts := ∅
  /-- The base and the consequences of the standing rules. -/
  closure : Facts := ∅
  /-- The rules that stand at the end, in order of admission. -/
  standing : List RuleId := []
  /-- The last gap of each rule that does not stand and was ever found wanting,
  in list order. -/
  unmet : List (RuleId × Gap) := []
  /-- The rules that only a contradiction kept out of the last round. -/
  barred : List (RuleId × Clash) := []
  /-- The rules that stood for a time, in order of withdrawal. -/
  withdrawn : List RuleId := []
  rounds : Nat := 0
  deriving DecidableEq

namespace Resolution

/-- No rule contradicts what is known. -/
def isCompatible (resolution : Resolution) : Bool :=
  resolution.barred.isEmpty

def isStanding (resolution : Resolution) (rule : RuleId) : Bool :=
  decide (rule ∈ resolution.standing)

/-- The rules that lack concepts and have none too many, in list order. -/
def completable (resolution : Resolution) : List RuleId :=
  (resolution.unmet.filter fun entry => entry.2.onlyMissing).map Prod.fst

/-- The gap noted for a rule. -/
def gap? (resolution : Resolution) (rule : RuleId) : Option Gap :=
  (resolution.unmet.find? fun entry => entry.1 = rule).map Prod.snd

end Resolution

/-- The gaps noted for the rules that do not stand, in list order. -/
def State.unmet (state : State) : List (RuleId × Gap) :=
  (sortOn (fun candidate => candidate.id.index)
      (state.pending ++ state.withdrawn)).filterMap
    fun candidate => candidate.gap.map fun gap => (candidate.id, gap)

/-- The rules barred from the last round. -/
def Run.barred (run : Run) : List (RuleId × Clash) :=
  match run.rounds.getLast? with
  | none => []
  | some round => round.barred

/-- What a run comes to. -/
def Run.resolution (run : Run) : Resolution where
  base := run.base
  closure := run.last.closure run.base
  standing := run.last.standing.map Candidate.id
  unmet := run.last.unmet
  barred := run.barred
  withdrawn := run.last.withdrawn.map Candidate.id
  rounds := run.rounds.length

/-- What is known of a subject, given a base and a list of rules. -/
def resolve (base : Facts) (rules : List Rule) : Resolution :=
  (Run.ofRules base rules).resolution

end ConceptRules
