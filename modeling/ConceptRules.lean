import ConceptRules.ConceptSet.Workspace
import ConceptRules.Ontology.Explanation
import ConceptRules.Draft.Closing
import ConceptRules.Draft.Step
import ConceptRules.Advice.Concepts
import ConceptRules.Advice.Rules
import ConceptRules.Proofs.Standing
import ConceptRules.Proofs.Accounting
import ConceptRules.Proofs.Lockstep
import ConceptRules.Proofs.Rearrangement
import ConceptRules.Proofs.Admission
import ConceptRules.Proofs.Foundation
import ConceptRules.Proofs.Idempotence
import ConceptRules.Proofs.LeastModel
import ConceptRules.Proofs.Partition
import ConceptRules.Proofs.Rounds
import ConceptRules.Proofs.Selection
import ConceptRules.Proofs.Independence
import ConceptRules.Proofs.Extension
import ConceptRules.Proofs.Completion
import ConceptRules.Proofs.Suggestion
import ConceptRules.Proofs.SelfConsistency
import ConceptRules.Proofs.Replay
import ConceptRules.Proofs.Termination
import ConceptRules.Proofs.Bystanders
import ConceptRules.Proofs.Precedence
import ConceptRules.Proofs.Naming
import ConceptRules.Proofs.Drafting
import ConceptRules.Proofs.Submissions
import ConceptRules.Proofs.ClosedConcepts
import ConceptRules.Proofs.Translation
import ConceptRules.Proofs.Possibility
import ConceptRules.Proofs.Diagnosis
import ConceptRules.Proofs.Log
import ConceptRules.Proofs.Renaming
import ConceptRules.Proofs.Amending
import ConceptRules.Proofs.Economy
import ConceptRules.Proofs.Mending
import ConceptRules.Proofs.Reasons
import ConceptRules.Proofs.Denotation
import ConceptRules.Proofs.Bilinearity
import ConceptRules.Proofs.FirstMention
import ConceptRules.Proofs.Wording
import ConceptRules.Proofs.RoundTrip
