import ResponseEngine.Foundation.Decimal
import ResponseEngine.Foundation.Framing
import ResponseEngine.Foundation.Text
import ResponseEngine.Foundation.Sha256
import ResponseEngine.Foundation.Double
import ResponseEngine.Foundation.Rounding
import ResponseEngine.Foundation.Machine
import ResponseEngine.Python.DateTime
import ResponseEngine.Python.Value
import ResponseEngine.Python.Runtime
import ResponseEngine.Python.Pydantic
import ResponseEngine.Contract.Action
import ResponseEngine.Contract.Command
import ResponseEngine.Contract.ClosedTarget
import ResponseEngine.Contract.Result
import ResponseEngine.LinuxIdentity
import ResponseEngine.Recommendation
import ResponseEngine.Recommendation.CanonicalTarget
import ResponseEngine.Recommendation.Preimages
import ResponseEngine.Recommendation.Translation
import ResponseEngine.Recommendation.TamperEvidence
import ResponseEngine.Recommendation.FailClosed
import ResponseEngine.Recommendation.RoundTrip
import ResponseEngine.Signing
import ResponseEngine.Signing.Epoch
import ResponseEngine.Signing.SignedCommand
import ResponseEngine.Signing.Envelope
import ResponseEngine.Signing.Canonical
import ResponseEngine.Signing.Deliverable
import ResponseEngine.Lifecycle
import ResponseEngine.Policy
import ResponseEngine.Automation
import ResponseEngine.Automation.Decision
import ResponseEngine.Automation.Gates
import ResponseEngine.Automation.GlobalMode
import ResponseEngine.Automation.LoopGuard
import ResponseEngine.Automation.Status
import ResponseEngine.Automation.PolicyDefinition
import ResponseEngine.Triage.ApprovedFile
import ResponseEngine.Triage.DeviceNames
import ResponseEngine.Triage.PathGrammar
import ResponseEngine.Triage
import ResponseEngine.Triage.Dispatch
import ResponseEngine.Foundation.Quota
import ResponseEngine.Foundation.Precedence
import ResponseEngine.Foundation.Prefixes
import ResponseEngine.Foundation.Pattern
import ResponseEngine.Triage.Budget
import ResponseEngine.Triage.Restriction
import ResponseEngine.Triage.Reordering
import ResponseEngine.Python.Codec
import ResponseEngine.Artifacts
import ResponseEngine.Artifacts.Signing
import ResponseEngine.Forensics
import ResponseEngine.Forensics.Plan
import ResponseEngine.Forensics.Delivery
import ResponseEngine.Forensics.Agreement
import ResponseEngine.Foundation.Reach
import ResponseEngine.Automation.Incident
import ResponseEngine.Automation.Outcome
import ResponseEngine.Automation.Exits
import ResponseEngine.Automation.DefaultPolicies
import ResponseEngine.Automation.Audit
import ResponseEngine.Automation.Severity
import ResponseEngine.Automation.Shadowing
import ResponseEngine.Pipeline
import ResponseEngine.Pipeline.Issue
import ResponseEngine.Forensics.Evidence
import ResponseEngine.Forensics.Decision
import ResponseEngine.Triage.Default
import ResponseEngine.Recommendation.Context
import ResponseEngine.Catalog
import ResponseEngine.Pipeline.Collection
import ResponseEngine.Access
import ResponseEngine.Triage.Rules
