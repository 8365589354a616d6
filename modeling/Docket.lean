import Docket.Expression.Evaluator
import Docket.Job.Endpoint
import Docket.Main
import Docket.Proofs.Engine.Course
import Docket.Proofs.Engine.Hidden
import Docket.Proofs.Engine.History
import Docket.Proofs.Engine.Operation
import Docket.Proofs.Engine.Refusal
import Docket.Proofs.Engine.Secrecy
import Docket.Proofs.Engine.WellFormed
import Docket.Proofs.Expression.Caches
import Docket.Proofs.Expression.Mention
import Docket.Proofs.Graph.Loaded
import Docket.Proofs.Engine.Stranded
import Docket.Proofs.Access
import Docket.Proofs.Engine.Disarmed
import Docket.Proofs.Engine.Offer
import Docket.Proofs.Engine.Report
import Docket.Proofs.Engine.Authority
import Docket.Proofs.Expression.Compiled
import Docket.Proofs.Graph.Texts
import Docket.Proofs.Engine.Validated
import Docket.Proofs.Engine.Loop
import Docket.Proofs.Engine.Limit
import Docket.Proofs.Service.Updates
import Docket.Proofs.Service.AfterJobs
import Docket.Proofs.Record.Rows
import Docket.Proofs.Engine.Delivery
import Docket.Proofs.Engine.Fixpoint
import Docket.Proofs.Expression.Accepted
import Docket.Proofs.Expression.Transparency
import Docket.Proofs.Engine.Protected
import Docket.Proofs.Engine.Membership
import Docket.Proofs.Engine.Syncs
import Docket.Proofs.Engine.Timeout
import Docket.Proofs.Workflow.RoundTrip
import Docket.Proofs.Failure.Identifier
import Docket.Proofs.Engine.Standing
import Docket.Proofs.Engine.Detour
import Docket.Proofs.Engine.Routing
import Docket.Proofs.Engine.Addressed
import Docket.Proofs.Graph.Decided
import Docket.Proofs.Job.Worker
import Docket.Proofs.Engine.Stints
import Docket.Proofs.Expression.Height
import Docket.Proofs.Json.Integers
import Docket.Proofs.Json.Recast
import Docket.Proofs.Expression.Connective
import Docket.Proofs.Expression.Chain
import Docket.Proofs.Engine.Coercion
import Docket.Proofs.Expression.Conversion
import Docket.Proofs.Expression.Layout
import Docket.Proofs.Expression.Position
import Docket.Proofs.Expression.Rendering
import Docket.Proofs.Expression.Trailing
