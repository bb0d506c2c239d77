import Signoff.Feed.Hub
import Signoff.Main
import Signoff.Proofs.Desk.Lifecycle
import Signoff.Store.Edit
import Signoff.Web.Service
import Signoff.Proofs.Condition.Grammar
import Signoff.Proofs.Store.FailedWrites
import Signoff.Proofs.Condition.Anomalies
import Signoff.Proofs.Decision.FirstMatch
import Signoff.Proofs.Desk.Reachable
import Signoff.Proofs.Desk.Placing
import Signoff.Proofs.Desk.Simulation
import Signoff.Proofs.Condition.RoundTrip
import Signoff.Proofs.Condition.Meaning
import Signoff.Proofs.Store.Frame
import Signoff.Proofs.Desk.Trail
import Signoff.Proofs.Policy.Draft
import Signoff.Proofs.Store.PolicyRows
import Signoff.Proofs.Desk.PolicyTable
import Signoff.Proofs.Desk.Isolation
import Signoff.Proofs.Desk.PolicyBook
import Signoff.Proofs.Json.Decoding
import Signoff.Proofs.Web.Asking
import Signoff.Proofs.Desk.Orderly
import Signoff.Proofs.Web.Refusals
import Signoff.Proofs.Store.PendingSet
import Signoff.Proofs.Desk.Announcing
import Signoff.Proofs.Desk.Tidy
import Signoff.Proofs.Feed.View
import Signoff.Proofs.Feed.Convergence
import Signoff.Proofs.Decision.Mentions
import Signoff.Feed.Channel
import Signoff.Proofs.Desk.Retries
import Signoff.Proofs.Desk.Testimony
import Signoff.Proofs.Feed.Announcements
import Signoff.Proofs.Condition.Evidence
import Signoff.Proofs.Store.LedgerQueries
import Signoff.Proofs.Desk.PendingPage
import Signoff.Proofs.Decision.Newcomer
import Signoff.Proofs.Desk.Trial
import Signoff.Proofs.Condition.Order
import Signoff.Proofs.Condition.Equality
import Signoff.Proofs.Condition.Integers
import Signoff.Proofs.Condition.Location
import Signoff.Proofs.Condition.Now
import Signoff.Proofs.Desk.Repetition
import Signoff.Proofs.Desk.RetryGate
import Signoff.Proofs.Desk.Answers
import Signoff.Proofs.Decision.Rendering
import Signoff.Proofs.Desk.Failures
import Signoff.Proofs.Desk.NormalForm
import Signoff.Proofs.Desk.Overwriting
import Signoff.Proofs.Store.Migrations
import Signoff.Proofs.Feed.Replies
import Signoff.Proofs.Text.Utf8
import Signoff.Proofs.Record.Sender
import Signoff.Proofs.Store.Timestamps
