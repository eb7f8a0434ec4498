import SellerAgents.Concurrent.Pool
import SellerAgents.BatchQueue.Process
import SellerAgents.BatchQueue.Safety
import SellerAgents.BatchQueue.GroupRecovery
import SellerAgents.BatchQueue.Refusal
import SellerAgents.BatchQueue.Attempts
import SellerAgents.Billing.Schedule
import SellerAgents.Billing.Renewal
import SellerAgents.Billing.CheckoutProtocol
import SellerAgents.Sync.MarkerRetention
import SellerAgents.Sync.Revisions
import SellerAgents.Sync.Requests
import SellerAgents.Sync.Preferred
import SellerAgents.Sync.BoundedState
import SellerAgents.Sync.BindingIdentity
import SellerAgents.Billing.History
import SellerAgents.BridgeCore.Tombstones
import SellerAgents.BetaAccess.Promises
import SellerAgents.Health.ComparisonLaws
import SellerAgents.Health.IncidentOrder
import SellerAgents.Health.EvaluationLaws
import SellerAgents.Health.NotificationClaims
import SellerAgents.Health.NotifiedRuns
import SellerAgents.Health.MonitoredAlarms
import SellerAgents.Profiles.Assignments
import SellerAgents.Bootstrap.FreshAuthority
import SellerAgents.Execution.ResponseProcessingLaws
import SellerAgents.HealthScheduler.Laws
import SellerAgents.ControlClient.WorkGates
import SellerAgents.ControlClient.EffectiveTime
import SellerAgents.AuthRefresh.Laws
import SellerAgents.Work.SessionLaws
import SellerAgents.Work.IdentityLaws
import SellerAgents.CredentialTransfer.Laws
import SellerAgents.ApiWatch.Lifecycle
import SellerAgents.ApiWatch.RetryLaws
import SellerAgents.HealthScheduler.Cycle
import SellerAgents.HealthScheduler.Moves
import SellerAgents.HealthScheduler.CycleTime
import SellerAgents.BootstrapScheduler.Laws
import SellerAgents.Ordered.Chains
import SellerAgents.Feedback.FunnelExactness
import SellerAgents.Billing.EntitlementConvergence
import SellerAgents.Billing.CalendarIntervals
import SellerAgents.CredentialTransfer.RelayLaws
import SellerAgents.HealthRetention.Convergence
import SellerAgents.Compatibility.VersionLaws
import SellerAgents.LocalOperations.RecordStoreLaws
import SellerAgents.BetaAccess.SignIn
import SellerAgents.AuthRefresh.Families
import SellerAgents.CommandLedger.Laws
