import FlowAI.Registry.History
import FlowAI.Registry.ClaimRetry
import FlowAI.Registry.HeadClaim
import FlowAI.Registry.Deadlock
import FlowAI.Registry.ClaimRace
import FlowAI.Registry.TeamRace
import FlowAI.Registry.Stream
import FlowAI.Registry.TenantIsolation
import FlowAI.Gateway.Authorisation
import FlowAI.Gateway.ClaimSource
import FlowAI.Registry.RevisionHistory
import FlowAI.K8s.Capacity
import FlowAI.K8s.Reattachment
import FlowAI.K8s.CommandIDs
import FlowAI.Executors.StatusSearch
import FlowAI.Registry.Precedence
import FlowAI.K8s.Orphans
import FlowAI.Registry.ClaimTokens
import FlowAI.K8s.ResendOrder
import FlowAI.Docker.Ports
import FlowAI.Docker.Accounting
import FlowAI.Executors.ControlWatch
import FlowAI.Registry.LogPages
import FlowAI.Registry.DecryptReports
import FlowAI.Registry.ExecutorHeaders
import FlowAI.Gateway.IssuedTokens
import FlowAI.Registry.TestControl
import FlowAI.Gateway.Pointers
