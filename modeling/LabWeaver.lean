import LabWeaver.Environment.LeaseHistory
import LabWeaver.Environment.Deletion
import LabWeaver.Environment.Agreement
import LabWeaver.Environment.Supersession
import LabWeaver.Environment.Executor
import LabWeaver.Environment.CommandStream
import LabWeaver.Resource.Conflicts
import LabWeaver.RetrySafety
import LabWeaver.Access.ConsoleSessions
import LabWeaver.Access.GrantLifetime
import LabWeaver.Access.GrantRows
import LabWeaver.Access.GatewayTable
import LabWeaver.Access.Capabilities
import LabWeaver.Revocation
import LabWeaver.Evaluation.Collector
import LabWeaver.Evaluation.Collection
import LabWeaver.Evaluation.Progress
import LabWeaver.Evaluation.StudentResults
import LabWeaver.Agent.StateMachine
import LabWeaver.Agent.BuildSystem
import LabWeaver.Persistence.InboxTransactions
import LabWeaver.Auth.Authorization
import LabWeaver.Access.ProxyPaths
import LabWeaver.Auth.BackchannelLogout
import LabWeaver.Control.Approvals
import LabWeaver.Control.Uploads
import LabWeaver.Persistence.ObjectKeys
import LabWeaver.Contracts.StreamSequence
import LabWeaver.Agent.CostConversion
import LabWeaver.Evaluation.DrainBounded
import LabWeaver.Persistence.ReleaseLedger
