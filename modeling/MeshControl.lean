import MeshControl.Admin
import MeshControl.Agent.Report
import MeshControl.Agent.Watcher
import MeshControl.Config.Caches
import MeshControl.Main
import MeshControl.Proofs.Build.RuleAdded
import MeshControl.Proofs.Build.Targets
import MeshControl.Proofs.Config.Accepted
import MeshControl.Proofs.Config.Revisions
import MeshControl.Proofs.Names
import MeshControl.Proofs.Proxy.Agreement
import MeshControl.Proofs.Registry.Operations
import MeshControl.Proofs.Rule.Precedence
import MeshControl.Proofs.Build.FirstMatch
import MeshControl.Proofs.Discovery.Traffic
import MeshControl.Proofs.Discovery.Coherence
import MeshControl.Proofs.Config.Equality
import MeshControl.Proofs.Config.Snapshot
import MeshControl.Proofs.Config.Replay
import MeshControl.Proofs.Config.Turns
import MeshControl.Proofs.Config.Session
import MeshControl.Proofs.Config.Delivery
import MeshControl.Proofs.Config.Convergence
import MeshControl.Proofs.ServiceKey
import MeshControl.Proofs.Build.Encryption
import MeshControl.Proofs.Discovery.Registration
import MeshControl.Proofs.Build.Unsigned
import MeshControl.Proofs.Config.Mirror
import MeshControl.Proofs.Discovery.Dependence
import MeshControl.Proofs.Discovery.Transparency
import MeshControl.Proofs.Discovery.Identities
import MeshControl.Proofs.Discovery.Routes
import MeshControl.Proofs.Agent.Discipline
import MeshControl.Proofs.Agent.Budget
import MeshControl.Proofs.Config.Simulation
import MeshControl.Proofs.Build.Exposure
import MeshControl.Proofs.Build.Faults
import MeshControl.Proofs.Build.Handover
import MeshControl.Proofs.Build.Domains
import MeshControl.Proofs.Build.Tuning
import MeshControl.Proofs.Build.Bystanders
import MeshControl.Proofs.Build.Reordering
import MeshControl.Proofs.Registry.Events
import MeshControl.Proofs.Api.Faithful
import MeshControl.Proofs.Rule.Messages
import MeshControl.Proofs.Config.Difference
import MeshControl.Proofs.Rule.Callers
import MeshControl.Proofs.Build.Connections
import MeshControl.Proofs.Build.Weights
import MeshControl.Proofs.Build.Filters
import MeshControl.Proofs.Build.EdgeOrder
import MeshControl.Proofs.Build.Addresses
import MeshControl.Proofs.Build.ShortNames
import MeshControl.Proofs.Discovery.ClusterNames
import MeshControl.Proofs.Config.Isolation
import MeshControl.Proofs.Config.Backoff
import MeshControl.Proofs.Agent.Restarts
import MeshControl.Proofs.Rule.Selection
import MeshControl.Proofs.Registry.Panel
import MeshControl.Proofs.Discovery.Accounting
import MeshControl.Proofs.Api.Refusals
import MeshControl.Proofs.Agent.Rotation
import MeshControl.Proofs.Duration
import MeshControl.Proofs.Api.Overflow
import MeshControl.Proofs.Config.Union
import MeshControl.Proofs.Node
import MeshControl.Proofs.Config.Reading
import MeshControl.Proofs.Proxy.Distinct
import MeshControl.Proofs.Agent.Attempts
