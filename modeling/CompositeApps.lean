import CompositeApps.Api.Client
import CompositeApps.Api.Path
import CompositeApps.Api.Recorder
import CompositeApps.Api.Server
import CompositeApps.App.Basic
import CompositeApps.App.Finalizer
import CompositeApps.App.Gateway
import CompositeApps.App.Image
import CompositeApps.App.Policy
import CompositeApps.App.Summary
import CompositeApps.App.Validation
import CompositeApps.App.Version
import CompositeApps.Cluster.Call
import CompositeApps.Cluster.Cascade
import CompositeApps.Cluster.Faults
import CompositeApps.Cluster.Resource
import CompositeApps.Cluster.Store
import CompositeApps.CommandLine.Help
import CompositeApps.CommandLine.Options
import CompositeApps.Config.Operator
import CompositeApps.Config.SettingsFile
import CompositeApps.Controller.Run
import CompositeApps.Controller.Site
import CompositeApps.Definition.AppSchema
import CompositeApps.Definition.CustomResource
import CompositeApps.Definition.Schema
import CompositeApps.Desired.Autoscaler
import CompositeApps.Desired.Basic
import CompositeApps.Desired.Deployment
import CompositeApps.Desired.DestinationRule
import CompositeApps.Desired.Projection
import CompositeApps.Desired.Service
import CompositeApps.Desired.Target
import CompositeApps.Desired.VirtualService
import CompositeApps.Failure
import CompositeApps.Http.Message
import CompositeApps.Http.Target
import CompositeApps.Json.Basic
import CompositeApps.Json.Decoder
import CompositeApps.Json.Parser
import CompositeApps.Json.Pointer
import CompositeApps.Json.Printer
import CompositeApps.Log.Filter
import CompositeApps.Log.Record
import CompositeApps.Main
import CompositeApps.Manifest.Autoscaler
import CompositeApps.Manifest.Container
import CompositeApps.Manifest.Deployment
import CompositeApps.Manifest.DestinationRule
import CompositeApps.Manifest.Metadata
import CompositeApps.Manifest.Pod
import CompositeApps.Manifest.PodShapes
import CompositeApps.Manifest.Service
import CompositeApps.Manifest.Shape
import CompositeApps.Manifest.VirtualService
import CompositeApps.Net.SocketAddress
import CompositeApps.Number.Binary64
import CompositeApps.Number.Shortest
import CompositeApps.Number.Whole
import CompositeApps.Program
import CompositeApps.Proofs.Api.Failures
import CompositeApps.Proofs.App.Followed
import CompositeApps.Proofs.App.ImageTag
import CompositeApps.Proofs.App.Labels
import CompositeApps.Proofs.App.Overrun
import CompositeApps.Proofs.App.Requirements
import CompositeApps.Proofs.App.RoundTrip
import CompositeApps.Proofs.App.Validation
import CompositeApps.Proofs.App.VersionMark
import CompositeApps.Proofs.App.WellFormed
import CompositeApps.Proofs.Cluster.Cascade
import CompositeApps.Proofs.Cluster.Confined
import CompositeApps.Proofs.Cluster.Effect
import CompositeApps.Proofs.Cluster.Faults
import CompositeApps.Proofs.Cluster.Finalizers
import CompositeApps.Proofs.Cluster.History
import CompositeApps.Proofs.Cluster.Removal
import CompositeApps.Proofs.CommandLine.Spelling
import CompositeApps.Proofs.Config.Layers
import CompositeApps.Proofs.Desired.CarryForward
import CompositeApps.Proofs.Desired.DriftDetection
import CompositeApps.Proofs.Desired.GatewayRules
import CompositeApps.Proofs.Desired.Influence
import CompositeApps.Proofs.Desired.PlainRequests
import CompositeApps.Proofs.Desired.PodNames
import CompositeApps.Proofs.Desired.PodSelection
import CompositeApps.Proofs.Desired.PolicySettings
import CompositeApps.Proofs.Desired.References
import CompositeApps.Proofs.Desired.ServedShares
import CompositeApps.Proofs.Desired.ServicePorts
import CompositeApps.Proofs.Desired.Shares
import CompositeApps.Proofs.Mesh.FirstMatch
import CompositeApps.Proofs.Number.Value
import CompositeApps.Proofs.Quantity.Amounts
import CompositeApps.Proofs.Quantity.Machine
import CompositeApps.Proofs.Quantity.Written
import CompositeApps.Proofs.Reconcile.Aborts
import CompositeApps.Proofs.Reconcile.Among
import CompositeApps.Proofs.Reconcile.ChangeLog
import CompositeApps.Proofs.Reconcile.Classification
import CompositeApps.Proofs.Reconcile.Converge
import CompositeApps.Proofs.Reconcile.Convergence
import CompositeApps.Proofs.Reconcile.Edits
import CompositeApps.Proofs.Reconcile.GateSafety
import CompositeApps.Proofs.Reconcile.Household
import CompositeApps.Proofs.Reconcile.Idempotence
import CompositeApps.Proofs.Reconcile.Interleaving
import CompositeApps.Proofs.Reconcile.Isolation
import CompositeApps.Proofs.Reconcile.Lookups
import CompositeApps.Proofs.Reconcile.LostRaces
import CompositeApps.Proofs.Reconcile.Run
import CompositeApps.Proofs.Reconcile.Separation
import CompositeApps.Proofs.Reconcile.SideBySide
import CompositeApps.Proofs.Reconcile.TruthfulStatus
import CompositeApps.Proofs.Time.DecimalSeconds
import CompositeApps.Proofs.Time.Overrun
import CompositeApps.Proofs.Time.ReadBack
import CompositeApps.Quantity
import CompositeApps.Reconcile.Change
import CompositeApps.Reconcile.Converge
import CompositeApps.Reconcile.Event
import CompositeApps.Reconcile.Gate
import CompositeApps.Reconcile.Pass
import CompositeApps.Reconcile.Reconciler
import CompositeApps.Reconcile.Status
import CompositeApps.Reconcile.World
import CompositeApps.Telemetry.Exposition
import CompositeApps.Telemetry.Metrics
import CompositeApps.Telemetry.Probes
import CompositeApps.Text.Basic
import CompositeApps.Text.CharRanges
import CompositeApps.Text.Similarity
import CompositeApps.Time.Duration
import CompositeApps.Time.DurationParser
import CompositeApps.Time.Timestamp
import CompositeApps.Yaml.Printer
import CompositeApps.Yaml.Scalar
