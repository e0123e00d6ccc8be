import ClusterGraph.Cache
import ClusterGraph.CachedViewer
import ClusterGraph.Cluster.Address
import ClusterGraph.Cluster.Answer
import ClusterGraph.Cluster.Client
import ClusterGraph.Cluster.Host
import ClusterGraph.Cluster.Kubeconfig
import ClusterGraph.Cluster.Resource
import ClusterGraph.Cluster.Server
import ClusterGraph.Cluster.Store
import ClusterGraph.CommandLine.Command
import ClusterGraph.CommandLine.Files
import ClusterGraph.CommandLine.Options
import ClusterGraph.CommandLine.Run
import ClusterGraph.Config.Basic
import ClusterGraph.Config.Decode
import ClusterGraph.Config.Document
import ClusterGraph.Config.File
import ClusterGraph.Config.Setting
import ClusterGraph.Decimal.Basic
import ClusterGraph.Decimal.Binary64
import ClusterGraph.Dict
import ClusterGraph.Fallible
import ClusterGraph.File.Path
import ClusterGraph.File.Tree
import ClusterGraph.Graph.Component
import ClusterGraph.Graph.Dedup
import ClusterGraph.Graph.NodeStatus
import ClusterGraph.Graph.Recording
import ClusterGraph.Graph.Render
import ClusterGraph.GroupKind
import ClusterGraph.Json.Basic
import ClusterGraph.Json.Mismatch
import ClusterGraph.Json.Printer
import ClusterGraph.Json.Reader
import ClusterGraph.Json.Shape
import ClusterGraph.Json.Token
import ClusterGraph.Link
import ClusterGraph.Main
import ClusterGraph.Object.Basic
import ClusterGraph.Object.Decode
import ClusterGraph.Object.Identity
import ClusterGraph.Plugin
import ClusterGraph.Plugin.Manifest
import ClusterGraph.Proofs.Cache
import ClusterGraph.Proofs.Cache.Recency
import ClusterGraph.Proofs.CachedViewer.Background
import ClusterGraph.Proofs.CachedViewer.Pending
import ClusterGraph.Proofs.CachedViewer.Sharing
import ClusterGraph.Proofs.CachedViewer.Simulation
import ClusterGraph.Proofs.Cluster.Discovery
import ClusterGraph.Proofs.Cluster.Host
import ClusterGraph.Proofs.Config.Change
import ClusterGraph.Proofs.Config.Layers
import ClusterGraph.Proofs.Config.Merge
import ClusterGraph.Proofs.Config.Sequence
import ClusterGraph.Proofs.Config.Valid
import ClusterGraph.Proofs.Dict
import ClusterGraph.Proofs.File
import ClusterGraph.Proofs.Graph.Dedup
import ClusterGraph.Proofs.Graph.PodGroup
import ClusterGraph.Proofs.Json.Shape
import ClusterGraph.Proofs.Kinds
import ClusterGraph.Proofs.Link
import ClusterGraph.Proofs.Object.Identity
import ClusterGraph.Proofs.Recording.Contents
import ClusterGraph.Proofs.Recording.Controllers
import ClusterGraph.Proofs.Recording.Directions
import ClusterGraph.Proofs.Recording.Edges
import ClusterGraph.Proofs.Recording.GroupKeys
import ClusterGraph.Proofs.Recording.Groups
import ClusterGraph.Proofs.Recording.InPlace
import ClusterGraph.Proofs.Recording.Nodes
import ClusterGraph.Proofs.Recording.Order
import ClusterGraph.Proofs.Recording.Quotient
import ClusterGraph.Proofs.Recording.Reported
import ClusterGraph.Proofs.Relation.Ownership
import ClusterGraph.Proofs.Relation.Queries
import ClusterGraph.Proofs.Relation.Stranger
import ClusterGraph.Proofs.Relation.Usage
import ClusterGraph.Proofs.Sample
import ClusterGraph.Proofs.Selection
import ClusterGraph.Proofs.Status.Dispatch
import ClusterGraph.Proofs.Status.Ingress
import ClusterGraph.Proofs.Status.Refusal
import ClusterGraph.Proofs.Status.Repetition
import ClusterGraph.Proofs.Status.Replicas
import ClusterGraph.Proofs.Status.Rules
import ClusterGraph.Proofs.Status.Version
import ClusterGraph.Proofs.Store.Manifest
import ClusterGraph.Proofs.Text.Cut
import ClusterGraph.Proofs.Text.Natural
import ClusterGraph.Proofs.Text.Pieces
import ClusterGraph.Proofs.Traversal.Confined
import ClusterGraph.Proofs.Traversal.Once
import ClusterGraph.Proofs.Traversal.Reach
import ClusterGraph.Proofs.Traversal.Runs
import ClusterGraph.Proofs.Traversal.Schedule
import ClusterGraph.Proofs.Traversal.Stranger
import ClusterGraph.Proofs.Traversal.Walk
import ClusterGraph.Proofs.Viewer
import ClusterGraph.Relation
import ClusterGraph.Relation.Members
import ClusterGraph.Report
import ClusterGraph.Resource.PodShape
import ClusterGraph.Resource.Schema
import ClusterGraph.Resource.Views
import ClusterGraph.ResourceKind
import ClusterGraph.Status.Checks
import ClusterGraph.Status.Error
import ClusterGraph.Status.Overlay
import ClusterGraph.Status.Resolver
import ClusterGraph.Store.Basic
import ClusterGraph.Store.Error
import ClusterGraph.Store.Manifest
import ClusterGraph.Text.Escaped
import ClusterGraph.Text.Natural
import ClusterGraph.Text.Pieces
import ClusterGraph.Text.Printable
import ClusterGraph.Text.Timestamp
import ClusterGraph.Traversal
import ClusterGraph.Viewer
import ClusterGraph.Workspace
import ClusterGraph.Yaml.BlockScalar
import ClusterGraph.Yaml.Glyph
import ClusterGraph.Yaml.Meaning
import ClusterGraph.Yaml.Node
import ClusterGraph.Yaml.Printer
import ClusterGraph.Yaml.Record
import ClusterGraph.Yaml.Scalar
import ClusterGraph.Yaml.Token
import ClusterGraph.Yaml.Value
