import MockCluster.Binary.CollectionId
import MockCluster.Binary.Command
import MockCluster.Binary.Feature
import MockCluster.Binary.Frame
import MockCluster.Binary.Magic
import MockCluster.Binary.Packet
import MockCluster.Binary.Status
import MockCluster.Bytes
import MockCluster.Cluster.Bucket
import MockCluster.Cluster.Document
import MockCluster.Cluster.Node
import MockCluster.Cluster.Observed
import MockCluster.Cluster.Service
import MockCluster.Cluster.Topology
import MockCluster.CommandLine.Directory
import MockCluster.CommandLine.Grammar
import MockCluster.CommandLine.Report
import MockCluster.CommandLine.Request
import MockCluster.Deployment
import MockCluster.Deployment.Assembly
import MockCluster.Expectation.Chain
import MockCluster.Expectation.Scope
import MockCluster.Fault
import MockCluster.Http.Builtin
import MockCluster.Http.Dispatch
import MockCluster.Http.Headers
import MockCluster.Http.Message
import MockCluster.Http.PathPattern
import MockCluster.Http.Script
import MockCluster.Kv.Builtin
import MockCluster.Kv.Connection
import MockCluster.Kv.Dispatch
import MockCluster.Kv.Exchange
import MockCluster.Kv.Hub
import MockCluster.Kv.Matcher
import MockCluster.Kv.Script
import MockCluster.Kv.Server
import MockCluster.Kv.World
import MockCluster.Listener
import MockCluster.Main
import MockCluster.NameMap
import MockCluster.Proofs.Connection.Chunks
import MockCluster.Proofs.Connection.Replies
import MockCluster.Proofs.Dispatch.Limits
import MockCluster.Proofs.Dispatch.Order
import MockCluster.Proofs.Expectation.History
import MockCluster.Proofs.Expectation.Invocations
import MockCluster.Proofs.Expectation.Scoped
import MockCluster.Proofs.Frame.Header
import MockCluster.Proofs.Frame.RoundTrip
import MockCluster.Proofs.Services.Agreement
import MockCluster.Proofs.Services.Conversation
import MockCluster.Proofs.Services.Framing
import MockCluster.Proofs.Services.Served
import MockCluster.Proofs.Services.Sessions
import MockCluster.Proofs.Settings.Validity
import MockCluster.Proofs.Topology.Balance
import MockCluster.Proofs.Topology.BucketView
import MockCluster.Proofs.Topology.Effects
import MockCluster.Proofs.Topology.NetworkView
import MockCluster.Proofs.Topology.NodeLists
import MockCluster.Proofs.Topology.Requesters
import MockCluster.Proofs.Topology.Revision
import MockCluster.Script.Deployment
import MockCluster.Script.Memory
import MockCluster.Settings.Basic
import MockCluster.Settings.Form
import MockCluster.Settings.Validity
import MockCluster.Text.Hash64
import MockCluster.Text.IpAddress
import MockCluster.Text.Json
import MockCluster.Text.Pieces
import MockCluster.Text.Printable
import MockCluster.Text.Quoted
import MockCluster.Text.Utf8
import MockCluster.Toml.Document
import MockCluster.Toml.Printer
import MockCluster.Toml.Scalar
import MockCluster.Toml.Section
import MockCluster.Toml.Value
import MockCluster.Proofs.Deployment.Assembly
import MockCluster.Proofs.Deployment.Documents
import MockCluster.Proofs.Deployment.Launch
import MockCluster.Proofs.Dispatch.Routes
import MockCluster.Proofs.Deployment.Lifecycle
import MockCluster.Proofs.Deployment.Ports
import MockCluster.Proofs.Dispatch.Isolation
import MockCluster.Proofs.Services.Advertised
import MockCluster.Proofs.Frame.Sequence
import MockCluster.Proofs.Topology.Shares
import MockCluster.Proofs.Connection.Restarts
import MockCluster.Proofs.Settings.Form
import MockCluster.Proofs.Settings.Shown
import MockCluster.Proofs.Dispatch.Conduct
import MockCluster.Proofs.Dispatch.Responses
import MockCluster.Proofs.Services.Features
import MockCluster.Proofs.Services.Authentication
import MockCluster.Proofs.Services.Selection
import MockCluster.Proofs.Text.Parts
import MockCluster.Proofs.Dispatch.Patterns
import MockCluster.Proofs.Dispatch.Collections
import MockCluster.Proofs.Message.Fields
import MockCluster.Proofs.Dispatch.Registrations
