import RemoteCall.Shape
import RemoteCall.Metadata
import RemoteCall.Text.Quoted
import RemoteCall.Text.Layout
import RemoteCall.Text.Utf8
import RemoteCall.Text.Shortest
import RemoteCall.Response
import RemoteCall.Factory.Probe
import RemoteCall.Factory.Chain
import RemoteCall.Call.Scripted
import RemoteCall.Call.Wired
import RemoteCall.Call.Dispatching
import RemoteCall.Call.Await
import RemoteCall.Executor.Queue
import RemoteCall.Method.Plan
import RemoteCall.Registry.Basic
import RemoteCall.Engine.Futures
import RemoteCall.Method.Written
import RemoteCall.Method.Routes
import RemoteCall.Scenario.Rule
import RemoteCall.Scenario.Session
import RemoteCall.Proofs.RaceMoves
import RemoteCall.Proofs.Run
import RemoteCall.Proofs.Slots
import RemoteCall.Proofs.Guarded
import RemoteCall.Proofs.CommitOnce
import RemoteCall.Call.Line
import RemoteCall.Proofs.LineMoves
import RemoteCall.Proofs.DeliverOnce
import RemoteCall.Call.Exchange
import RemoteCall.Proofs.DispatchOnce
import RemoteCall.Call.Bridge
import RemoteCall.Proofs.AwaitOnce
import RemoteCall.Proofs.Searching
import RemoteCall.Proofs.Delegation
import RemoteCall.Proofs.Resolving
import RemoteCall.Proofs.Blame
import RemoteCall.Proofs.EagerRegistration
import RemoteCall.Proofs.Makers
import RemoteCall.Proofs.LazyInvocation
import RemoteCall.Proofs.DeadlockFree
import RemoteCall.Call.Scene
import RemoteCall.Proofs.SceneMoves
import RemoteCall.Proofs.SceneSound
import RemoteCall.Proofs.ReportOnce
import RemoteCall.Registry.Directory
import RemoteCall.Proofs.DirectoryMoves
import RemoteCall.Proofs.Listings
import RemoteCall.Proofs.FreshIds
import RemoteCall.Proofs.DispatchTables
import RemoteCall.Engine.Population
import RemoteCall.Proofs.Operations
import RemoteCall.Proofs.Clones
import RemoteCall.Client.Setup
import RemoteCall.Proofs.Rebuilding
import RemoteCall.Proofs.Matching
import RemoteCall.Proofs.DefaultAdapter
import RemoteCall.Proofs.Classification
import RemoteCall.Proofs.Extension
import RemoteCall.Engine.Traffic
import RemoteCall.Proofs.SingleRelays
import RemoteCall.Proofs.SeenTags
import RemoteCall.Proofs.PlainCalls
import RemoteCall.Proofs.Hops
import RemoteCall.Proofs.AskedInOrder
import RemoteCall.Proofs.DecodedByStatus
import RemoteCall.Proofs.MarkerPayloads
import RemoteCall.Proofs.NestedSearches
import RemoteCall.Proofs.Misuse
import RemoteCall.Proofs.SkippedPlaces
import RemoteCall.Executor.Drain
import RemoteCall.Executor.Feed
import RemoteCall.Call.Depot
import RemoteCall.Proofs.Queues
import RemoteCall.Proofs.EngineQueues
import RemoteCall.Proofs.InOrder
