import SemanticBus.Data.Dict
import SemanticBus.Data.MinHeap
import SemanticBus.Data.Run
import SemanticBus.Queue.Ports
import SemanticBus.Queue.Memory
import SemanticBus.Queue.Scan
import SemanticBus.Queue.Life
import SemanticBus.Queue.Settled
import SemanticBus.Queue.Dequeue
import SemanticBus.Queue.Capacity
import SemanticBus.Queue.Worker
import SemanticBus.Queue.Cancelling
import SemanticBus.Queue.Sizes
import SemanticBus.Queue.Stopping
import SemanticBus.Schema.ViewRegistry
import SemanticBus.Registry.Agent
import SemanticBus.Registry.Registry
import SemanticBus.Registry.Displacement
import SemanticBus.Session.Session
import SemanticBus.Protocol.Envelope
import SemanticBus.Session.Manager
import SemanticBus.Trace.Store
import SemanticBus.Events.Manager
import SemanticBus.Transport.ConnectionQueue
import SemanticBus.Orchestration.FlowPlanner
import SemanticBus.Routing.Router
import SemanticBus.Routing.QueuedRouter
import SemanticBus.Queue.AgentExecutor
import SemanticBus.Transport.Handler
import SemanticBus.Transport.Flow
import SemanticBus.Transport.Server
import SemanticBus.Transport.Effects
import SemanticBus.Transport.Lifecycle
import SemanticBus.Transport.Authorization
import SemanticBus.Transport.Changes
import SemanticBus.Transport.Errors
import SemanticBus.Transport.Connections
import SemanticBus.Transport.Delivery
import SemanticBus.Events.Subscriber
import SemanticBus.Transport.Subscriptions
import SemanticBus.Session.Calls
import SemanticBus.Session.Schedules
import SemanticBus.Session.Persistence
import SemanticBus.Transport.Provider
import SemanticBus.Transport.Executions
import SemanticBus.Transport.Outbound
import SemanticBus.Transport.Streams
import SemanticBus.Transport.Writers
import SemanticBus.Transport.Ordering
import SemanticBus.Data.GroupLog
import SemanticBus.Queue.Kafka
import SemanticBus.Queue.AtLeastOnce
import SemanticBus.Data.Prog
import SemanticBus.Data.Pool
import SemanticBus.Data.Redis
import SemanticBus.Queue.Redis
import SemanticBus.Queue.Acknowledgement
import SemanticBus.Queue.Scheduling
import SemanticBus.Queue.Filtering
import SemanticBus.Queue.Commands
import SemanticBus.Queue.Moving
import SemanticBus.Storage.AddOffer
import SemanticBus.Storage.Execs
import SemanticBus.Storage.Listing
import SemanticBus.Storage.Presence
import SemanticBus.Storage.PutIfAbsent
import SemanticBus.Storage.Sessions
import SemanticBus.Storage.Staleness
import SemanticBus.Storage.Trace
import SemanticBus.Queue.RedisCancelling
import SemanticBus.Queue.KafkaCalls
import SemanticBus.Queue.KafkaCancelling
import SemanticBus.Queue.RabbitMQ
import SemanticBus.Queue.CancelLaw
import SemanticBus.Queue.DeadLetters
import SemanticBus.Queue.RabbitMQLetters
import SemanticBus.Queue.Counting
import SemanticBus.Storage.Registries
import SemanticBus.Storage.RedisRegistries
import SemanticBus.Data.Purge
import SemanticBus.Data.Retained
import SemanticBus.Trace.Retention
import SemanticBus.Transport.TraceRequests
import SemanticBus.Storage.Tail
import SemanticBus.Storage.ExecHistories
import SemanticBus.Session.Expiry
import SemanticBus.Transport.Collection
import SemanticBus.Queue.Clearing
import SemanticBus.Queue.Isolation
import SemanticBus.Queue.Blocking
import SemanticBus.Orchestration.Supersteps
import SemanticBus.Transport.FlowAgents
import SemanticBus.Data.Ranking
import SemanticBus.Events.Filter
import SemanticBus.Routing.MatchCache
import SemanticBus.Transport.EventRequests
import SemanticBus.Transport.QueueWriter
import SemanticBus.Events.Consumer
import SemanticBus.Storage.Sweeps
import SemanticBus.Data.LastIndex
import SemanticBus.Session.Executions
import SemanticBus.Storage.PresenceKeys
import SemanticBus.Transport.ResultFlags
import SemanticBus.Queue.WorkerStats
import SemanticBus.Data.IntText
import SemanticBus.Data.JsonText
import SemanticBus.Queue.TaskFormats
import SemanticBus.Queue.Results
import SemanticBus.Transport.Audit
import SemanticBus.Transport.Broadcasts
import SemanticBus.Transport.Replies
import SemanticBus.Data.Table
import SemanticBus.Storage.SqlExecs
import SemanticBus.Policy.Engine
import SemanticBus.Orchestration.Routes
import SemanticBus.Storage.SqlTail
import SemanticBus.Storage.SqlRegistries
import SemanticBus.Data.Coupling
import SemanticBus.Data.KeyFamily
import SemanticBus.Storage.ExecTexts
import SemanticBus.Registry.Roster
import SemanticBus.Queue.Letter
import SemanticBus.Queue.Dispatch
import SemanticBus.Queue.Dispatched
import SemanticBus.Data.Serial
import SemanticBus.Storage.ExecTransactions
