import TunnelEdge.Lib.GoMap
import TunnelEdge.Lib.Runs
import TunnelEdge.Lib.LeaseStore
import TunnelEdge.Lib.Wire
import TunnelEdge.Lib.TokenBucket
import TunnelEdge.Lib.Slices
import TunnelEdge.Lib.SharedSlice
import TunnelEdge.Lib.Int64
import TunnelEdge.Lib.PubSub
import TunnelEdge.Lib.FanOut
import TunnelEdge.Lib.BufferPool
import TunnelEdge.Lib.SerialTable
import TunnelEdge.Lib.Pipe
import TunnelEdge.Domain
import TunnelEdge.Auth.RateLimiter
import TunnelEdge.Auth.Buckets
import TunnelEdge.Auth.DBAuthenticator
import TunnelEdge.Auth.PeerKeys
import TunnelEdge.Auth.TokenAuthenticator
import TunnelEdge.Pkg.Config
import TunnelEdge.Transport.Frames
import TunnelEdge.Transport.Formats
import TunnelEdge.Transport.RoundTrip
import TunnelEdge.Transport.Datagram
import TunnelEdge.Transport.Buffers
import TunnelEdge.Agent.Connect
import TunnelEdge.Agent.Streams
import TunnelEdge.Agent.Reconnect
import TunnelEdge.Agent.Backoff
import TunnelEdge.Store.Sessions
import TunnelEdge.Store.Tokens
import TunnelEdge.Store.Presence
import TunnelEdge.Store.Equivalence
import TunnelEdge.Store.SingleUse
import TunnelEdge.Store.Profiles
import TunnelEdge.Stream.Manager
import TunnelEdge.Stream.Tracking
import TunnelEdge.Dashboard.Service
import TunnelEdge.Dashboard.Isolation
import TunnelEdge.Dashboard.Register
import TunnelEdge.Dashboard.Atomicity
import TunnelEdge.Dashboard.TokensInStep
import TunnelEdge.Gateway.AccessControl
import TunnelEdge.Gateway.PublicCalls
import TunnelEdge.Gateway.StreamLimit
import TunnelEdge.Gateway.SharedRecord
import TunnelEdge.Gateway.HelloFirst
import TunnelEdge.Dashboard.Enforcement
import TunnelEdge.Dashboard.Logout
import TunnelEdge.Dashboard.Accounts
import TunnelEdge.Dashboard.Credentials
import TunnelEdge.Dashboard.Gates
import TunnelEdge.Registry.MemCoordinator
import TunnelEdge.Registry.LeaseExclusivity
import TunnelEdge.Registry.Etcd
import TunnelEdge.Registry.EtcdExclusivity
import TunnelEdge.Registry.Agreement
import TunnelEdge.Registry.Server
import TunnelEdge.Registry.Events
import TunnelEdge.Registry.Node
import TunnelEdge.Registry.Snapshot
import TunnelEdge.Registry.Wire
import TunnelEdge.Registry.LeaseTTL
import TunnelEdge.Registry.Subscribers
import TunnelEdge.Registry.Mirror
import TunnelEdge.Registry.Owners
import TunnelEdge.Registry.LeaseMirror
import TunnelEdge.Registry.Delivery
import TunnelEdge.Registry.EtcdWatch
import TunnelEdge.Registry.Removals
import TunnelEdge.Relay.OneWay
import TunnelEdge.Relay.InOrder
import TunnelEdge.Relay.Bidirectional
import TunnelEdge.Relay.BufferOwners
import TunnelEdge.Relay.Endpoints
import TunnelEdge.Relay.EndToEnd
import TunnelEdge.Relay.Bandwidth
import TunnelEdge.Gateway.Router
import TunnelEdge.Gateway.Hostnames
import TunnelEdge.Gateway.State
import TunnelEdge.Gateway.ControlStream
import TunnelEdge.Gateway.Machine
import TunnelEdge.Gateway.Steps
import TunnelEdge.Gateway.Reach
import TunnelEdge.Gateway.Routes
import TunnelEdge.Gateway.LeaseCustody
import TunnelEdge.Gateway.LeaseLife
import TunnelEdge.Gateway.Heartbeat
import TunnelEdge.Gateway.Connections
import TunnelEdge.Gateway.Handshake
import TunnelEdge.Gateway.Ownership
import TunnelEdge.Gateway.ResumeTimers
import TunnelEdge.Gateway.Resume
import TunnelEdge.Gateway.Replies
import TunnelEdge.Gateway.DistributedRouter
import TunnelEdge.Gateway.RelayScorer
import TunnelEdge.Gateway.RemoteHosts
import TunnelEdge.Gateway.SoleConnection
import TunnelEdge.Gateway.Leftovers
import TunnelEdge.Gateway.Teardown
import TunnelEdge.Gateway.PublicURLs
import TunnelEdge.Gateway.ReAuth
import TunnelEdge.Gateway.Gauge
import TunnelEdge.Gateway.Quota
import TunnelEdge.Gateway.Renewal
import TunnelEdge.Gateway.ResumedLease
import TunnelEdge.Gateway.TokenReuse
