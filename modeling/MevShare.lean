import MevShare.Library.Machine
import MevShare.Library.Search
import MevShare.Library.Draw
import MevShare.Library.Sweep
import MevShare.Library.Rust
import MevShare.Library.Broadcast
import MevShare.Library.Digits
import MevShare.Library.Serde
import MevShare.Library.Tolerance
import MevShare.Library.JsonText
import MevShare.Library.CompactJson
import MevShare.Library.JsonRpc
import MevShare.Library.Http
import MevShare.Library.Uri
import MevShare.Library.Tower
import MevShare.Rpc.Types
import MevShare.Rpc.Ethers
import MevShare.Rpc.Codec
import MevShare.Rpc.Hints
import MevShare.Rpc.Stats
import MevShare.Rpc.NumericString
import MevShare.Rpc.Wire
import MevShare.Rpc.Api
import MevShare.Rpc.Compatibility
import MevShare.Rpc.Auth
import MevShare.Rpc.Readiness
import MevShare.Backend.Request
import MevShare.Backend.Service
import MevShare.Backend.Scheduling
import MevShare.Backend.Selection
import MevShare.Backend.Steps
import MevShare.Backend.Ledger
import MevShare.Backend.Limits
import MevShare.Backend.Window
import MevShare.Backend.Handle
import MevShare.Backend.Ticket
import MevShare.Backend.Conservation
import MevShare.Backend.Order
import MevShare.Backend.Allowance
import MevShare.Backend.Retries
import MevShare.Backend.Poll
import MevShare.Backend.Termination
import MevShare.Backend.Panics
import MevShare.Backend.Listeners
import MevShare.Backend.Streams
import MevShare.Backend.Barrier
import MevShare.Backend.Calls
import MevShare.Backend.Cooperation
import MevShare.Backend.Transcript
import MevShare.Backend.RpcSimulator
import MevShare.Backend.Clock
import MevShare.Backend.Drain
import MevShare.Backend.Waiting
import MevShare.Backend.Finality
import MevShare.Backend.Overflow
import MevShare.Sse.Client
import MevShare.Sse.Budget
import MevShare.Sse.Delivery
import MevShare.Sse.Trace
import MevShare.Sse.Endpoint
import MevShare.Sse.Revival
import MevShare.Sse.Succession
import MevShare.Sse.Server
import MevShare.Sse.Forwarding
import MevShare.Sse.Departure
import MevShare.Sse.Isolation
import MevShare.Sse.CatchUp
import MevShare.Sse.Reconnection
import MevShare.Sse.Proxy
