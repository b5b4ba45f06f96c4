import AiOs.Lib.Fallible
import AiOs.Lib.Loop
import AiOs.Lib.Guard
import AiOs.Lib.OrdMap
import AiOs.Lib.Account
import AiOs.Lib.Timed
import AiOs.Lib.Split
import AiOs.Lib.Sort
import AiOs.Lib.UnixPath
import AiOs.Lib.Decimal
import AiOs.Lib.Checks
import AiOs.Lib.Quota
import AiOs.Lib.Hex
import AiOs.Lib.Coding
import AiOs.Lib.Paging
import AiOs.Lib.Stream
import AiOs.Lib.Json
import AiOs.Lib.Serde
import AiOs.Lib.Bytes
import AiOs.Lib.Bpf
import AiOs.Core.State
import AiOs.Core.Address
import AiOs.Core.Task
import AiOs.Core.Codec
import AiOs.Core.Policy
import AiOs.Core.Reference
import AiOs.Runtime.Event
import AiOs.Runtime.Approval
import AiOs.Runtime.Supervisor
import AiOs.Runtime.Steps
import AiOs.Runtime.Methods
import AiOs.Runtime.Registry
import AiOs.Runtime.Ledger
import AiOs.Runtime.Coherence
import AiOs.Runtime.Calls
import AiOs.Runtime.Recovery
import AiOs.Runtime.Restart
import AiOs.Runtime.Daemon
import AiOs.Runtime.Submission
import AiOs.Runtime.Growth
import AiOs.Runtime.Discipline
import AiOs.Runtime.Failure
import AiOs.Runtime.Blocking
import AiOs.Runtime.Waiting
import AiOs.Runtime.Terminal
import AiOs.Runtime.Execution
import AiOs.Runtime.Gate
import AiOs.Runtime.Safety
import AiOs.Runtime.Facade
import AiOs.Runtime.Context
import AiOs.Runtime.Retention
import AiOs.Runtime.Authority
import AiOs.Runtime.Attempts
import AiOs.Runtime.Requests
import AiOs.Storage.Sqlite
import AiOs.Storage.Replay
import AiOs.Storage.Soundness
import AiOs.Storage.Restart
import AiOs.Storage.Interchange
import AiOs.Adapter.Site
import AiOs.Adapter.Tool
import AiOs.Adapter.Network
import AiOs.Adapter.Transfer
import AiOs.Adapter.Destination
import AiOs.Adapter.Filesystem
import AiOs.Adapter.WallTime
import AiOs.Adapter.Routes
import AiOs.Adapter.Reach
import AiOs.Agent.Decision
import AiOs.Agent.Runtime
import AiOs.Agent.Turns
import AiOs.Agent.Scope
import AiOs.Agent.Upkeep
import AiOs.Agent.Arguments
import AiOs.Agent.Conversation
import AiOs.Agent.Outcome
import AiOs.Agent.Release
import AiOs.Agent.Stranding
import AiOs.Process.Seccomp
import AiOs.Process.Descriptor
import AiOs.Process.Digest
import AiOs.Process.Mounts
import AiOs.Process.Host
import AiOs.Process.Handler
import AiOs.Process.Spawn
import AiOs.Process.Outside
import AiOs.Process.Watch
import AiOs.Process.Cgroup
import AiOs.Process.Provision
import AiOs.Process.Launcher
import AiOs.Process.Handover
import AiOs.Process.Delivery
import AiOs.Process.Binding
import AiOs.Process.Rootfs
import AiOs.Process.Measurement
import AiOs.Process.Build
import AiOs.Api.Service
import AiOs.Api.Paging
import AiOs.Api.Encoding
import AiOs.Api.Frame
import AiOs.Api.Framing
import AiOs.Api.Server
import AiOs.Api.Reading
import AiOs.Api.Answers
import AiOs.Api.Exchange
import AiOs.Api.Aiosctl
import AiOs.Api.Socket
import AiOs.Api.Life
import AiOs.Api.Startup
