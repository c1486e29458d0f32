import Rabb1tClaw.Foundations.Iteration
import Rabb1tClaw.Foundations.Substring
import Rabb1tClaw.Foundations.Utf8
import Rabb1tClaw.Foundations.Utf8Decoding
import Rabb1tClaw.Foundations.Delimited
import Rabb1tClaw.Foundations.Parts
import Rabb1tClaw.Foundations.Machine
import Rabb1tClaw.Foundations.Interleaving
import Rabb1tClaw.Foundations.SharedCell
import Rabb1tClaw.Provider.Sse
import Rabb1tClaw.Provider.SseLines
import Rabb1tClaw.Agent.Markers
import Rabb1tClaw.Agent.Stream
import Rabb1tClaw.Agent.BlockLayout
import Rabb1tClaw.Agent.StreamLayout
import Rabb1tClaw.Agent.Agreement
import Rabb1tClaw.Agent.ThinkBlock
import Rabb1tClaw.Agent.Runner
import Rabb1tClaw.Agent.Delivery
import Rabb1tClaw.Agent.Session
import Rabb1tClaw.Agent.Recording
import Rabb1tClaw.Agent.History
import Rabb1tClaw.Agent.DispatchFormat
import Rabb1tClaw.Config.Devices
import Rabb1tClaw.State.Registry
import Rabb1tClaw.State.Reload
import Rabb1tClaw.Connection.Auth
import Rabb1tClaw.Connection.Handshake
import Rabb1tClaw.Protocol.Frames
import Rabb1tClaw.Connection.FrameLoop
import Rabb1tClaw.Connection.Bookkeeping
import Rabb1tClaw.Connection.Teardown
import Rabb1tClaw.Agent.Events
import Rabb1tClaw.Agent.Dispatch
import Rabb1tClaw.Connection.Service
import Rabb1tClaw.Connection.InFlight
import Rabb1tClaw.Connection.Absorption
import Rabb1tClaw.Connection.Answers
import Rabb1tClaw.Agent.Background
import Rabb1tClaw.Agent.Exchange
import Rabb1tClaw.Config.Onboarding
import Rabb1tClaw.Agent.Loading
import Rabb1tClaw.Agent.Restart
import Rabb1tClaw.Agent.Restoration
import Rabb1tClaw.Agent.FailedLoads
import Rabb1tClaw.Connection.Pairing
import Rabb1tClaw.Agent.Tracking
import Rabb1tClaw.Agent.TaskLog
import Rabb1tClaw.Agent.Questions
import Rabb1tClaw.Agent.Memory
import Rabb1tClaw.Foundations.Alternation
import Rabb1tClaw.Agent.Conversation
import Rabb1tClaw.Agent.Advanced
import Rabb1tClaw.Agent.CodeLoop
import Rabb1tClaw.Config.Gateway
import Rabb1tClaw.Cli.Defaults
import Rabb1tClaw.Agent.Resolution
import Rabb1tClaw.Cli.Commands
import Rabb1tClaw.Cli.References
import Rabb1tClaw.Provider.Anthropic
import Rabb1tClaw.Cli.Initialized
import Rabb1tClaw.Foundations.FileWatch
import Rabb1tClaw.State.HotReload
import Rabb1tClaw.Foundations.Splices
import Rabb1tClaw.Agent.Stripping
import Rabb1tClaw.Agent.Slices
import Rabb1tClaw.Agent.Trimming
import Rabb1tClaw.Agent.TaskContext
import Rabb1tClaw.Agent.Scripts
import Rabb1tClaw.Foundations.FirstOccurrences
import Rabb1tClaw.Agent.SearchResults
import Rabb1tClaw.Agent.ExtractJson
import Rabb1tClaw.Agent.SearchPipeline
import Rabb1tClaw.Foundations.Words
import Rabb1tClaw.Agent.WordLimit
import Rabb1tClaw.Agent.Truncation
import Rabb1tClaw.Agent.Directives
import Rabb1tClaw.Foundations.FileSystem
import Rabb1tClaw.Config.SecureWrite
import Rabb1tClaw.Foundations.JsonText
import Rabb1tClaw.Agent.JsonReplies
import Rabb1tClaw.Foundations.Occurrences
import Rabb1tClaw.Agent.Packages
import Rabb1tClaw.Agent.ReportedAnswers
import Rabb1tClaw.Foundations.Views
import Rabb1tClaw.Agent.TaskSystem
import Rabb1tClaw.Agent.TaskIds
import Rabb1tClaw.Agent.Lifecycle
import Rabb1tClaw.Agent.LoggedAnswers
import Rabb1tClaw.Agent.LiveTasks
import Rabb1tClaw.Agent.Isolation
import Rabb1tClaw.Agent.Uninterrupted
import Rabb1tClaw.Provider.Http
import Rabb1tClaw.Agent.ProvidedRun
import Rabb1tClaw.Foundations.Pipeline
import Rabb1tClaw.Connection.FrameDelivery
import Rabb1tClaw.Agent.AgentPrograms
import Rabb1tClaw.Foundations.Programs
import Rabb1tClaw.Agent.AgentConversations
import Rabb1tClaw.Agent.MemoryTasks
import Rabb1tClaw.Agent.KeptMemory
import Rabb1tClaw.Config.ConcurrentWrites
import Rabb1tClaw.Config.GatewayFiles
import Rabb1tClaw.Agent.CrashRecovery
import Rabb1tClaw.Provider.Bodies
import Rabb1tClaw.Agent.MainRequest
