import MultiProxy.RustRuntime
import MultiProxy.DuplexStream
import MultiProxy.TransitionRuns
import MultiProxy.InteractionPrograms
import MultiProxy.ByteScan
import MultiProxy.LossyText
import MultiProxy.ChunkedCoding
import MultiProxy.MessageFraming
import MultiProxy.UpstreamDsn
import MultiProxy.SshSessionPool
import MultiProxy.Socks5Tunnel
import MultiProxy.HttpConnectTunnel
import MultiProxy.PathRequest
import MultiProxy.StreamingResponse
import MultiProxy.RelayedBody
import MultiProxy.ChannelHealth
import MultiProxy.ChannelHistory
import MultiProxy.ProxyRequests
import MultiProxy.ChannelLoops
import MultiProxy.PathDestination
import MultiProxy.RequestRules
import MultiProxy.InterleavedTasks
import MultiProxy.RequestRuns
import MultiProxy.MalformedTargets
import MultiProxy.ForwardedHeads
import MultiProxy.ForwardedHosts
import MultiProxy.FallbackPolicy
import MultiProxy.FallbackResults
import MultiProxy.RepeatedSends
import MultiProxy.RecoveredChannels
import MultiProxy.UpstreamConnections
import MultiProxy.DestinationFailures
import MultiProxy.Authorities
import MultiProxy.LengthPrefixes
import MultiProxy.AuthorityGrammar
import MultiProxy.ResponseHeads
import MultiProxy.RelayedHeads
import MultiProxy.SegmentedResponses
import MultiProxy.InterimResponses
import MultiProxy.Socks5Messages
import MultiProxy.Socks5Dialogue
import MultiProxy.Socks5Soundness
import MultiProxy.HostTexts
import MultiProxy.SessionAffinity
import MultiProxy.ChannelOrder
import MultiProxy.Ipv6Destinations
import MultiProxy.SshSessionSharing
import MultiProxy.SshSessionReaping
import MultiProxy.SshTunnels
import MultiProxy.TaskProjections
import MultiProxy.RequestAnswers
import MultiProxy.FailureBursts
import MultiProxy.BreakerTiming
import MultiProxy.WatchedTasks
import MultiProxy.OpenBreaker
import MultiProxy.PercentCoding
import MultiProxy.Base64
import MultiProxy.DsnParsing
import MultiProxy.DsnReader
import MultiProxy.DsnRoundTrip
import MultiProxy.DsnCredentials
import MultiProxy.HopByHopHeaders
import MultiProxy.TransitionSimulations
import MultiProxy.ProcessRuns
import MultiProxy.ProgramBudgets
import MultiProxy.RequestBudgets
import MultiProxy.Settings
import MultiProxy.ProcessStart
import MultiProxy.PeriodicTicks
import MultiProxy.HealthChecker
import MultiProxy.CircuitBreakers
import MultiProxy.AttemptPacing
import MultiProxy.AssumedReplies
import MultiProxy.StickySessions
import MultiProxy.StreamEndings
import MultiProxy.BrokenBodies
import MultiProxy.HttpConnectOutcomes
import MultiProxy.ConnectRequestHeads
