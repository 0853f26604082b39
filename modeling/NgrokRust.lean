import NgrokRust.AgentAccept
import NgrokRust.AgentApp
import NgrokRust.AgentCalls
import NgrokRust.AgentClose
import NgrokRust.AgentDeadlock
import NgrokRust.AgentDrop
import NgrokRust.AgentHandles
import NgrokRust.AgentMessages
import NgrokRust.AgentReconnect
import NgrokRust.AgentRefs
import NgrokRust.AgentRegistry
import NgrokRust.AgentRegistryRuns
import NgrokRust.AgentSession
import NgrokRust.AgentStop
import NgrokRust.AgentTransitions
import NgrokRust.AgentUpdates
import NgrokRust.AwaitedReads
import NgrokRust.Base64Text
import NgrokRust.BigEndianWords
import NgrokRust.BoundedChannel
import NgrokRust.CallLogs
import NgrokRust.CommandRequests
import NgrokRust.CopiedStreams
import NgrokRust.DebugText
import NgrokRust.EndpointWire
import NgrokRust.ForwardedBytes
import NgrokRust.Forwarding
import NgrokRust.ForwardingRuns
import NgrokRust.IncomingStreams
import NgrokRust.JsonRecords
import NgrokRust.JsonTrees
import NgrokRust.KeyedRoutes
import NgrokRust.LabelledRuns
import NgrokRust.MuxadoAnnouncement
import NgrokRust.MuxadoChannelRoom
import NgrokRust.MuxadoCodec
import NgrokRust.MuxadoConnection
import NgrokRust.MuxadoDelivery
import NgrokRust.MuxadoFlowControl
import NgrokRust.MuxadoFrame
import NgrokRust.MuxadoFraming
import NgrokRust.MuxadoHalfClose
import NgrokRust.MuxadoHeard
import NgrokRust.MuxadoHeartbeat
import NgrokRust.MuxadoLink
import NgrokRust.MuxadoLocalIds
import NgrokRust.MuxadoManagerSteps
import NgrokRust.MuxadoReadLoop
import NgrokRust.MuxadoReceiveWindow
import NgrokRust.MuxadoResetReads
import NgrokRust.MuxadoResetReplies
import NgrokRust.MuxadoRouting
import NgrokRust.MuxadoSession
import NgrokRust.MuxadoSessionEffects
import NgrokRust.MuxadoSessionRuns
import NgrokRust.MuxadoSessionSteps
import NgrokRust.MuxadoStream
import NgrokRust.MuxadoStreamEntry
import NgrokRust.MuxadoStreamHistory
import NgrokRust.MuxadoStreamManager
import NgrokRust.MuxadoStreamPairs
import NgrokRust.MuxadoStreamReset
import NgrokRust.MuxadoStreamSteps
import NgrokRust.MuxadoStreamTable
import NgrokRust.MuxadoStreamUse
import NgrokRust.MuxadoTyped
import NgrokRust.MuxadoUndisturbed
import NgrokRust.MuxadoWakeups
import NgrokRust.MuxadoWriteProgress
import NgrokRust.ParsedReads
import NgrokRust.PolledReader
import NgrokRust.PolledWriter
import NgrokRust.PrefixSlicing
import NgrokRust.ProtoDebug
import NgrokRust.ProtoErrors
import NgrokRust.ProtoMessages
import NgrokRust.ProtoWire
import NgrokRust.ProxyHeaderReads
import NgrokRust.ProxyProtoDuplex
import NgrokRust.ProxyProtoFragments
import NgrokRust.ProxyProtoOutgoing
import NgrokRust.ProxyProtoStream
import NgrokRust.ProxyProtoTermination
import NgrokRust.ProxyProtoTransparency
import NgrokRust.RpcClient
import NgrokRust.ServerStreams
import NgrokRust.SessionBuilder
import NgrokRust.SessionDialing
import NgrokRust.TextLines
import NgrokRust.TrafficPolicies
import NgrokRust.TunnelCalls
import NgrokRust.TunnelForwarding
import NgrokRust.TunnelOptions
import NgrokRust.TunnelOrigins
import NgrokRust.UpstreamDialing
import NgrokRust.UserAgent
