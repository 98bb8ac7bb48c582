/-!
# Identifiers and configuration

The hub keeps every identifier as text: socket ids come from the transport, request ids
are either generated by the hub or chosen by a client, stream ids are chosen by agents.
The configuration record holds the environment limits the modelled code reads, under the
names and with the defaults the configuration schema gives them.
-/

namespace PlugHub

/-- A transport socket, of an agent or of a consumer. -/
abbrev SocketId := String

/-- A request: generated by the hub for a relay request, chosen by the client otherwise. -/
abbrev RequestId := String

/-- A relay conversation between one consumer socket and one agent socket. -/
abbrev ConversationId := String

/-- A stream opened by an agent. -/
abbrev StreamId := String

/-- The JSON-RPC id a consumer gave its relay request. -/
abbrev ClientRequestId := String

/-- An agent of the catalog; it may reconnect under another socket. -/
abbrev AgentId := String

/-- What the hub does with a stream whose consumer exceeded the hard outbound byte limit. -/
inductive HardLimitAction where
  | closeStream
  | disconnectConsumer
deriving DecidableEq

/-- What the ingress guard does with a frame over its limits. -/
inductive InboundGuardMode where
  | observe
  | enforce
deriving DecidableEq

/-- The environment limits read by the modelled code. -/
structure Env where
  socketRelayMaxPendingRequests : Nat := 10000
  socketRelayMaxPendingRequestsPerConversation : Nat := 32
  socketRelayMaxPendingRequestsPerConsumer : Nat := 128
  socketRelayMaxActiveStreams : Nat := 5000
  socketRelayMaxBufferedChunksPerRequest : Nat := 256
  socketRelayMaxTotalBufferedChunks : Nat := 25600
  socketRelayMaxBufferedBytesPerRequest : Nat := 16777216
  socketRelayMaxTotalBufferedBytes : Nat := 268435456
  socketRestStreamPullMaxWindowSize : Nat := 256
  socketRestStreamPullWindowSize : Nat := 256
  socketRelayIdempotencyTtlMs : Nat := 300000
  socketRelayIdempotencyMaxEntriesPerConversation : Nat := 1024
  socketRelayIdempotencyMaxTotalEntries : Nat := 100000
  socketRelayAgentMaxInflight : Nat := 32
  /-- Relay requests waiting for a slot of one agent; zero means no bound. -/
  socketRelayAgentMaxQueue : Nat := 64
  socketRestAgentMaxInflight : Nat := 32
  /-- REST requests waiting for a slot of one agent; zero means no bound. -/
  socketRestAgentMaxQueue : Nat := 64
  socketRestMaxPendingRequests : Nat := 10000
  socketAgentAckRetryEnabled : Bool := true
  socketAgentAckMaxRetries : Nat := 1
  /-- Outbound bytes queued across the hub before new work is shed; zero disables it. -/
  socketRelayOutboundMaxPendingBytes : Nat := 0
  /-- Outbound bytes queued for one consumer before new work is shed; zero disables it. -/
  socketRelayOutboundMaxPendingBytesPerConsumer : Nat := 0
  socketRelayOutboundMaxPendingRequestIdsPerConsumer : Nat := 0
  /-- Unfinished outbound jobs from which on new work is shed; zero disables it. -/
  socketRelayOutboundOverloadBacklog : Nat := 200
  /-- Unfinished outbound jobs below which shedding ends; zero stands for the enter threshold. -/
  socketRelayOutboundOverloadBacklogExit : Nat := 0
  /-- Milliseconds of the 95th percentile of job durations from which on new work is shed; zero
  disables it. -/
  socketRelayOutboundOverloadP95Ms : Nat := 250
  socketRelayOutboundOverloadP95ExitMs : Nat := 0
  socketRelayOutboundTailStaleMs : Nat := 300000
  socketRelayOutboundSweepIntervalMs : Nat := 60000
  socketRelayOutboundHardLimitAction : HardLimitAction := .closeStream
  socketRestSqlStreamMaterializeMaxRows : Nat := 1000000
  socketRestSqlStreamMaterializeMaxChunks : Nat := 100000
  socketRestSqlStreamMaterializeMaxBytes : Nat := 268435456
  socketAgentInboundGuardMode : InboundGuardMode := .observe
  socketAgentInboundMaxFramesPerWindow : Nat := 2000
  socketAgentInboundMaxAckFramesPerWindow : Nat := 500
  socketAgentInboundMaxCompressedBytesPerWindow : Nat := 33554432
  socketAgentInboundMaxDecodedBytesPerWindow : Nat := 67108864
  /-- Frames of an agent that are admitted and not released; zero disables the cap. -/
  socketAgentInboundMaxPendingWork : Nat := 256
  socketAgentInboundViolationsBeforeDisconnect : Nat := 8
  /-- Time after which an agent that does not announce its readiness counts as ready. -/
  socketAgentProtocolReadyGraceMs : Nat := 100

end PlugHub
