import PlugHub.Relay.StreamFlow
import PlugHub.Relay.AgentDispatchQueue
import PlugHub.Relay.OutboundQueue
import PlugHub.Registries.RelayRequests
import PlugHub.Registries.ActiveStreams
import PlugHub.Registries.Idempotency

/-!
# The state of the bridge

Every mutable store of the bridge in one record: the registries, the flow state, the slot
queues, the outbound queue, the closures of stream handlers and pulls, the dispatches that
are suspended at an await, the sockets that are connected, and the record of what left the
hub. A step of the model is one stretch of source code between two awaits, so the state
between two steps is a state the event loop can show to another handler.

Closures of the source that other code refers to have a reference; what they capture and
what they assign is kept in a table under it.
-/

namespace PlugHub.Bridge

open Library Relay Registries

/-! ## Frames and what leaves the hub -/

/-- Events a consumer receives. -/
inductive ConsumerEvent where
  | relayRpcResponse
  | relayRpcChunk
  | relayRpcComplete
  | relayRpcRequestAck
  | relayRpcBatchAck
deriving DecidableEq

/-- The body of a frame to a consumer. -/
inductive FrameBody where
  | agentResponse (content : String)
  /-- A JSON-RPC error made by the hub: body id, code, message and the code in its data. -/
  | rpcError (id : String) (code : Int) (message dataCode : String)
  | streamFrame
  | streamTerminal (totalRows : Nat) (terminalStatus : String) (errorCode : Option String)
      (streamId : Option StreamId) (dropped : Option (Nat × Nat))
  | requestAck
  | batchAck (requestIds : List RequestId)
deriving DecidableEq

/-- A frame to a consumer, with the hub request of its envelope. -/
structure Frame where
  requestId : RequestId
  body : FrameBody
deriving DecidableEq

/-- Why a relay dispatch returned an error. -/
inductive RelayDispatchError where
  | aborted
  | invalidCommand
  | conversationNotFound
  | conversationCapacity
  | consumerCapacity
  | capacity
  | notReady
  | circuitOpen
  | agentUnavailable
  | idempotency (refusal : IdempotencyRefusal)
  | compressionUnsupported
  | slotRefused
  | emitFailed
deriving DecidableEq

/-- What left the hub, newest first in the state's record. -/
inductive Emission where
  | toOwner (socket : SocketId) (event : ConsumerEvent) (frame : Frame)
  | toWaiter (socket : SocketId) (frame : Frame)
  /-- A request for an agent; a relay request or the dispatch of a REST request. -/
  | rpcRequest (agentSocket : SocketId) (requestId : RequestId)
  | restRequest (agentSocket : SocketId) (dispatch : Nat)
  | restNotification (agentSocket : SocketId) (dispatch : Nat)
  | streamPull (agentSocket : SocketId) (requestId : RequestId) (windowSize : Nat)
  | slotTaken (requestId : RequestId)
  | slotReleased (requestId : RequestId)
  | relayAccepted (requestId : RequestId)
  /-- A relay dispatch answered a repetition with the hub request that serves it. -/
  | relayDeduplicated (conversationId : ConversationId) (clientRequestId : ClientRequestId)
      (requestId : RequestId) (inFlight : Bool)
  | relayFailed (requestId : Option RequestId) (error : RelayDispatchError)
  | restResolved (dispatch : Nat)
  | restRejected (dispatch : Nat) (message : String)
  | restSlotReleased (dispatch : Nat)
deriving DecidableEq

/-! ## Outbound work

Jobs are queued under the id of the request they belong to; a job does not repeat it. -/

/-- Whose drain it is: the handlers of the stream, or one pull of the consumer. -/
inductive DrainOrigin where
  | handlers (closure : Nat)
  | pull (closure streamRef : Nat)

/-- What a drain job captures beside its request. -/
structure DrainContext where
  consumerSocketId : SocketId
  agentSocketId : SocketId
  origin : DrainOrigin

/-- What follows a successful emission in the same job. -/
inductive AfterEmit where
  | nothing
  /-- The response is stored in the entry the route created, and copied to its waiters. -/
  | fanOut
  /-- The response is stored under the client request id, and copied to the waiters found. -/
  | persist
  | cleanup (socketId : SocketId)

/-- What a job does when it ends, also with an error. -/
inductive FinallyDo where
  | nothing
  | cleanup (socketId : SocketId)

/-- The body of a frame that is made by the hub. -/
inductive BodySource where
  | fixed (body : FrameBody)
  | terminalAtStart (streamId : Option StreamId)

/-- A job that encodes one frame and emits it to one consumer. -/
structure SendJob where
  consumerSocketId : SocketId
  event : ConsumerEvent
  body : BodySource
  idempotencyKey : Option (ConversationId × ClientRequestId) := none
  afterEmit : AfterEmit := .nothing
  finallyDo : FinallyDo := .nothing

/-- A job that forwards the response of an agent. -/
structure ForwardJob where
  consumerSocketId : SocketId
  socketId : SocketId
  streamId : Option StreamId
  content : String
  outboundBodyId : String
  /-- Where the response is stored for repetitions, when its method may be cached. -/
  idempotencyKey : Option (ConversationId × ClientRequestId) := none

/-- The work of an outbound job. -/
inductive OutboundWork where
  | send (job : SendJob)
  | forward (job : ForwardJob)
  | drain (context : DrainContext)
  | replay (consumerSocketId : SocketId) (frame : Frame)
  | waitersError (waiters : List SocketId) (body : FrameBody)

/-- Where an outbound job is suspended, or what it already did in the segment that runs. -/
inductive OutboundPoint where
  | encoding (body : FrameBody)
  | encodingForward
  | encodingFallback
  | draining (point : DrainPoint)
  | sent

/-! ## Closures and suspended dispatches -/

/-- The variables of the relay handlers created for one relay response. -/
structure RelayHandlerClosure where
  consumerSocketId : SocketId
  agentSocketId : SocketId
  drainScheduled : Bool := false
  terminalEmitted : Bool := false
  completeReceived : Bool := false

/-- The timers of a relay stream. -/
structure RelayStreamTimeoutEntry where
  closure : Nat
  idleArmed : Bool := true
  lifetimeArmed : Bool := true

/-- A conversation. -/
structure Conversation where
  conversationId : ConversationId
  consumerSocketId : SocketId
  agentSocketId : SocketId
  agentId : AgentId
deriving DecidableEq

/-- What the bridge reads of a relay command. -/
structure RelayCommand where
  method : String
  clientRequestId : Option ClientRequestId := none
  ackRetryEligible : Bool := false
  /-- It needs a live capability check before it is sent, and is never sent again. -/
  requiresLiveCapability : Bool := false
  /-- It is a long read, which takes a reader place and not a slot. -/
  longRead : Bool := false

/-- Where a relay dispatch is suspended. -/
inductive RelayDispatchPoint where
  | waitingSlot
  | slotGranted (slot : AgentSlot)
  | slotRefused
  | encoding

/-- A relay dispatch between its first await and its return. -/
structure RelayDispatch where
  requestId : RequestId
  conversation : Conversation
  command : RelayCommand
  aborted : Bool := false
  point : RelayDispatchPoint

/-- Where a REST dispatch is suspended. -/
inductive RestDispatchPoint where
  | waitingSlot
  | slotGranted
  | slotRefused
  | encoding
  | awaitingResponse
  | done
deriving DecidableEq

/-- A REST dispatch with its pending request. -/
structure RestDispatch where
  agentId : AgentId
  socketId : SocketId
  primaryRequestId : RequestId
  correlationIds : List RequestId
  commandConsumer : Option SocketId := none
  streamHandlers : Option SocketId := none
  restStreamAggregate : Bool := false
  ackRetryEligible : Bool := false
  pendingRegistered : Bool := false
  pendingSettled : Bool := false
  aborted : Bool := false
  acked : Bool := false
  ackRetryArmed : Bool := false
  ackRetriesAttempted : Nat := 0
  timeoutArmed : Bool := true
  slot : Option AgentSlot := none
  slotReleased : Bool := false
  point : RestDispatchPoint

/-- What a materialization collected. -/
structure Materialization where
  aggregatedRowCount : Nat := 0
  aggregatedByteCount : Nat := 0
  chunkFramesSeen : Nat := 0

/-- A pull that was prepared and not executed yet. -/
structure PreparedPull where
  route : ActiveStreamRoute
  streamId : StreamId
  windowSize : Nat

/-- The bridge. -/
structure Hub where
  nowMs : Nat := 0
  agentSockets : List SocketId := []
  consumerSockets : List SocketId := []
  conversations : OrderedMap ConversationId Conversation := .empty
  usedConversationIds : List ConversationId := []
  /-- Request ids that were generated by the hub or named by a REST request. -/
  usedRequestIds : List RequestId := []
  nextRef : Nat := 0
  flow : FlowState := {}
  backpressureRetryTimers : OrderedMap RequestId DrainContext := .empty
  relay : RelayRequestRegistry := {}
  streams : ActiveStreamRegistry := {}
  streamTimeouts : OrderedMap RequestId RelayStreamTimeoutEntry := .empty
  closures : OrderedMap (RequestId × Nat) RelayHandlerClosure := .empty
  pullDrainScheduled : OrderedMap Nat Bool := .empty
  preparedPulls : OrderedMap Nat PreparedPull := .empty
  idempotency : RelayIdempotencyStore Frame := {}
  relayQueue : AgentDispatchQueue RequestId := {}
  readers : Counter AgentId := .empty
  restQueue : AgentDispatchQueue Nat := {}
  outbound : OutboundQueue OutboundWork OutboundPoint := {}
  relayDispatches : OrderedMap RequestId RelayDispatch := .empty
  restDispatches : OrderedMap Nat RestDispatch := .empty
  pendingByCorrelationId : OrderedMap RequestId Nat := .empty
  logicalPendingCount : Nat := 0
  restCredits : OrderedMap RequestId Nat := .empty
  materializations : OrderedMap Nat Materialization := .empty
  emissions : List Emission := []

end PlugHub.Bridge
