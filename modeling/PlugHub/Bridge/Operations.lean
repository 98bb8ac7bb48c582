import PlugHub.Bridge.State

/-!
# Operations shared by the handlers

Emission, the outbound queue, agent slots, the removal of relay routes and of streams, and
the settlement of REST promises. Every handler of the bridge is written with these.
-/

namespace PlugHub.Bridge.Hub

open Library Relay Registries

/-! ## Emission and outbound jobs -/

/-- Record something that left the hub. -/
def emit (hub : Hub) (emission : Emission) : Hub :=
  { hub with emissions := emission :: hub.emissions }

/-- Whether a consumer socket is connected. -/
def isConsumerConnected (hub : Hub) (consumerSocketId : SocketId) : Bool :=
  consumerSocketId ∈ hub.consumerSockets

/-- Whether an agent socket is connected. -/
def isAgentConnected (hub : Hub) (agentSocketId : SocketId) : Bool :=
  agentSocketId ∈ hub.agentSockets

/-- Emit a frame of a request to its consumer; a consumer that is gone receives nothing. -/
def emitToConsumer (hub : Hub) (consumerSocketId : SocketId) (event : ConsumerEvent)
    (frame : Frame) : Hub :=
  if hub.isConsumerConnected consumerSocketId then
    hub.emit (.toOwner consumerSocketId event frame)
  else hub

/-- Copy a response to a consumer that repeated the request. -/
def emitToWaiter (hub : Hub) (frame : Frame) (consumerSocketId : SocketId) : Hub :=
  if hub.isConsumerConnected consumerSocketId then
    hub.emit (.toWaiter consumerSocketId frame)
  else hub

/-- Queue outbound work of a request; a refused job leaves the hub as it is. -/
def enqueueRelayOutbound (env : Env) (hub : Hub) (requestId : RequestId) (work : OutboundWork)
    (options : EnqueueOptions) : Hub × Bool :=
  let (outbound, accepted) := hub.outbound.enqueueRelayOutbound env requestId work options
  ({ hub with outbound := outbound }, accepted)

/-- Queue outbound work that carries no size or has control priority, which is never refused. -/
def enqueue (env : Env) (hub : Hub) (requestId : RequestId) (work : OutboundWork)
    (options : EnqueueOptions := {}) : Hub :=
  (hub.enqueueRelayOutbound env requestId work options).1

/-! ## Agent slots -/

/-- The continuation of a queued relay dispatch is due with a slot. -/
def grantRelaySlot (hub : Hub) (requestId : RequestId) : Hub :=
  { hub with
    relayDispatches := hub.relayDispatches.modify requestId fun stored =>
      match stored.point with
      | .waitingSlot => { stored with point := .slotGranted .control }
      | _ => stored }

/-- Give back the capacity of a relay request; a freed slot goes to the oldest waiter. -/
def releaseRelaySlot (env : Env) (hub : Hub) (agentId : AgentId) : AgentSlot → Hub
  | .unlimited => hub
  | .reader => { hub with readers := hub.readers.decrement agentId }
  | .control =>
    let (queue, next) :=
      hub.relayQueue.releaseAgentDispatchSlot (relayDispatchLimits env) agentId
    let released := { hub with relayQueue := queue }
    match next with
    | none => released
    | some waiter => released.grantRelaySlot waiter

/-- The release function of a relay route: its body runs once. -/
def releaseAgentDispatchSlot (env : Env) (hub : Hub) (requestId : RequestId)
    (route : RelayRequestRoute) : Hub :=
  if route.slotReleased then hub
  else
    let marked := { hub with
      relay := hub.relay.updateRoute requestId ({ · with slotReleased := true }) }
    (marked.emit (.slotReleased requestId)).releaseRelaySlot env route.agentId route.slot

/-- The continuation of a queued REST dispatch is due with a slot. -/
def grantRestSlot (hub : Hub) (dispatch : Nat) : Hub :=
  { hub with
    restDispatches := hub.restDispatches.modify dispatch fun stored =>
      match stored.point with
      | .waitingSlot => { stored with point := .slotGranted, slot := some .control }
      | _ => stored }

/-- Change a REST dispatch. -/
def updateRestDispatch (hub : Hub) (dispatch : Nat) (change : RestDispatch → RestDispatch) : Hub :=
  { hub with restDispatches := hub.restDispatches.modify dispatch change }

/-- The release function of a REST dispatch: its body runs once, and not before a slot was
granted. -/
def releaseRestSlot (env : Env) (hub : Hub) (dispatch : Nat) : Hub :=
  match hub.restDispatches.get dispatch with
  | none => hub
  | some record =>
    match record.slot, record.slotReleased with
    | some slot, false =>
      let marked := (hub.updateRestDispatch dispatch ({ · with slotReleased := true })).emit
        (.restSlotReleased dispatch)
      match slot with
      | .unlimited => marked
      | .reader => { marked with readers := marked.readers.decrement record.agentId }
      | .control =>
        let (queue, next) :=
          marked.restQueue.releaseAgentDispatchSlot (restDispatchLimits env) record.agentId
        let released := { marked with restQueue := queue }
        match next with
        | none => released
        | some waiter => released.grantRestSlot waiter
    | _, _ => hub

/-! ## REST promises and pending requests -/

/-- Settle the promise of a REST dispatch unless it is settled. -/
def settleRest (hub : Hub) (dispatch : Nat) (outcome : Emission) : Hub :=
  match hub.restDispatches.get dispatch with
  | none => hub
  | some record =>
    if record.pendingSettled then hub
    else (hub.updateRestDispatch dispatch ({ · with pendingSettled := true })).emit outcome

/-- Reject the promise of a REST dispatch. -/
def rejectRest (hub : Hub) (dispatch : Nat) (message : String) : Hub :=
  hub.settleRest dispatch (.restRejected dispatch message)

/-- Resolve the promise of a REST dispatch. -/
def resolveRest (hub : Hub) (dispatch : Nat) : Hub :=
  hub.settleRest dispatch (.restResolved dispatch)

/-- The dispatch a correlation id is registered for. -/
def getRestPendingRequestByCorrelationId (hub : Hub) (requestId : RequestId) : Option Nat :=
  hub.pendingByCorrelationId.get requestId

/-- Take the correlation ids of a dispatch out of the pending map; ids another dispatch holds
stay, and the count goes down when one was removed. -/
def clearRestPendingRequest (hub : Hub) (dispatch : Nat) (record : RestDispatch) : Hub :=
  let cleared := hub.updateRestDispatch dispatch ({ · with ackRetryArmed := false })
  let owned := record.correlationIds.filter fun requestId =>
    hub.pendingByCorrelationId.get requestId = some dispatch
  { cleared with
    pendingByCorrelationId := owned.foldl (·.erase ·) hub.pendingByCorrelationId
    logicalPendingCount :=
      if owned.isEmpty then hub.logicalPendingCount else hub.logicalPendingCount - 1 }

/-- Clear the response timer of a REST dispatch. -/
def clearRestTimeout (hub : Hub) (dispatch : Nat) : Hub :=
  hub.updateRestDispatch dispatch ({ · with timeoutArmed := false })

/-- The dispatch's own deregistration, which runs at most once. -/
def clearPendingRegistration (hub : Hub) (dispatch : Nat) : Hub :=
  match hub.restDispatches.get dispatch with
  | none => hub
  | some record =>
    if record.pendingRegistered then
      ((hub.clearRestTimeout dispatch).clearRestPendingRequest dispatch
        record).updateRestDispatch dispatch ({ · with pendingRegistered := false })
    else hub

/-! ## Relay routes -/

/-- Forget the flow state of a relay request with its deferred drain. -/
def clearRelayStreamFlowState (hub : Hub) (requestId : RequestId) : Hub :=
  { hub with
    flow := hub.flow.clearRelayStreamFlowState requestId
    backpressureRetryTimers := hub.backpressureRetryTimers.erase requestId }

/-- Change the mutable fields of a relay route. -/
def updateRelayRoute (hub : Hub) (requestId : RequestId)
    (change : RelayRequestRoute → RelayRequestRoute) : Hub :=
  { hub with relay := hub.relay.updateRoute requestId change }

/-- Claim a relay route for one terminal response. -/
def settleRelayRoute (hub : Hub) (requestId : RequestId) : Hub :=
  hub.updateRelayRoute requestId ({ · with settled := true })

/-- Unregister a relay route: its timers die with it, its slot is given back and its flow state
is forgotten. -/
def removeRelayRequestRoute (env : Env) (hub : Hub) (requestId : RequestId) : Hub :=
  match hub.relay.getRelayRequestRoute requestId with
  | none => hub.clearRelayStreamFlowState requestId
  | some route =>
    let released := hub.releaseAgentDispatchSlot env requestId route
    { released with
      relay := released.relay.deleteRoute requestId route }.clearRelayStreamFlowState requestId

/-! ## Streams -/

/-- What the removal of a stream does with a materialization in progress. -/
inductive RestMaterializeRemoval where
  | abort
  | detach

/-- Clear the timers of a relay stream. -/
def clearRelayStreamTimeouts (hub : Hub) (requestId : RequestId) : Hub :=
  { hub with streamTimeouts := hub.streamTimeouts.erase requestId }

/-- Arm the timers of a relay stream. -/
def registerRelayStreamTimeouts (hub : Hub) (requestId : RequestId) (closure : Nat) : Hub :=
  let cleared := hub.clearRelayStreamTimeouts requestId
  { cleared with streamTimeouts := cleared.streamTimeouts.set requestId { closure := closure } }

/-- Arm the idle timer of a relay stream again. -/
def touchRelayStreamTimeout (hub : Hub) (requestId : RequestId) : Hub :=
  { hub with
    streamTimeouts := hub.streamTimeouts.modify requestId ({ · with idleArmed := true }) }

/-- The promise part of the end of a materialization: its timer is cleared, and an abort
rejects. -/
def endMaterialization (hub : Hub) (route : ActiveStreamRoute)
    (removal : RestMaterializeRemoval) : Hub :=
  match route.restMaterializeState with
  | none => hub
  | some state =>
    if state.settled then hub
    else
      let cleared := hub.clearRestTimeout state.dispatch
      match removal with
      | .detach => cleared
      | .abort => cleared.rejectRest state.dispatch "Agent disconnected while SQL stream in progress"

/-- Settle the materialization of a stream that completed. -/
def settleRestMaterializeSuccess (hub : Hub) (route : ActiveStreamRoute) : Hub :=
  let ended := hub.endMaterialization route .detach
  { ended with streams := ended.streams.settleRestMaterialize route }

/-- Remove a stream. -/
def removeActiveStreamRoute (hub : Hub) (route : ActiveStreamRoute)
    (removal : RestMaterializeRemoval := .abort) : Hub :=
  let ended := (hub.clearRelayStreamTimeouts route.requestId).endMaterialization route removal
  { ended with
    restCredits := ended.restCredits.erase route.requestId
    streams := ended.streams.removeActiveStreamRoute route }

/-- Remove the stream of a request, if there is one. -/
def removeStreamOf (hub : Hub) (requestId : RequestId)
    (removal : RestMaterializeRemoval := .abort) : Hub :=
  match hub.streams.getActiveStreamRouteByRequestId requestId with
  | none => hub
  | some route => hub.removeActiveStreamRoute route removal

/-- Remove the stream of a request when it belongs to an agent socket. -/
def removeStreamOfAgent (hub : Hub) (requestId : RequestId) (socketId : SocketId)
    (removal : RestMaterializeRemoval := .abort) : Hub :=
  match hub.streams.getActiveStreamRouteByRequestId requestId with
  | none => hub
  | some route =>
    if route.agentSocketId = socketId then hub.removeActiveStreamRoute route removal else hub

/-- The cleanup at the end of a response job: the stream of the agent socket, then the route. -/
def cleanupRoute (env : Env) (hub : Hub) (requestId : RequestId) (socketId : SocketId) : Hub :=
  (hub.removeStreamOfAgent requestId socketId).removeRelayRequestRoute env requestId

end PlugHub.Bridge.Hub
