import PlugHub.Bridge.Operations

/-!
# Relay streams

The handlers that a relay response with a stream id creates, the drain scheduler behind
them, the timers of the stream, and the pulls of the consumer. A drain is scheduled by the
handlers or by a pull; each has its own flag that a drain is on its way.
-/

namespace PlugHub.Bridge.Hub

open Library Relay Registries

/-! ## The drain scheduler -/

/-- Whether a drain is on its way for its origin. -/
def getDrainScheduled (hub : Hub) (requestId : RequestId) (context : DrainContext) : Bool :=
  match context.origin with
  | .handlers closure =>
    ((hub.closures.get (requestId, closure)).map (·.drainScheduled)).getD false
  | .pull closure _ => (hub.pullDrainScheduled.get closure).getD false

/-- Note whether a drain is on its way. -/
def setDrainScheduled (hub : Hub) (requestId : RequestId) (context : DrainContext)
    (scheduled : Bool) : Hub :=
  match context.origin with
  | .handlers closure =>
    { hub with
      closures := hub.closures.modify (requestId, closure)
        ({ · with drainScheduled := scheduled }) }
  | .pull closure _ =>
    { hub with pullDrainScheduled := hub.pullDrainScheduled.set closure scheduled }

/-- Whether the stream a drain serves is still open. The handlers look for their route, which
is never registered again after its removal; a pull looks for the stream it captured and for
a route with the same ends. -/
def isDrainActive (hub : Hub) (requestId : RequestId) (context : DrainContext) : Bool :=
  match hub.relay.getRelayRequestRoute requestId with
  | none => false
  | some route =>
    match context.origin with
    | .handlers _ => true
    | .pull _ streamRef =>
      match hub.streams.getActiveStreamRouteByRequestId requestId with
      | none => false
      | some stream =>
        stream.ref = streamRef ∧ route.consumerSocketId = context.consumerSocketId ∧
          route.agentSocketId = context.agentSocketId

/-- A terminal frame made by the hub. -/
def terminalJob (consumerSocketId : SocketId) (body : FrameBody) : OutboundWork :=
  .send
    { consumerSocketId := consumerSocketId
      event := .relayRpcComplete
      body := .fixed body }

/-- A drain whose bytes are refused ends the stream: the consumer is told, unless the hub is
configured to disconnect it. -/
def abortForHardByteLimit (env : Env) (hub : Hub) (requestId : RequestId)
    (context : DrainContext) : Hub :=
  let forwardedRows := hub.flow.getRelayStreamForwardedRows requestId
  let streamId :=
    (hub.streams.getActiveStreamRouteByRequestId requestId).bind (·.streamId)
  let detached := ((hub.clearRelayStreamFlowState requestId).removeStreamOf
    requestId).removeRelayRequestRoute env requestId
  match env.socketRelayOutboundHardLimitAction with
  | .disconnectConsumer => detached
  | .closeStream =>
    detached.enqueue env requestId
      (terminalJob context.consumerSocketId
        (.streamTerminal forwardedRows "error" (some "RELAY_OUTBOUND_BYTE_LIMIT") streamId none))
      { consumerSocketId := some context.consumerSocketId, priority := .control }

/-- How a drain is charged: with the buffered bytes, and beyond the shed cap for chunks. -/
def drainOptions (hub : Hub) (requestId : RequestId) (context : DrainContext)
    (priority : JobPriority) : EnqueueOptions :=
  { consumerSocketId := some context.consumerSocketId
    pendingBytes := hub.flow.getRelayStreamBufferedBytes requestId
    priority := priority
    shedPolicy := match priority with
      | .control => .reject
      | .normal => .allow }

/-- Queue a drain, charged with the buffered bytes. -/
def enqueueDrain (env : Env) (hub : Hub) (requestId : RequestId) (context : DrainContext)
    (priority : JobPriority) : Hub :=
  let scheduled := hub.setDrainScheduled requestId context true
  let (queued, accepted) := scheduled.enqueueRelayOutbound env requestId (.drain context)
    (hub.drainOptions requestId context priority)
  if accepted then queued
  else (queued.setDrainScheduled requestId context false).abortForHardByteLimit env requestId
    context

/-- Schedule a drain when it has something to do: chunks that are paid for, or a deferred
complete frame behind an empty buffer. -/
def scheduleRelayStreamDrain (env : Env) (hub : Hub) (requestId : RequestId)
    (context : DrainContext) : Hub :=
  if hub.getDrainScheduled requestId context then hub
  else
    let bufferedChunkCount := hub.flow.getRelayStreamBufferedChunkCount requestId
    if hub.flow.getRelayStreamFlowCredits requestId = 0 ∨ bufferedChunkCount = 0 then
      if bufferedChunkCount = 0 ∧
          (hub.flow.getRelayStreamPendingComplete requestId).isSome then
        hub.enqueueDrain env requestId context .control
      else hub
    else hub.enqueueDrain env requestId context .normal

/-- Defer the next drain of a saturated consumer, unless one is deferred already. -/
def scheduleBackpressureRetry (hub : Hub) (requestId : RequestId) (context : DrainContext) : Hub :=
  match hub.backpressureRetryTimers.get requestId with
  | some _ => hub
  | none =>
    { hub with backpressureRetryTimers := hub.backpressureRetryTimers.set requestId context }

/-- Forget the deferred drain of a request. -/
def clearBackpressureRetryTimer (hub : Hub) (requestId : RequestId) : Hub :=
  { hub with backpressureRetryTimers := hub.backpressureRetryTimers.erase requestId }

/-- What follows a drain: a deferred retry, another drain, or nothing. -/
def afterDrainMaybeReschedule (env : Env) (hub : Hub) (requestId : RequestId)
    (context : DrainContext) (pausedForBackpressure : Bool) : Hub :=
  if !hub.isDrainActive requestId context then hub.clearBackpressureRetryTimer requestId
  else
    let pending := (hub.flow.getRelayStreamPendingComplete requestId).isSome
    let hasBuffered : Bool := 0 < hub.flow.getRelayStreamBufferedChunkCount requestId
    let hasCredits : Bool := 0 < hub.flow.getRelayStreamFlowCredits requestId
    if pausedForBackpressure && hasBuffered && hasCredits then
      hub.scheduleBackpressureRetry requestId context
    else if (hasBuffered && hasCredits) || (pending && !hasBuffered) then
      (hub.clearBackpressureRetryTimer requestId).scheduleRelayStreamDrain env requestId context
    else hub

/-- The deferred drain of a request comes due. -/
def backpressureRetryFires (env : Env) (hub : Hub) (requestId : RequestId) : Hub :=
  match hub.backpressureRetryTimers.get requestId with
  | none => hub
  | some context =>
    let cleared := hub.clearBackpressureRetryTimer requestId
    if cleared.isDrainActive requestId context then
      cleared.scheduleRelayStreamDrain env requestId context
    else cleared

/-- The consumer was gone when its complete frame was ready: everything of the request goes. -/
def finalizeRelayStreamOnConsumerGone (env : Env) (hub : Hub) (requestId : RequestId) : Hub :=
  let cleared := hub.clearBackpressureRetryTimer requestId
  let unregistered :=
    if cleared.relay.hasRelayRequestRoute requestId then
      (cleared.settleRelayRoute requestId).removeRelayRequestRoute env requestId
    else cleared
  (unregistered.removeStreamOf requestId).clearRelayStreamFlowState requestId

/-- A drain emitted the complete frame: the route and the stream are removed. -/
def onDrainComplete (env : Env) (hub : Hub) (requestId : RequestId) (context : DrainContext) :
    Hub :=
  let cleared :=
    match context.origin with
    | .handlers _ => hub
    | .pull _ _ => hub.clearBackpressureRetryTimer requestId
  (cleared.removeRelayRequestRoute env requestId).removeStreamOf requestId

/-! ## The handlers of a relay response -/

/-- Change the variables of a closure. -/
def updateClosure (hub : Hub) (requestId : RequestId) (closure : Nat)
    (change : RelayHandlerClosure → RelayHandlerClosure) : Hub :=
  { hub with closures := hub.closures.modify (requestId, closure) change }

/-- End a relay stream with a terminal frame, once for each closure. The payload is the chunk
whose rejection ends the stream. -/
def emitRelayTerminalComplete (env : Env) (hub : Hub) (requestId : RequestId) (closure : Nat)
    (terminalStatus : String) (payload : Option StreamPayload) (errorCode : Option String) : Hub :=
  match hub.closures.get (requestId, closure) with
  | none => hub
  | some captured =>
    if captured.terminalEmitted then hub
    else
      let marked := hub.updateClosure requestId closure ({ · with terminalEmitted := true })
      let streamId := (payload.bind (·.streamId)).orElse fun _ =>
        (hub.streams.getActiveStreamRouteByRequestId requestId).bind (·.streamId)
      let dropped :=
        if terminalStatus = "aborted" then
          some (hub.flow.countRelayStreamAbortDropped requestId payload)
        else none
      let body := FrameBody.streamTerminal (hub.flow.getRelayStreamForwardedRows requestId)
        terminalStatus errorCode streamId dropped
      let detached := (marked.removeRelayRequestRoute env requestId).removeStreamOf requestId
      detached.enqueue env requestId (terminalJob captured.consumerSocketId body)

/-- Which timer of a relay stream fires. -/
inductive StreamTimer where
  | idle
  | lifetime

/-- A timer of a relay stream fires. -/
def relayStreamTimeoutFires (env : Env) (hub : Hub) (requestId : RequestId)
    (timer : StreamTimer) : Hub :=
  match hub.streamTimeouts.get requestId with
  | none => hub
  | some entry =>
    let armed := match timer with
      | .idle => entry.idleArmed
      | .lifetime => entry.lifetimeArmed
    if armed then
      let fired := { hub with
        streamTimeouts := hub.streamTimeouts.modify requestId fun stored =>
          match timer with
          | .idle => { stored with idleArmed := false }
          | .lifetime => { stored with lifetimeArmed := false } }
      fired.emitRelayTerminalComplete env requestId entry.closure "error" none
        (some "RELAY_STREAM_TIMEOUT")
    else hub

/-- Create the handlers of a relay route: their variables and the timers of the stream. -/
def createRelayStreamHandlers (hub : Hub) (route : RelayRequestRoute) (closure : Nat) : Hub :=
  { hub with
    closures := hub.closures.set (route.requestId, closure)
      { consumerSocketId := route.consumerSocketId
        agentSocketId := route.agentSocketId } }.registerRelayStreamTimeouts
    route.requestId closure

/-- The drain of the handlers. -/
def handlerDrain (captured : RelayHandlerClosure) (closure : Nat) : DrainContext :=
  { consumerSocketId := captured.consumerSocketId
    agentSocketId := captured.agentSocketId
    origin := .handlers closure }

/-- A chunk of the agent: buffered within the limits, or the end of the stream. -/
def relayOnChunk (env : Env) (hub : Hub) (requestId : RequestId) (closure : Nat)
    (payload : StreamPayload) (payloadBytes : Nat)
    (rawForward : Option RelayChunkRawForward) : Hub :=
  match hub.closures.get (requestId, closure) with
  | none => hub
  | some captured =>
    if captured.completeReceived then hub
    else
      let touched := hub.touchRelayStreamTimeout requestId
      if env.socketRelayMaxBufferedChunksPerRequest ≤
            touched.flow.getRelayStreamBufferedChunkCount requestId ∨
          env.socketRelayMaxTotalBufferedChunks ≤ touched.flow.globalTotalBufferedChunks then
        touched.emitRelayTerminalComplete env requestId closure "aborted" (some payload) none
      else if env.socketRelayMaxBufferedBytesPerRequest <
            touched.flow.getRelayStreamBufferedBytes requestId + payloadBytes ∨
          env.socketRelayMaxTotalBufferedBytes <
            touched.flow.globalTotalBufferedBytes + payloadBytes then
        touched.emitRelayTerminalComplete env requestId closure "aborted" (some payload)
          (some "RELAY_STREAM_BUFFER_BYTE_LIMIT")
      else
        let buffered := { touched with
          flow := touched.flow.addRelayStreamBufferedChunk requestId payload payloadBytes
            rawForward }
        buffered.scheduleRelayStreamDrain env requestId (handlerDrain captured closure)

/-- The complete frame of the agent waits for the buffer to empty. -/
def relayOnComplete (env : Env) (hub : Hub) (requestId : RequestId) (closure : Nat)
    (payload : StreamPayload) (rawForward : Option RelayChunkRawForward) : Hub :=
  match hub.closures.get (requestId, closure) with
  | none => hub
  | some captured =>
    let received := (hub.updateClosure requestId closure
      ({ · with completeReceived := true })).touchRelayStreamTimeout requestId
    let pending := { received with
      flow := received.flow.setRelayStreamPendingComplete requestId payload rawForward }
    pending.scheduleRelayStreamDrain env requestId (handlerDrain captured closure)

/-! ## Pulls -/

/-- A stream whose agent socket is gone: a relay stream ends with a terminal frame. -/
def cleanupMissingAgentSocketRoute (env : Env) (hub : Hub) (route : ActiveStreamRoute) : Hub :=
  match route.mode with
  | .relay =>
    let forwardedRows := hub.flow.getRelayStreamForwardedRows route.requestId
    let detached := (hub.removeRelayRequestRoute env route.requestId).removeActiveStreamRoute
      route .detach
    detached.enqueue env route.requestId
      (terminalJob route.consumerSocketId
        (.streamTerminal forwardedRows "error" none route.streamId none))
  | .legacy => hub.removeActiveStreamRoute route

/-- What a consumer names to pull a stream. -/
structure PullInput where
  consumerSocketId : SocketId
  conversationId : Option ConversationId := none
  streamId : Option StreamId := none
  requestId : Option RequestId := none
  windowSize : Nat := 1

/-- The stream a pull names, when its two names agree and it belongs to the consumer. -/
def findPulledRoute (hub : Hub) (input : PullInput) : Option (ActiveStreamRoute × StreamId) := do
  let byStreamId := input.streamId.bind hub.streams.getActiveStreamRouteByStreamId
  let byRequestId := input.requestId.bind hub.streams.getActiveStreamRouteByRequestId
  if (byStreamId.bind fun left => byRequestId.map fun right => left.ref != right.ref).getD
      false then none
  else
    let route ← byStreamId.orElse fun _ => byRequestId
    if route.consumerSocketId ≠ input.consumerSocketId then none
    else if input.conversationId.isSome ∧ route.conversationId ≠ input.conversationId then none
    else
      let streamId ← input.streamId.orElse fun _ => route.streamId
      some (route, streamId)

/-- Prepare a pull: the route and the window are captured for a later execution. -/
def prepareAgentStreamPull (env : Env) (hub : Hub) (input : PullInput) : Hub :=
  match hub.findPulledRoute input with
  | none => hub
  | some (route, streamId) =>
    if hub.isAgentConnected route.agentSocketId then
      { hub with
        nextRef := hub.nextRef + 1
        preparedPulls := hub.preparedPulls.set hub.nextRef
          { route := route, streamId := streamId, windowSize := input.windowSize } }
    else hub.cleanupMissingAgentSocketRoute env route

/-- Execute a prepared pull: the agent is asked for a window, and a relay stream is granted the
credits and drained. -/
def executeStreamPull (env : Env) (hub : Hub) (pull : Nat) : Hub :=
  match hub.preparedPulls.get pull with
  | none => hub
  | some prepared =>
    let route := prepared.route
    let taken := { hub with preparedPulls := hub.preparedPulls.erase pull }
    let pulled := taken.emit (.streamPull route.agentSocketId route.requestId prepared.windowSize)
    match route.mode with
    | .legacy => pulled
    | .relay =>
      let touched := pulled.touchRelayStreamTimeout route.requestId
      let granted := { touched with
        flow := FlowState.addRelayStreamFlowCredits env touched.flow route.requestId
          prepared.windowSize }
      granted.scheduleRelayStreamDrain env route.requestId
        { consumerSocketId := route.consumerSocketId
          agentSocketId := route.agentSocketId
          origin := .pull pull route.ref }

end PlugHub.Bridge.Hub
