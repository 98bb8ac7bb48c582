import PlugHub.Bridge.DispatchCommand

/-!
# Running outbound jobs

One segment of the head job of a request: from its start to its first await, or from an
await to the next. What happens to the frame outside the bridge (encoding, transport) is
the answer the segment reads.
-/

namespace PlugHub.Bridge

open Library Relay Registries

/-- What the outside answers to a segment of an outbound job. -/
structure OutboundAnswers where
  encodeOk : Bool := true
  writable : Bool := true
  nextWritable : Bool := true

namespace Hub

/-- The head job of a request reaches a point. -/
def suspendHead (hub : Hub) (requestId : RequestId) (point : OutboundPoint) : Hub :=
  { hub with outbound := hub.outbound.suspendHead requestId point }

/-- The head job of a request ends. -/
def finishHead (hub : Hub) (requestId : RequestId) : Hub :=
  { hub with outbound := hub.outbound.finishHead requestId }

/-! ## Responses and terminal frames -/

/-- Copy a response to the consumers that repeated the request, except its owner. -/
def replayToWaiters (hub : Hub) (waiters : List SocketId) (owner : SocketId) (frame : Frame) :
    Hub :=
  waiters.foldl
    (fun current waiter => if waiter = owner then current else current.emitToWaiter frame waiter)
    hub

/-- Store a response in the entry its own request created, and copy it to the waiters. -/
def fanOutIdempotentResponse (env : Env) (hub : Hub) (requestId : RequestId) (owner : SocketId)
    (key : Option (ConversationId × ClientRequestId)) (frame : Frame) : Hub :=
  match key with
  | none => hub
  | some (conversationId, clientRequestId) =>
    match hub.idempotency.getEntry conversationId clientRequestId with
    | none => hub
    | some item =>
      if item.requestId ≠ requestId then hub
      else
        let stored := { hub with
          idempotency := (hub.idempotency.setRelayIdempotencyEntry env conversationId
            clientRequestId
            { item with
              responseFrame := some frame
              expiresAtMs := hub.nowMs + env.socketRelayIdempotencyTtlMs }).1 }
        stored.replayToWaiters item.pendingReplayConsumerSocketIds owner frame

/-- Store a response under its client request id, whichever request the entry there belongs to,
and copy it to the waiters found there. -/
def persistRelayIdempotentResponseFrame (env : Env) (hub : Hub) (requestId : RequestId)
    (owner : SocketId) (key : Option (ConversationId × ClientRequestId)) (frame : Frame) : Hub :=
  match key with
  | none => hub
  | some (conversationId, clientRequestId) =>
    let previous := hub.idempotency.getEntry conversationId clientRequestId
    let stored := { hub with
      idempotency := ((hub.idempotency.getOrCreateRelayIdempotencyMap
        conversationId).setRelayIdempotencyEntry env conversationId clientRequestId
        { requestId := requestId
          expiresAtMs := hub.nowMs + env.socketRelayIdempotencyTtlMs
          responseFrame := some frame }).1 }
    stored.replayToWaiters ((previous.map (·.pendingReplayConsumerSocketIds)).getD []) owner frame

/-- What follows the emission of a frame. -/
def afterEmit (env : Env) (hub : Hub) (requestId : RequestId) (job : SendJob) (frame : Frame) :
    AfterEmit → Hub
  | .nothing => hub
  | .fanOut =>
    hub.fanOutIdempotentResponse env requestId job.consumerSocketId job.idempotencyKey frame
  | .persist =>
    hub.persistRelayIdempotentResponseFrame env requestId job.consumerSocketId job.idempotencyKey
      frame
  | .cleanup socketId => hub.cleanupRoute env requestId socketId

/-- What a job does in any case. -/
def finallyDo (env : Env) (hub : Hub) (requestId : RequestId) : FinallyDo → Hub
  | .nothing => hub
  | .cleanup socketId => hub.cleanupRoute env requestId socketId

/-- The body of a job when it starts. -/
def bodyAtStart (hub : Hub) (requestId : RequestId) : BodySource → FrameBody
  | .fixed body => body
  | .terminalAtStart streamId =>
    .streamTerminal (hub.flow.getRelayStreamForwardedRows requestId) "error" none streamId none

/-- A segment of a job that sends one frame. -/
def runSend (env : Env) (hub : Hub) (requestId : RequestId) (job : SendJob)
    (point : Option OutboundPoint) (answers : OutboundAnswers) : Hub :=
  match point with
  | none => hub.suspendHead requestId (.encoding (hub.bodyAtStart requestId job.body))
  | some (.encoding body) =>
    if answers.encodeOk then
      let frame : Frame := ⟨requestId, body⟩
      let sent := (hub.emitToConsumer job.consumerSocketId job.event frame).suspendHead requestId
        .sent
      ((sent.afterEmit env requestId job frame job.afterEmit).finallyDo env requestId
        job.finallyDo).finishHead requestId
    else (hub.finallyDo env requestId job.finallyDo).finishHead requestId
  | some _ => hub.finishHead requestId

/-- The end of a forwarded response: everything is removed unless it opened a stream and was
delivered. -/
def endForward (env : Env) (hub : Hub) (requestId : RequestId) (job : ForwardJob)
    (forwardedResponse : Bool) : Hub :=
  if job.streamId.isSome && forwardedResponse then hub.finishHead requestId
  else (hub.cleanupRoute env requestId job.socketId).finishHead requestId

/-- A segment of a job that forwards a response. -/
def runForward (env : Env) (hub : Hub) (requestId : RequestId) (job : ForwardJob)
    (point : Option OutboundPoint) (answers : OutboundAnswers) : Hub :=
  match point with
  | none => hub.suspendHead requestId .encodingForward
  | some .encodingForward =>
    if answers.encodeOk then
      let frame : Frame := ⟨requestId, .agentResponse job.content⟩
      let sent := (hub.emitToConsumer job.consumerSocketId .relayRpcResponse frame).suspendHead
        requestId .sent
      (sent.persistRelayIdempotentResponseFrame env requestId job.consumerSocketId
        job.idempotencyKey frame).endForward env requestId job true
    else hub.suspendHead requestId .encodingFallback
  | some .encodingFallback =>
    let answered :=
      if answers.encodeOk then
        (hub.emitToConsumer job.consumerSocketId .relayRpcResponse
          ⟨requestId, .rpcError job.outboundBodyId (-32603) "internal error"
            "BRIDGE_OUTBOUND_PROCESSING_FAILED"⟩).suspendHead requestId .sent
      else hub
    answered.endForward env requestId job false
  | some _ => hub.finishHead requestId

/-! ## Drains -/

/-- The end of a drain job: its flag falls and what is left may schedule another. -/
def endDrain (env : Env) (hub : Hub) (requestId : RequestId) (context : DrainContext)
    (pausedForBackpressure : Bool) : Hub :=
  ((hub.setDrainScheduled requestId context false).afterDrainMaybeReschedule env requestId context
    pausedForBackpressure).finishHead requestId

/-- What follows a segment of a drain. -/
def afterDrainSegment (env : Env) (hub : Hub) (requestId : RequestId) (context : DrainContext) :
    DrainStatus → Hub
  | .suspended point => hub.suspendHead requestId (.draining point)
  | .finished result => hub.endDrain env requestId context result.pausedForBackpressure
  | .consumerGone result =>
    (hub.finalizeRelayStreamOnConsumerGone env requestId).endDrain env requestId context
      result.pausedForBackpressure
  | .completed result _ =>
    (hub.onDrainComplete env requestId context).endDrain env requestId context
      result.pausedForBackpressure
  | .rejected => hub.endDrain env requestId context false

/-- The frame event of a drain point. -/
def drainEvent : DrainPoint → ConsumerEvent
  | .encodingChunk _ _ _ => .relayRpcChunk
  | .encodingComplete _ _ => .relayRpcComplete

/-- Whether the transport takes the frame of a drain: chunks wait for a saturated consumer. -/
def drainEmitOk (hub : Hub) (context : DrainContext) (answers : OutboundAnswers) :
    DrainPoint → Bool
  | .encodingChunk _ _ _ =>
    answers.writable && hub.isConsumerConnected context.consumerSocketId
  | .encodingComplete _ _ => hub.isConsumerConnected context.consumerSocketId

/-- A segment of a drain job. -/
def runDrain (env : Env) (hub : Hub) (requestId : RequestId) (context : DrainContext)
    (point : Option OutboundPoint) (answers : OutboundAnswers) : Hub :=
  let active := hub.isDrainActive requestId context
  let canEmitChunk := answers.nextWritable || !hub.isConsumerConnected context.consumerSocketId
  match point with
  | none =>
    let (flow, status) := startDrain hub.flow requestId active canEmitChunk
    { hub with flow := flow }.afterDrainSegment env requestId context status
  | some (.draining drainPoint) =>
    let answered : DrainAnswers :=
      { encodeOk := answers.encodeOk
        active := active
        emitOk := hub.drainEmitOk context answers drainPoint
        canEmitChunk := canEmitChunk }
    let emitted :=
      if answered.emits then
        hub.emit (.toOwner context.consumerSocketId (drainEvent drainPoint)
          ⟨requestId, .streamFrame⟩)
      else hub
    let (flow, status) := resumeDrain emitted.flow requestId answered drainPoint
    { emitted with flow := flow }.afterDrainSegment env requestId context status
  | some _ => hub.finishHead requestId

/-! ## Repetitions -/

/-- A segment of a job that tells the waiters of a failed dispatch. -/
def runWaitersError (hub : Hub) (requestId : RequestId) (waiters : List SocketId)
    (body : FrameBody) (point : Option OutboundPoint) (answers : OutboundAnswers) : Hub :=
  match point with
  | none => hub.suspendHead requestId (.encoding body)
  | some _ =>
    if answers.encodeOk then
      (waiters.foldl (·.emitToWaiter ⟨requestId, body⟩ ·) hub).finishHead requestId
    else hub.finishHead requestId

/-- One segment of the head job of a request. -/
def runOutbound (env : Env) (hub : Hub) (requestId : RequestId) (answers : OutboundAnswers) :
    Hub :=
  match hub.outbound.jobs requestId with
  | [] => hub
  | job :: _ =>
    match job.work with
    | .send send => hub.runSend env requestId send job.point answers
    | .forward forward => hub.runForward env requestId forward job.point answers
    | .drain context => hub.runDrain env requestId context job.point answers
    | .replay consumerSocketId frame =>
      (hub.emitToWaiter frame consumerSocketId).finishHead requestId
    | .waitersError waiters body => hub.runWaitersError requestId waiters body job.point answers

end Hub

end PlugHub.Bridge
