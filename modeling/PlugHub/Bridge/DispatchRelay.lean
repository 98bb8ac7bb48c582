import PlugHub.Bridge.Inbound

/-!
# Relay dispatch

The dispatch of a relay request up to its first await (validation, reservation, repetition,
idempotency entry, agent slot), the continuation after the slot (registration), the
continuation after the encoding (emission or cleanup), and the timers that belong to it.
-/

namespace PlugHub.Bridge

open Library Relay Registries

/-- A relay request of a consumer, with the answers of the code outside the bridge. -/
structure RelayDispatchInput where
  conversationId : ConversationId
  consumerSocketId : SocketId
  command : RelayCommand
  requestId : RequestId
  signalAborted : Bool := false
  valid : Bool := true
  ready : Bool := true
  circuitClosed : Bool := true
  compressionSupported : Bool := true
  /-- The deadline of the command leaves no time to wait for a slot. -/
  queueDeadlineExpired : Bool := false

/-- The concurrent long reads of one agent under a configured slot limit. -/
def readerLimit (configuredLimit : Nat) : Nat :=
  min 32 (if 0 < configuredLimit then configuredLimit else 32)

namespace Hub

/-- Whether the idempotency store answers for a command. -/
def cacheableClientRequestId (command : RelayCommand) : Option ClientRequestId :=
  if mayCacheActionResponse (some command.method) then command.clientRequestId else none

/-- Why a reservation was refused. -/
def reservationError (env : Env) (hub : Hub) (conversation : Conversation) : RelayDispatchError :=
  if env.socketRelayMaxPendingRequestsPerConversation ≤
      hub.relay.getRelayPendingRequestCountForConversation conversation.conversationId then
    .conversationCapacity
  else if env.socketRelayMaxPendingRequestsPerConsumer ≤
      hub.relay.getRelayPendingRequestCountForConsumer conversation.consumerSocketId then
    .consumerCapacity
  else .capacity

/-- Give the reservation of a dispatch back. -/
def releaseReservation (hub : Hub) (conversation : Conversation) : Hub :=
  { hub with
    relay := hub.relay.releaseReservation conversation.conversationId
      conversation.consumerSocketId }

/-- Return an error before the route was registered: the reservation goes back. -/
def failReserved (hub : Hub) (conversation : Conversation) (requestId : Option RequestId)
    (error : RelayDispatchError) : Hub :=
  (hub.releaseReservation conversation).emit (.relayFailed requestId error)

/-- The entry that answers a repetition, while it is fresh. -/
def findRepetition (hub : Hub) (conversation : Conversation) (command : RelayCommand) :
    Option (ClientRequestId × RelayIdempotencyEntry Frame) := do
  let clientRequestId ← cacheableClientRequestId command
  let existing ← hub.idempotency.getEntry conversation.conversationId clientRequestId
  if hub.nowMs < existing.expiresAtMs then some (clientRequestId, existing) else none

/-- Answer a repetition: a stored response is replayed, otherwise the consumer waits for the
response of the request in flight. -/
def answerRepetition (env : Env) (hub : Hub) (conversation : Conversation)
    (clientRequestId : ClientRequestId) (existing : RelayIdempotencyEntry Frame) : Hub :=
  let released := hub.releaseReservation conversation
  match existing.responseFrame with
  | some frame =>
    (released.enqueue env existing.requestId
      (.replay conversation.consumerSocketId frame)).emit
      (.relayDeduplicated conversation.conversationId clientRequestId existing.requestId false)
  | none =>
    { released with
      idempotency := released.idempotency.updateEntry conversation.conversationId clientRequestId
        fun entry =>
          if conversation.consumerSocketId ∈ entry.pendingReplayConsumerSocketIds then entry
          else
            { entry with pendingReplayConsumerSocketIds :=
                entry.pendingReplayConsumerSocketIds ++ [conversation.consumerSocketId] } }.emit
      (.relayDeduplicated conversation.conversationId clientRequestId existing.requestId true)

/-- Ask for the capacity a relay command needs: a place among the long reads, or a slot. -/
def acquireRelayCapacity (env : Env) (hub : Hub) (agentId : AgentId) (input : RelayDispatchInput) :
    Hub × RelayDispatchPoint :=
  if input.command.longRead then
    if input.queueDeadlineExpired ∨
        readerLimit env.socketRelayAgentMaxInflight ≤ hub.readers.read agentId then
      (hub, .slotRefused)
    else ({ hub with readers := hub.readers.increment agentId }, .slotGranted .reader)
  else if input.queueDeadlineExpired then (hub, .slotRefused)
  else
    match hub.relayQueue.acquireAgentDispatchSlot (relayDispatchLimits env) agentId
        input.requestId with
    | (queue, .unlimited) => ({ hub with relayQueue := queue }, .slotGranted .unlimited)
    | (queue, .granted) => ({ hub with relayQueue := queue }, .slotGranted .control)
    | (queue, .queued) => ({ hub with relayQueue := queue }, .waitingSlot)
    | (queue, .queueFull) => ({ hub with relayQueue := queue }, .slotRefused)

/-- Suspend a dispatch at the acquisition of its agent capacity. -/
def suspendAtSlot (env : Env) (hub : Hub) (conversation : Conversation)
    (input : RelayDispatchInput) : Hub :=
  let (acquired, point) := hub.acquireRelayCapacity env conversation.agentId input
  { acquired with
    relayDispatches := acquired.relayDispatches.set input.requestId
      { requestId := input.requestId
        conversation := conversation
        command := input.command
        point := point } }

/-- The part of a dispatch after its checks: repetition, idempotency entry, compression, slot. -/
def dispatchChecked (env : Env) (hub : Hub) (conversation : Conversation)
    (input : RelayDispatchInput) : Hub :=
  match hub.findRepetition conversation input.command with
  | some (clientRequestId, existing) =>
    hub.answerRepetition env conversation clientRequestId existing
  | none =>
    let named := { hub with usedRequestIds := input.requestId :: hub.usedRequestIds }
    let (entered, refusal) := match cacheableClientRequestId input.command with
      | none => (named, none)
      | some clientRequestId =>
        let (idempotency, refusal) := named.idempotency.setRelayIdempotencyEntry env
          conversation.conversationId clientRequestId
          { requestId := input.requestId
            expiresAtMs := named.nowMs + env.socketRelayIdempotencyTtlMs }
        ({ named with idempotency := idempotency }, refusal)
    match refusal with
    | some refusal =>
      entered.failReserved conversation (some input.requestId) (.idempotency refusal)
    | none =>
      if input.compressionSupported then entered.suspendAtSlot env conversation input
      else entered.failReserved conversation (some input.requestId) .compressionUnsupported

/-- The part of a dispatch with a reservation: the agent is checked first. -/
def dispatchReserved (env : Env) (hub : Hub) (conversation : Conversation)
    (input : RelayDispatchInput) : Hub :=
  if !input.ready then hub.failReserved conversation none .notReady
  else if !input.circuitClosed then hub.failReserved conversation none .circuitOpen
  else if !hub.isAgentConnected conversation.agentSocketId then
    hub.failReserved conversation none .agentUnavailable
  else
    let opened := match cacheableClientRequestId input.command with
      | none => hub
      | some _ =>
        { hub with
          idempotency :=
            hub.idempotency.getOrCreateRelayIdempotencyMap conversation.conversationId }
    opened.dispatchChecked env conversation input

/-- A relay request up to its first await. A generated id that was used before is not taken. -/
def dispatchRelayRpcToAgent (env : Env) (hub : Hub) (input : RelayDispatchInput) : Hub :=
  if input.requestId ∈ hub.usedRequestIds then hub
  else if input.signalAborted then hub.emit (.relayFailed none .aborted)
  else if !input.valid then hub.emit (.relayFailed none .invalidCommand)
  else
    match hub.conversations.get input.conversationId with
    | none => hub.emit (.relayFailed none .conversationNotFound)
    | some conversation =>
      if conversation.consumerSocketId ≠ input.consumerSocketId then
        hub.emit (.relayFailed none .conversationNotFound)
      else
        match hub.relay.reserveRelayPendingSlot env conversation.conversationId
            conversation.consumerSocketId with
        | none => hub.emit (.relayFailed none (hub.reservationError env conversation))
        | some relay => { hub with relay := relay }.dispatchReserved env conversation input

/-! ## After the slot -/

/-- Forget a dispatch that returned. -/
def endRelayDispatch (hub : Hub) (requestId : RequestId) : Hub :=
  { hub with relayDispatches := hub.relayDispatches.erase requestId }

/-- Remove the idempotency entry of a command, whichever request it belongs to. -/
def forgetIdempotency (hub : Hub) (conversationId : ConversationId) (command : RelayCommand) :
    Hub :=
  match cacheableClientRequestId command with
  | none => hub
  | some clientRequestId =>
    { hub with
      idempotency := hub.idempotency.removeRelayIdempotencyEntry conversationId clientRequestId }

/-- The continuation of a dispatch whose slot was refused. -/
def resumeSlotRefused (hub : Hub) (dispatch : RelayDispatch) : Hub :=
  ((hub.forgetIdempotency dispatch.conversation.conversationId
    dispatch.command).endRelayDispatch dispatch.requestId).failReserved dispatch.conversation
    (some dispatch.requestId) .slotRefused

/-- The route a dispatch registers. -/
def routeOf (dispatch : RelayDispatch) (slot : AgentSlot) : RelayRequestRoute :=
  { requestId := dispatch.requestId
    conversationId := dispatch.conversation.conversationId
    consumerSocketId := dispatch.conversation.consumerSocketId
    agentSocketId := dispatch.conversation.agentSocketId
    agentId := dispatch.conversation.agentId
    jsonRpcMethod := some dispatch.command.method
    clientRequestId := dispatch.command.clientRequestId
    slot := slot }

/-- Register a route with a reservation that was taken for it. A route that is registered under
the same id is removed first. -/
def registerRelayRequestRoute (env : Env) (hub : Hub) (route : RelayRequestRoute) : Hub :=
  let cleared :=
    if hub.relay.hasRelayRequestRoute route.requestId then
      hub.removeRelayRequestRoute env route.requestId
    else hub
  { cleared with relay := cleared.relay.insertRoute route true }.emit (.slotTaken route.requestId)

/-- The message and code the waiters of a failed dispatch are told. -/
def dispatchErrorText : RelayDispatchError → String × String
  | .aborted =>
    ("Consumer socket disconnected before relay dispatch completed", "SERVICE_UNAVAILABLE")
  | _ => ("Failed to emit rpc:request", "BRIDGE_ERROR")

/-- Tell the waiters of the entry a failed dispatch finds under its key. -/
def answerWaiters (env : Env) (hub : Hub) (dispatch : RelayDispatch)
    (error : RelayDispatchError) : Hub :=
  match cacheableClientRequestId dispatch.command with
  | none => hub
  | some clientRequestId =>
    let waiters :=
      ((hub.idempotency.getEntry dispatch.conversation.conversationId clientRequestId).map
        (·.pendingReplayConsumerSocketIds)).getD []
    if waiters.isEmpty then hub
    else
      hub.enqueue env dispatch.requestId
        (.waitersError waiters
          (.rpcError clientRequestId (-32000) (dispatchErrorText error).1
            (dispatchErrorText error).2))

/-- The cleanup of a dispatch that fails after its registration. -/
def failRegistered (env : Env) (hub : Hub) (dispatch : RelayDispatch)
    (error : RelayDispatchError) : Hub :=
  let detached := (hub.removeRelayRequestRoute env dispatch.requestId).removeStreamOfAgent
    dispatch.requestId dispatch.conversation.agentSocketId
  (((detached.answerWaiters env dispatch error).forgetIdempotency
    dispatch.conversation.conversationId dispatch.command).endRelayDispatch
    dispatch.requestId).emit (.relayFailed (some dispatch.requestId) error)

/-- The continuation of a dispatch that has its slot: the route is registered with an empty flow
state and consumes the reservation, and the encoding starts unless the dispatch was aborted. -/
def resumeSlotGranted (env : Env) (hub : Hub) (dispatch : RelayDispatch) (slot : AgentSlot) : Hub :=
  let registered := hub.registerRelayRequestRoute env (routeOf dispatch slot)
  let consumed := { registered with
    relayDispatches := registered.relayDispatches.modify dispatch.requestId
      ({ · with point := .encoding })
    flow := (registered.flow.ensureRelayStreamFlowEntry
      dispatch.requestId).setRelayStreamFlowCredits dispatch.requestId 0 }
  if dispatch.aborted then consumed.failRegistered env dispatch .aborted else consumed

/-- Whether an unacknowledged command is sent again. -/
def schedulesAckRetry (env : Env) (command : RelayCommand) : Bool :=
  command.ackRetryEligible && !command.requiresLiveCapability &&
    env.socketAgentAckRetryEnabled && decide (0 < env.socketAgentAckMaxRetries) &&
    command.clientRequestId.isSome

/-- The continuation of a dispatch after its encoding. The late checks are the encoder, the
capability and deadline checks and the transport. -/
def resumeEncoding (env : Env) (hub : Hub) (dispatch : RelayDispatch) (emitOk : Bool) : Hub :=
  if dispatch.aborted then hub.failRegistered env dispatch .aborted
  else if !emitOk then hub.failRegistered env dispatch .emitFailed
  else
    let sent := hub.emit (.rpcRequest dispatch.conversation.agentSocketId dispatch.requestId)
    let armed :=
      if schedulesAckRetry env dispatch.command then
        sent.updateRelayRoute dispatch.requestId ({ · with ackRetryArmed := true })
      else sent
    (armed.endRelayDispatch dispatch.requestId).emit (.relayAccepted dispatch.requestId)

/-- A suspended relay dispatch continues. A dispatch in the slot queue stays where it is. -/
def resumeRelayDispatch (env : Env) (hub : Hub) (requestId : RequestId) (emitOk : Bool) : Hub :=
  match hub.relayDispatches.get requestId with
  | none => hub
  | some dispatch =>
    match dispatch.point with
    | .waitingSlot => hub
    | .slotRefused => hub.resumeSlotRefused dispatch
    | .slotGranted slot => hub.resumeSlotGranted env dispatch slot
    | .encoding => hub.resumeEncoding env dispatch emitOk

/-- A relay dispatch waited too long for a slot. -/
def relayQueueWaitExpires (hub : Hub) (requestId : RequestId) : Hub :=
  match hub.relayDispatches.get requestId with
  | none => hub
  | some dispatch =>
    match dispatch.point with
    | .waitingSlot =>
      { hub with
        relayQueue := hub.relayQueue.removeQueuedWaiter dispatch.conversation.agentId requestId
        relayDispatches := hub.relayDispatches.modify requestId
          ({ · with point := .slotRefused }) }
    | _ => hub

/-- The timer that sends an unacknowledged relay request again. Its checks read the registration,
the acknowledgement and the response timer, and not the settlement. The abort signal they
also read is raised by the disconnect of the consumer, which removes the route. -/
def relayAckRetryFires (env : Env) (hub : Hub) (requestId : RequestId) : Hub :=
  match hub.relay.getRelayRequestRoute requestId with
  | none => hub
  | some route =>
    if !route.ackRetryArmed then hub
    else
      let fired := hub.updateRelayRoute requestId ({ · with ackRetryArmed := false })
      if route.acked ∨ route.timedOut ∨
          env.socketAgentAckMaxRetries ≤ route.ackRetriesAttempted ∨
          !fired.isAgentConnected route.agentSocketId then fired
      else
        let again := (fired.updateRelayRoute requestId
          ({ · with ackRetriesAttempted := route.ackRetriesAttempted + 1 })).emit
          (.rpcRequest route.agentSocketId requestId)
        if route.ackRetriesAttempted + 1 < env.socketAgentAckMaxRetries then
          again.updateRelayRoute requestId ({ · with ackRetryArmed := true })
        else again

end Hub

end PlugHub.Bridge
