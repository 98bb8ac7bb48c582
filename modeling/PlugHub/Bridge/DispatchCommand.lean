import PlugHub.Bridge.DispatchRelay

/-!
# REST dispatch

The dispatch of a REST or socket command: registration of the pending request, the agent
slot, the encoding, the emission and the wait for the response, with the response timer,
the abort signal and the timer that sends the command again. A command without correlation
ids is a notification and has no pending request.
-/

namespace PlugHub.Bridge

open Library Relay Registries

/-- A command for an agent, with the answers of the code outside the bridge. -/
structure CommandInput where
  agentId : AgentId
  socketId : SocketId
  /-- The id the hub generates; a single command uses its own id instead. -/
  generatedRequestId : RequestId
  correlationIds : List RequestId
  isBatch : Bool := false
  /-- The method is `sql.execute`. -/
  isSqlExecute : Bool := false
  commandConsumer : Option SocketId := none
  streamHandlers : Bool := false
  ackRetryEligible : Bool := false
  longRead : Bool := false
  /-- The checks before the registration pass, and no completed or pending replay answers. -/
  admitted : Bool := true
  /-- The deadline of the command leaves no time to wait for a slot. -/
  queueDeadlineExpired : Bool := false

/-- The primary request id: the id of a single command, or the generated one. -/
def CommandInput.primaryRequestId (input : CommandInput) : RequestId :=
  match input.isBatch, input.correlationIds with
  | false, requestId :: _ => requestId
  | _, _ => input.generatedRequestId

/-- Whether the response may open a stream. -/
def CommandInput.mayStream (input : CommandInput) : Bool :=
  !input.isBatch && input.isSqlExecute && input.correlationIds.length == 1

namespace Hub

/-- Whether a correlation id is free of pending requests, streams and relay routes. -/
def isCorrelationIdFree (hub : Hub) (requestId : RequestId) : Bool :=
  (hub.pendingByCorrelationId.get requestId).isNone &&
    (hub.streams.getActiveStreamRouteByRequestId requestId).isNone &&
    !hub.relay.hasRelayRequestRoute requestId

/-- Ask for the capacity a command needs. -/
def acquireRestCapacity (env : Env) (hub : Hub) (dispatch : Nat) (input : CommandInput) :
    Hub × RestDispatchPoint × Option AgentSlot :=
  if input.longRead then
    if input.queueDeadlineExpired ∨
        readerLimit env.socketRestAgentMaxInflight ≤ hub.readers.read input.agentId then
      (hub, .slotRefused, none)
    else
      ({ hub with readers := hub.readers.increment input.agentId }, .slotGranted, some .reader)
  else if input.queueDeadlineExpired then (hub, .slotRefused, none)
  else
    match hub.restQueue.acquireAgentDispatchSlot (restDispatchLimits env) input.agentId
        dispatch with
    | (queue, .unlimited) => ({ hub with restQueue := queue }, .slotGranted, some .unlimited)
    | (queue, .granted) => ({ hub with restQueue := queue }, .slotGranted, some .control)
    | (queue, .queued) => ({ hub with restQueue := queue }, .waitingSlot, none)
    | (queue, .queueFull) => ({ hub with restQueue := queue }, .slotRefused, none)

/-- Store a REST dispatch that waits for its capacity. -/
def suspendRestAtSlot (env : Env) (hub : Hub) (dispatch : Nat) (input : CommandInput)
    (pendingRegistered : Bool) : Hub :=
  let (acquired, point, slot) := hub.acquireRestCapacity env dispatch input
  { acquired with
    restDispatches := acquired.restDispatches.set dispatch
      { agentId := input.agentId
        socketId := input.socketId
        primaryRequestId := input.primaryRequestId
        correlationIds := input.correlationIds
        commandConsumer := input.commandConsumer
        streamHandlers :=
          if input.mayStream && input.streamHandlers then input.commandConsumer else none
        restStreamAggregate := input.mayStream && !input.streamHandlers
        ackRetryEligible := env.socketAgentAckRetryEnabled &&
          decide (0 < env.socketAgentAckMaxRetries) && input.ackRetryEligible
        pendingRegistered := pendingRegistered
        timeoutArmed := pendingRegistered
        slot := slot
        point := point } }

/-- A command up to its first await: the pending request is registered before the slot is asked
for. A generated id that was used before is not taken. -/
def dispatchRpcCommandToAgent (env : Env) (hub : Hub) (input : CommandInput) : Hub :=
  if input.generatedRequestId ∈ input.correlationIds ++ hub.usedRequestIds then hub
  else if !input.admitted ∨ !hub.isAgentConnected input.socketId then hub
  else
    let dispatch := hub.nextRef
    let named := { hub with
      nextRef := hub.nextRef + 1
      usedRequestIds := input.generatedRequestId :: input.correlationIds ++ hub.usedRequestIds }
    if input.correlationIds.isEmpty then named.suspendRestAtSlot env dispatch input false
    else if env.socketRestMaxPendingRequests ≤ hub.logicalPendingCount then
      named.emit (.restRejected dispatch "REST bridge pending request capacity reached")
    else if input.correlationIds.all hub.isCorrelationIdFree then
      { named with
        pendingByCorrelationId := input.correlationIds.foldl
          (fun pending requestId => pending.set requestId dispatch) named.pendingByCorrelationId
        logicalPendingCount := named.logicalPendingCount + 1 }.suspendRestAtSlot env dispatch input
        true
    else
      named.emit (.restRejected dispatch "A request with this JSON-RPC id is already pending")

/-! ## Continuations -/

/-- A REST dispatch returns: its slot goes back. -/
def endRestDispatch (env : Env) (hub : Hub) (dispatch : Nat) : Hub :=
  (hub.releaseRestSlot env dispatch).updateRestDispatch dispatch ({ · with point := .done })

/-- A REST dispatch fails before its emission. -/
def failRestDispatch (env : Env) (hub : Hub) (dispatch : Nat) (message : String) : Hub :=
  ((hub.clearPendingRegistration dispatch).rejectRest dispatch message).endRestDispatch env
    dispatch

/-- The continuation of a REST dispatch after its encoding. A notification is emitted without
further checks; a command is emitted unless its signal was raised or a late check fails. The
settlement of the promise is not looked at. -/
def resumeRestEncoding (env : Env) (hub : Hub) (dispatch : Nat) (record : RestDispatch)
    (encodeOk emitOk : Bool) : Hub :=
  if record.correlationIds.isEmpty then
    if encodeOk then
      (hub.emit (.restNotification record.socketId dispatch)).endRestDispatch env dispatch
    else hub.endRestDispatch env dispatch
  else if !encodeOk then hub.failRestDispatch env dispatch "Failed to encode rpc:request"
  else if record.aborted then
    hub.failRestDispatch env dispatch "HTTP request aborted by client"
  else if !emitOk then
    (((hub.clearPendingRegistration dispatch).removeStreamOfAgent record.primaryRequestId
      record.socketId .detach).rejectRest dispatch "Failed to emit rpc:request").endRestDispatch
      env dispatch
  else
    let sent := hub.emit (.restRequest record.socketId dispatch)
    sent.updateRestDispatch dispatch fun stored =>
      { stored with
        ackRetryArmed := stored.ackRetryEligible
        point := .awaitingResponse }

/-- A suspended REST dispatch continues. -/
def resumeRestDispatch (env : Env) (hub : Hub) (dispatch : Nat) (encodeOk emitOk : Bool) : Hub :=
  match hub.restDispatches.get dispatch with
  | none => hub
  | some record =>
    match record.point with
    | .waitingSlot => hub
    | .slotRefused =>
      if record.correlationIds.isEmpty then
        hub.updateRestDispatch dispatch ({ · with point := .done })
      else hub.failRestDispatch env dispatch "Failed to acquire agent dispatch slot"
    | .slotGranted => hub.updateRestDispatch dispatch ({ · with point := .encoding })
    | .encoding => hub.resumeRestEncoding env dispatch record encodeOk emitOk
    | .awaitingResponse =>
      if record.pendingSettled then hub.endRestDispatch env dispatch else hub
    | .done => hub

/-! ## Timers -/

/-- The response timer of a REST dispatch fires. -/
def restTimeoutFires (hub : Hub) (dispatch : Nat) : Hub :=
  match hub.restDispatches.get dispatch with
  | none => hub
  | some record =>
    if record.timeoutArmed then
      (((hub.clearRestTimeout dispatch).clearPendingRegistration dispatch).removeStreamOfAgent
        record.primaryRequestId record.socketId .detach).rejectRest dispatch
        "Timed out waiting for agent response"
    else hub

/-- A REST dispatch waited too long for a slot. -/
def restQueueWaitExpires (hub : Hub) (dispatch : Nat) : Hub :=
  match hub.restDispatches.get dispatch with
  | none => hub
  | some record =>
    match record.point with
    | .waitingSlot =>
      { hub with
        restQueue := hub.restQueue.removeQueuedWaiter record.agentId dispatch
        restDispatches := hub.restDispatches.modify dispatch
          ({ · with point := .slotRefused }) }
    | _ => hub

/-- Whether one of the correlation ids of a dispatch is registered for it. -/
def isPendingRequestStillRegistered (hub : Hub) (dispatch : Nat) (record : RestDispatch) : Bool :=
  record.correlationIds.any fun requestId =>
    hub.pendingByCorrelationId.get requestId = some dispatch

/-- The timer that sends an unacknowledged REST command again. -/
def restAckRetryFires (env : Env) (hub : Hub) (dispatch : Nat) : Hub :=
  match hub.restDispatches.get dispatch with
  | none => hub
  | some record =>
    if !record.ackRetryArmed then hub
    else
      let fired := hub.updateRestDispatch dispatch ({ · with ackRetryArmed := false })
      if record.pendingSettled ∨ record.acked ∨
          !hub.isPendingRequestStillRegistered dispatch record ∨ record.aborted ∨
          env.socketAgentAckMaxRetries ≤ record.ackRetriesAttempted ∨
          !fired.isAgentConnected record.socketId then fired
      else
        (fired.emit (.restRequest record.socketId dispatch)).updateRestDispatch dispatch
          fun stored =>
            { stored with
              ackRetriesAttempted := record.ackRetriesAttempted + 1
              ackRetryArmed :=
                decide (record.ackRetriesAttempted + 1 < env.socketAgentAckMaxRetries) }

end Hub

end PlugHub.Bridge
