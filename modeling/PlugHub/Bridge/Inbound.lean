import PlugHub.Bridge.Lifecycle

/-!
# Frames of agents

Responses, chunks, complete frames and acknowledgements of agent sockets. A REST request is
looked for before a relay route; a stream frame is resolved by its stream id and request id.
Every lookup is followed by a comparison with the socket the frame came from.
-/

namespace PlugHub.Bridge.Hub

open Library Relay Registries

/-! ## Materialized REST streams -/

/-- The consumer id of streams that the hub collects itself. -/
def restStreamAggregateConsumerId : SocketId := "__plug_rest_sql_stream_aggregate__"

/-- End a REST request with an error: timer, registration and promise. -/
def failPendingRequest (hub : Hub) (dispatch : Nat) (record : RestDispatch) (message : String) :
    Hub :=
  ((hub.clearRestTimeout dispatch).clearRestPendingRequest dispatch record).rejectRest dispatch
    message

/-- Ask an agent for a window of a stream; a stream whose agent is gone is cleaned up. -/
def emitRpcStreamPullForRoute (env : Env) (hub : Hub) (route : ActiveStreamRoute)
    (windowSize : Nat) : Hub :=
  if route.streamId.isNone then hub
  else if hub.isAgentConnected route.agentSocketId then
    let pulled := hub.emit (.streamPull route.agentSocketId route.requestId (max 1 windowSize))
    match route.mode with
    | .relay => pulled.touchRelayStreamTimeout route.requestId
    | .legacy => pulled
  else hub.cleanupMissingAgentSocketRoute env route

/-- The message of an agent at its stream limit. -/
def agentStreamCapacityMessage (maxConcurrentStreams : Nat) : String :=
  "Agent active stream capacity reached (" ++ toString maxConcurrentStreams ++ ")"

/-- Collect the stream of a REST request: the pending request gives way to a stream whose
handlers collect rows. Answers the error of a failed stream registration. -/
def startRestStreamMaterialization (env : Env) (hub : Hub) (socketId : SocketId) (dispatch : Nat)
    (record : RestDispatch) (response : AgentResponse) (streamId : StreamId)
    (policy : ResponsePolicy) : Hub × Option ActiveStreamRegistry.UpsertError :=
  if policy.maxConcurrentStreams ≤ hub.streams.countOpenStreamRoutesForAgent socketId then
    (hub.failPendingRequest dispatch record
      (agentStreamCapacityMessage policy.maxConcurrentStreams), none)
  else if 0 < env.socketRestSqlStreamMaterializeMaxRows ∧
      env.socketRestSqlStreamMaterializeMaxRows < response.rowCount then
    (hub.failPendingRequest dispatch record
      ("REST SQL stream materialization would exceed configured row limit " ++
        "(use Socket bridge for large streams)"), none)
  else
    let requestId := record.primaryRequestId
    match hub.streams.upsertActiveStreamRoute
        { ref := hub.nextRef
          consumerSocketId := restStreamAggregateConsumerId
          agentSocketId := socketId
          agentId := record.agentId
          requestId := requestId
          handlers := .materialize dispatch
          streamId := some streamId
          restMaterializeState := some { dispatch := dispatch, agentId := record.agentId } } with
    | .error error => (hub, some error)
    | .ok streams =>
      let opened := { hub with
        nextRef := hub.nextRef + 1
        streams := streams
        materializations := hub.materializations.set dispatch
          { aggregatedRowCount := response.rowCount
            aggregatedByteCount :=
              if 0 < env.socketRestSqlStreamMaterializeMaxBytes then response.originalSize
              else 0 } }
      let started := (opened.clearRestPendingRequest dispatch record).releaseRestSlot env dispatch
      match started.streams.getActiveStreamRouteByRequestId requestId with
      | none => (started, none)
      | some route =>
        let pulled := started.emitRpcStreamPullForRoute env route policy.pullWindow
        ({ pulled with restCredits := pulled.restCredits.set requestId policy.pullWindow }, none)

/-- The limit a chunk of a materialized stream exceeds. -/
def exceededMaterializeLimit (env : Env) (collected : Materialization)
    (chunkRows chunkBytes : Nat) : Option String :=
  if 0 < env.socketRestSqlStreamMaterializeMaxChunks ∧
      env.socketRestSqlStreamMaterializeMaxChunks < collected.chunkFramesSeen + 1 then
    some "chunk"
  else if 0 < env.socketRestSqlStreamMaterializeMaxRows ∧
      env.socketRestSqlStreamMaterializeMaxRows < collected.aggregatedRowCount + chunkRows then
    some "row"
  else if 0 < env.socketRestSqlStreamMaterializeMaxBytes ∧
      env.socketRestSqlStreamMaterializeMaxBytes <
        collected.aggregatedByteCount + chunkBytes then
    some "byte"
  else none

/-- Admit a chunk of a materialized stream, or end the materialization. -/
def admitNormalizedChunk (env : Env) (hub : Hub) (dispatch : Nat) (requestId : RequestId)
    (chunkRows chunkBytes : Nat) : Hub × Bool :=
  let collected := (hub.materializations.get dispatch).getD {}
  match exceededMaterializeLimit env collected chunkRows chunkBytes with
  | none => (hub, true)
  | some limit =>
    ((hub.removeStreamOf requestId .detach).rejectRest dispatch
      ("REST SQL stream materialization exceeded configured " ++ limit ++
        " limit (use Socket bridge for large streams)"), false)

/-- Count an admitted chunk of a materialized stream. -/
def countMaterializedChunk (env : Env) (hub : Hub) (dispatch chunkRows chunkBytes : Nat) : Hub :=
  let collected := (hub.materializations.get dispatch).getD {}
  { hub with
    materializations := hub.materializations.set dispatch
      { aggregatedRowCount := collected.aggregatedRowCount + chunkRows
        aggregatedByteCount :=
          if 0 < env.socketRestSqlStreamMaterializeMaxBytes then
            collected.aggregatedByteCount + chunkBytes
          else collected.aggregatedByteCount
        chunkFramesSeen := collected.chunkFramesSeen + 1 } }

/-- A chunk of a materialized stream. -/
def materializeOnChunk (env : Env) (hub : Hub) (dispatch : Nat) (requestId : RequestId)
    (chunkRows chunkBytes pullWindow : Nat) : Hub :=
  match hub.admitNormalizedChunk env dispatch requestId chunkRows chunkBytes with
  | (ended, false) => ended
  | (admitted, true) =>
    let counted := admitted.countMaterializedChunk env dispatch chunkRows chunkBytes
    let credits := (counted.restCredits.get requestId).getD 0
    if credits ≤ 1 then
      let pulled := match counted.streams.getActiveStreamRouteByRequestId requestId with
        | none => counted
        | some route => counted.emitRpcStreamPullForRoute env route pullWindow
      { pulled with restCredits := pulled.restCredits.set requestId pullWindow }
    else { counted with restCredits := counted.restCredits.set requestId (credits - 1) }

/-- The end of a materialized stream: the collected rows resolve the promise, unless they cannot
be merged. -/
def materializeOnComplete (hub : Hub) (dispatch : Nat) (requestId : RequestId)
    (mergeError : Option String) : Hub :=
  let settled := match hub.streams.getActiveStreamRouteByRequestId requestId with
    | none => hub.clearRestTimeout dispatch
    | some route => hub.settleRestMaterializeSuccess route
  match mergeError with
  | none => settled.resolveRest dispatch
  | some message => settled.rejectRest dispatch message

/-! ## Responses -/

/-- The pending REST request of an agent socket among the candidates. -/
def findRestPendingRequestByIds (hub : Hub) (socketId : SocketId) (ids : List RequestId) :
    Option (Nat × RestDispatch) :=
  (ids.filterMap fun requestId =>
    (hub.getRestPendingRequestByCorrelationId requestId).bind fun dispatch =>
      (hub.restDispatches.get dispatch).map fun record => (dispatch, record)).find?
    (·.2.socketId = socketId)

/-- A response to a socket command opens, keeps or ends its stream. Answers the error of a failed
registration, and whether the request was already ended for lack of capacity. -/
def openCommandStream (hub : Hub) (socketId : SocketId) (dispatch : Nat) (record : RestDispatch)
    (consumerSocketId : SocketId) (streamId : Option StreamId) (policy : ResponsePolicy) :
    Hub × Option ActiveStreamRegistry.UpsertError × Bool :=
  match streamId with
  | none => (hub.removeStreamOfAgent record.primaryRequestId socketId, none, false)
  | some streamId =>
    if policy.maxConcurrentStreams ≤ hub.streams.countOpenStreamRoutesForAgent socketId then
      (hub.failPendingRequest dispatch record
        (agentStreamCapacityMessage policy.maxConcurrentStreams), none, true)
    else
      match hub.streams.upsertActiveStreamRoute
          { ref := hub.nextRef
            consumerSocketId := consumerSocketId
            agentSocketId := socketId
            agentId := record.agentId
            requestId := record.primaryRequestId
            streamId := some streamId } with
      | .error error => (hub, some error, false)
      | .ok streams => ({ hub with nextRef := hub.nextRef + 1, streams := streams }, none, false)

/-- The response of a REST request that is not collected: the promise is resolved. -/
def resolvePendingRequest (hub : Hub) (dispatch : Nat) (record : RestDispatch) : Hub :=
  ((hub.clearRestTimeout dispatch).clearRestPendingRequest dispatch record).resolveRest dispatch

/-- The REST part of a response. Answers the error of a failed stream registration, and whether
the response was consumed. -/
def answerPendingRequest (env : Env) (hub : Hub) (socketId : SocketId) (dispatch : Nat)
    (record : RestDispatch) (response : AgentResponse) (policy : ResponsePolicy) :
    Hub × Option ActiveStreamRegistry.UpsertError × Bool :=
  match response.streamId, record.restStreamAggregate with
  | some streamId, true =>
    let (started, error) := hub.startRestStreamMaterialization env socketId dispatch record
      response streamId policy
    (started, error, true)
  | _, _ =>
    match record.streamHandlers with
    | none => (hub.resolvePendingRequest dispatch record, none, false)
    | some consumerSocketId =>
      match hub.openCommandStream socketId dispatch record consumerSocketId response.streamId
          policy with
      | (failed, some error, consumed) => (failed, some error, consumed)
      | (ended, none, true) => (ended, none, true)
      | (opened, none, false) => (opened.resolvePendingRequest dispatch record, none, false)

/-- The relay part of a response. -/
def answerRelayRoutes (env : Env) (hub : Hub) (socketId : SocketId)
    (candidateIds : List RequestId) (response : AgentResponse) (policy : ResponsePolicy) :
    Hub × Option ActiveStreamRegistry.UpsertError :=
  if response.isBatch then
    match hub.rejectRelayBatchResponse env socketId candidateIds with
    | (rejected, true) => (rejected, none)
    | (unmatched, false) =>
      unmatched.forwardRelayRouteResponse env socketId candidateIds response policy
  else hub.forwardRelayRouteResponse env socketId candidateIds response policy

/-- The REST request a response belongs to is answered first. -/
def answerRestRequest (env : Env) (hub : Hub) (socketId : SocketId) (response : AgentResponse)
    (policy : ResponsePolicy) : Hub × Option ActiveStreamRegistry.UpsertError × Bool :=
  match hub.findRestPendingRequestByIds socketId (candidateIdsOf response) with
  | none => (hub, none, false)
  | some (dispatch, record) =>
    hub.answerPendingRequest env socketId dispatch record response policy

/-- Answer a REST request, and the relay routes unless the response was consumed or threw. -/
def answerResponse (env : Env) (hub : Hub) (socketId : SocketId) (response : AgentResponse)
    (policy : ResponsePolicy) : Hub × Option ActiveStreamRegistry.UpsertError :=
  match hub.answerRestRequest env socketId response policy with
  | (thrown, some error, _) => (thrown, some error)
  | (consumed, none, true) => (consumed, none)
  | (answered, none, false) =>
    answered.answerRelayRoutes env socketId (candidateIdsOf response) response policy

/-- A decoded response reaches its turn. What throws ends in the fail-fast answer for the request
of the envelope. -/
def handleAgentRpcResponse (env : Env) (hub : Hub) (socketId : SocketId)
    (response : AgentResponse) (policy : ResponsePolicy) : Hub :=
  if (candidateIdsOf response).isEmpty then hub
  else
    match policy.invalidActionIo with
    | some reason =>
      hub.failFastInvalidAgentResponseFrame env socketId response.frameRequestId reason
    | none =>
      match hub.answerResponse env socketId response policy with
      | (answered, none) => answered
      | (thrown, some error) =>
        thrown.failFastUnexpectedAgentResponseError env socketId response.frameRequestId
          (upsertErrorMessage error)

/-! ## Stream frames -/

/-- Mark the materialization of a stream as settled, without the gauge. -/
def markMaterializeSettled (hub : Hub) (requestId : RequestId) : Hub :=
  { hub with
    streams := { hub.streams with
      activeStreamsByRequestId := hub.streams.activeStreamsByRequestId.modify requestId
        ActiveStreamRoute.markSettled } }

/-- The complete handler of a stream that is not a relay stream. -/
def legacyOnComplete (hub : Hub) (route : ActiveStreamRoute) (mergeError : Option String) : Hub :=
  match route.handlers with
  | .materialize dispatch => hub.materializeOnComplete dispatch route.requestId mergeError
  | _ => hub

/-- The fail-fast answer to a stream frame that cannot be used. -/
def failFastInvalidAgentStreamFrame (env : Env) (hub : Hub) (eventName : String)
    (socketId : SocketId) (frameRequestId : Option RequestId) (reasonMessage : String) : Hub :=
  match frameRequestId.bind hub.streams.getActiveStreamRouteByRequestId with
  | none => hub
  | some route =>
    if route.agentSocketId ≠ socketId then hub
    else
      match route.restMaterializeState, route.materializing, route.mode with
      | some state, true, _ =>
        let marked := (hub.markMaterializeSettled route.requestId).clearRestTimeout state.dispatch
        (marked.removeStreamOf route.requestId .detach).rejectRest state.dispatch
          ("Failed to decode agent " ++ eventName ++ " frame: " ++ reasonMessage)
      | _, _, .relay => hub.emitRelayTerminalFailure env route socketId
      | _, _, .legacy =>
        (hub.legacyOnComplete route
          (some "Agent SQL stream ended with terminal_status=error")).removeStreamOf
            route.requestId

/-- What the bridge reads of a decoded chunk or complete frame. -/
structure AgentStreamFrame where
  frameRequestId : Option RequestId := none
  payload : StreamPayload := {}
  originalSizeBytes : Nat := 0
  rawForward : Option RelayChunkRawForward := none
  columnar : Bool := false
  normalizationError : Option String := none
  pullWindow : Nat := 256
  mergeError : Option String := none

/-- Whether a columnar chunk is admitted before it is normalized; only a materialized stream
asks. -/
def admitColumnar (env : Env) (hub : Hub) (route : ActiveStreamRoute)
    (frame : AgentStreamFrame) : Hub × Bool :=
  match route.handlers with
  | .materialize dispatch =>
    hub.admitNormalizedChunk env dispatch route.requestId frame.payload.rowCount
      frame.originalSizeBytes
  | _ => (hub, true)

/-- The chunk handler of a stream. -/
def onChunk (env : Env) (hub : Hub) (route : ActiveStreamRoute) (frame : AgentStreamFrame) : Hub :=
  match route.handlers with
  | .relay closure =>
    hub.relayOnChunk env route.requestId closure frame.payload frame.originalSizeBytes
      frame.rawForward
  | .materialize dispatch =>
    hub.materializeOnChunk env dispatch route.requestId frame.payload.rowCount
      frame.originalSizeBytes frame.pullWindow
  | .command => hub

/-- A decoded chunk reaches its turn. -/
def handleAgentRpcChunk (env : Env) (hub : Hub) (socketId : SocketId)
    (frame : AgentStreamFrame) : Hub :=
  match hub.streams.resolveActiveStreamRoute socketId frame.payload.streamId
      frame.payload.requestId with
  | none => hub
  | some (route, streams) =>
    let resolved := { hub with streams := streams }
    if frame.columnar then
      match frame.normalizationError with
      | some reason =>
        resolved.failFastInvalidAgentStreamFrame env "rpc:chunk" socketId frame.frameRequestId
          reason
      | none =>
        match resolved.admitColumnar env route frame with
        | (ended, false) => ended
        | (admitted, true) => admitted.onChunk env route frame
    else resolved.onChunk env route frame

/-- A decoded complete frame reaches its turn. -/
def handleAgentRpcComplete (env : Env) (hub : Hub) (socketId : SocketId)
    (frame : AgentStreamFrame) : Hub :=
  match hub.streams.resolveActiveStreamRoute socketId frame.payload.streamId
      frame.payload.requestId with
  | none => hub
  | some (route, streams) =>
    let resolved := { hub with streams := streams }
    match route.handlers with
    | .relay closure =>
      resolved.relayOnComplete env route.requestId closure frame.payload frame.rawForward
    | _ =>
      (resolved.legacyOnComplete route frame.mergeError).removeStreamOf route.requestId

/-! ## Acknowledgements -/

/-- Note the acknowledgement of a pending REST request of the agent socket. -/
def acknowledgeRest (hub : Hub) (socketId : SocketId) (requestId : RequestId) : Hub :=
  match hub.getRestPendingRequestByCorrelationId requestId with
  | none => hub
  | some dispatch =>
    match hub.restDispatches.get dispatch with
    | none => hub
    | some record =>
      if record.socketId = socketId then
        hub.updateRestDispatch dispatch ({ · with acked := true, ackRetryArmed := false })
      else hub

/-- Note the acknowledgement of a relay route of the agent socket; answers its consumer. -/
def acknowledgeRelay (hub : Hub) (socketId : SocketId) (requestId : RequestId) :
    Hub × Option SocketId :=
  match hub.relay.getRelayRequestRoute requestId with
  | none => (hub, none)
  | some route =>
    if route.agentSocketId = socketId then
      (hub.updateRelayRoute requestId ({ · with acked := true, ackRetryArmed := false }),
        some route.consumerSocketId)
    else (hub, none)

/-- An acknowledgement job. -/
def ackJob (consumerSocketId : SocketId) (event : ConsumerEvent) (body : FrameBody) :
    OutboundWork :=
  .send { consumerSocketId := consumerSocketId, event := event, body := .fixed body }

/-- The acknowledgement of one request. -/
def handleAgentRpcAck (env : Env) (hub : Hub) (socketId : SocketId) (requestId : RequestId) :
    Hub :=
  match (hub.acknowledgeRest socketId requestId).acknowledgeRelay socketId requestId with
  | (acknowledged, none) => acknowledged
  | (acknowledged, some consumerSocketId) =>
    acknowledged.enqueue env requestId (ackJob consumerSocketId .relayRpcRequestAck .requestAck)

/-- The largest number of ids in one batch acknowledgement. -/
def hubMaxBatchSize : Nat := 32

/-- The acknowledgement of several requests: each consumer gets one frame for its own. -/
def handleAgentBatchAck (env : Env) (hub : Hub) (socketId : SocketId)
    (requestIds : List RequestId) : Hub :=
  if hubMaxBatchSize < requestIds.length then hub
  else
    let (acknowledged, groups) := requestIds.eraseDups.foldl acknowledge (hub, .empty)
    groups.entries.foldl
      (fun current group =>
        match group.2.head? with
        | none => current
        | some firstRequestId =>
          current.enqueue env firstRequestId
            (ackJob group.1 .relayRpcBatchAck (.batchAck group.2)))
      acknowledged
where
  /-- One request. -/
  acknowledge (current : Hub × OrderedMap SocketId (List RequestId)) (requestId : RequestId) :
      Hub × OrderedMap SocketId (List RequestId) :=
    match (current.1.acknowledgeRest socketId requestId).acknowledgeRelay socketId requestId with
    | (acknowledged, none) => (acknowledged, current.2)
    | (acknowledged, some consumerSocketId) =>
      (acknowledged, current.2.set consumerSocketId
        ((current.2.get consumerSocketId).getD [] ++ [requestId]))

end PlugHub.Bridge.Hub
