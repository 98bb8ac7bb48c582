import PlugHub.Bridge.RelayStreams

/-!
# Terminal responses of relay requests

Every path that answers a relay request: the forwarded response of the agent, the response
timer, the fail-fast answers to frames that cannot be used, the refused batch response and
the disconnected agent. A path claims the route through its settlement flag before it
queues its answer.
-/

namespace PlugHub.Bridge

open Library Relay Registries

/-! ## Bodies made by the hub -/

/-- Whether a text contains a pattern, both already in lower case. -/
def includesText (text pattern : String) : Bool :=
  text.toList.tails.any (pattern.toList.isPrefixOf ·)

/-- Whether a text starts with a pattern. -/
def startsWithText (text pattern : String) : Bool :=
  pattern.toList.isPrefixOf text.toList

/-- Methods whose effects may have happened although no response arrived. -/
def isActionMutationMethod (method : Option String) : Bool :=
  method = some "agent.action.run" ∨ method = some "agent.action.cancel" ∨
    method = some "agent.action.sendInput" ∨ method = some "agent.action.closeInput"

/-- Whether the responses of a method answer repetitions. -/
def mayCacheActionResponse (method : Option String) : Bool :=
  !((method.map (startsWithText · "agent.action.")).getD false)

/-- The code of a synthetic error for a request whose outcome is not known. -/
def unknownOutcomeCode (method : Option String) (otherwise : String) : String :=
  if method = some "sql.operation.execute" then "SQL_OPERATION_OUTCOME_UNKNOWN"
  else if isActionMutationMethod method then "ACTION_OUTCOME_UNKNOWN"
  else otherwise

/-- The JSON-RPC id of a synthetic response: the consumer's own, when it gave one. -/
def resolveOutboundBodyId (route : RelayRequestRoute) : String :=
  route.clientRequestId.getD route.requestId

/-- The answer to a response that could not be decoded, by the reason of the failure. -/
def createRelayDecodeFailurePayload (bodyId reasonMessage : String) : FrameBody :=
  let normalized := reasonMessage.toLower
  if includesText normalized "signature" then
    .rpcError bodyId (-32001) "Authentication failed" "invalid_signature"
  else if includesText normalized "decompress payloadframe payload" then
    .rpcError bodyId (-32011) "Compression failed" "compression_failed"
  else if includesText normalized "decode payloadframe json payload" then
    .rpcError bodyId (-32010) "Decoding failed" "decoding_failed"
  else .rpcError bodyId (-32009) "Invalid payload" "invalid_payload"

/-- The answer to a response whose processing failed. -/
def createRelayUnexpectedFailurePayload (bodyId : String) : FrameBody :=
  .rpcError bodyId (-32000) "Internal bridge error" "BRIDGE_INBOUND_PROCESSING_FAILED"

/-- The answer to a batch response. -/
def createRelayBatchResponseUnsupportedPayload (bodyId : String) : FrameBody :=
  .rpcError bodyId (-32009) "Relay does not support batch rpc:response"
    "RELAY_BATCH_RESPONSE_UNSUPPORTED"

/-- Where a route's response is stored for repetitions, whatever its method. -/
def idempotencyKeyOf (route : RelayRequestRoute) : Option (ConversationId × ClientRequestId) :=
  route.clientRequestId.map fun clientRequestId => (route.conversationId, clientRequestId)

/-- Where a route's response is stored for repetitions, when its method may be cached. -/
def cacheKeyOf (route : RelayRequestRoute) : Option (ConversationId × ClientRequestId) :=
  if mayCacheActionResponse route.jsonRpcMethod then idempotencyKeyOf route else none

/-- A response job to the consumer of a route. -/
def responseJob (route : RelayRequestRoute) (body : FrameBody) : SendJob :=
  { consumerSocketId := route.consumerSocketId
    event := .relayRpcResponse
    body := .fixed body }

namespace Hub

/-! ## The response timer -/

/-- The response timer of a route fires: an unclaimed route is answered and removed. -/
def relayTimeoutFires (env : Env) (hub : Hub) (requestId : RequestId) : Hub :=
  match hub.relay.getRelayRequestRoute requestId with
  | none => hub
  | some route =>
    if !route.timeoutArmed then hub
    else if route.settled then
      hub.updateRelayRoute requestId ({ · with timeoutArmed := false })
    else
      let claimed := hub.updateRelayRoute requestId
        ({ · with timeoutArmed := false, settled := true, timedOut := true })
      let detached := (claimed.removeRelayRequestRoute env requestId).removeStreamOf requestId
      detached.enqueue env requestId (.send
        { responseJob route
            (.rpcError (resolveOutboundBodyId route) (-32000)
              "Timed out waiting for agent response"
              (unknownOutcomeCode route.jsonRpcMethod "RELAY_REQUEST_TIMEOUT")) with
          idempotencyKey := idempotencyKeyOf route
          afterEmit := .fanOut })

/-! ## Fail-fast answers -/

/-- The REST part of a fail-fast answer: the pending request of the agent socket is rejected. -/
def failFastPendingRequest (hub : Hub) (socketId : SocketId) (requestId : RequestId)
    (message : String) : Hub :=
  match hub.getRestPendingRequestByCorrelationId requestId with
  | none => hub
  | some dispatch =>
    match hub.restDispatches.get dispatch with
    | none => hub
    | some record =>
      if record.socketId = socketId then
        let cleared := (hub.clearRestTimeout dispatch).clearRestPendingRequest dispatch record
        (cleared.removeStreamOfAgent record.primaryRequestId socketId .detach).rejectRest dispatch
          message
      else hub

/-- The relay part of a fail-fast answer: the route of the agent socket is claimed, and the job
that answers it also removes it once the frame was emitted. The response timer stays armed. -/
def failFastRelayRoute (env : Env) (hub : Hub) (socketId : SocketId) (requestId : RequestId)
    (body : RelayRequestRoute → FrameBody) : Hub :=
  match hub.relay.getRelayRequestRoute requestId with
  | none => hub
  | some route =>
    if route.agentSocketId ≠ socketId then hub
    else if route.settled then hub
    else
      (hub.settleRelayRoute requestId).enqueue env requestId
        (.send { responseJob route (body route) with afterEmit := .cleanup socketId })
        { consumerSocketId := some route.consumerSocketId, priority := .control }

/-- The fail-fast answer to a response whose processing threw. -/
def failFastUnexpectedAgentResponseError (env : Env) (hub : Hub) (socketId : SocketId)
    (frameRequestId : Option RequestId) (reasonMessage : String) : Hub :=
  match frameRequestId with
  | none => hub
  | some requestId =>
    (hub.failFastPendingRequest socketId requestId reasonMessage).failFastRelayRoute env socketId
      requestId fun route => createRelayUnexpectedFailurePayload (resolveOutboundBodyId route)

/-- The fail-fast answer to a response that could not be decoded or is not acceptable. -/
def failFastInvalidAgentResponseFrame (env : Env) (hub : Hub) (socketId : SocketId)
    (frameRequestId : Option RequestId) (reasonMessage : String) : Hub :=
  match frameRequestId with
  | none => hub
  | some requestId =>
    (hub.failFastPendingRequest socketId requestId
      ("Failed to decode agent rpc:response frame: " ++ reasonMessage)).failFastRelayRoute env
      socketId requestId fun route =>
        createRelayDecodeFailurePayload (resolveOutboundBodyId route) reasonMessage

/-- The terminal answer to a relay stream frame that cannot be used. The route stays registered
until the job ran. -/
def emitRelayTerminalFailure (env : Env) (hub : Hub) (stream : ActiveStreamRoute)
    (socketId : SocketId) : Hub :=
  match hub.relay.getRelayRequestRoute stream.requestId with
  | none => hub
  | some route =>
    if route.agentSocketId ≠ socketId then hub
    else
      hub.enqueue env stream.requestId
        (.send
          { consumerSocketId := route.consumerSocketId
            event := .relayRpcComplete
            body := .terminalAtStart stream.streamId
            finallyDo := .cleanup socketId })
        { consumerSocketId := some route.consumerSocketId, priority := .control }

/-- A batch response answers every route of the agent socket among the candidates with an error.
Answers whether there was such a route. -/
def rejectRelayBatchResponse (env : Env) (hub : Hub) (socketId : SocketId)
    (candidateIds : List RequestId) : Hub × Bool :=
  let routes := hub.relay.findRelayRequestRoutesForAgentSocket candidateIds socketId
  ((routes.map (·.requestId)).foldl reject hub, !routes.isEmpty)
where
  /-- One route. -/
  reject (current : Hub) (requestId : RequestId) : Hub :=
    match current.relay.getRelayRequestRoute requestId with
    | none => current
    | some route =>
      if route.timedOut then current
      else if route.settled then current
      else
        let claimed := current.updateRelayRoute requestId
          ({ · with settled := true, timeoutArmed := false })
        claimed.enqueue env requestId (.send
          { responseJob route
              (createRelayBatchResponseUnsupportedPayload (resolveOutboundBodyId route)) with
            idempotencyKey := cacheKeyOf route
            afterEmit := .persist
            finallyDo := .cleanup socketId })

/-! ## The forwarded response -/

/-- What the bridge reads of a decoded response. -/
structure AgentResponse where
  frameRequestId : Option RequestId := none
  responseIds : List RequestId := []
  isBatch : Bool := false
  streamId : Option StreamId := none
  content : String := ""
  originalSize : Nat := 0
  rowCount : Nat := 0

/-- What the agent registry answers while a response is handled. -/
structure ResponsePolicy where
  maxConcurrentStreams : Nat := 32
  pullWindow : Nat := 256
  /-- Why the response is not acceptable for its method, if it is not. -/
  invalidActionIo : Option String := none

/-- The ids a response may belong to: those of its body, and that of its envelope. -/
def candidateIdsOf (response : AgentResponse) : List RequestId :=
  match response.frameRequestId with
  | none => response.responseIds
  | some frameRequestId =>
    if response.responseIds.isEmpty then [frameRequestId]
    else if response.responseIds = [frameRequestId] then response.responseIds
    else (response.responseIds ++ [frameRequestId]).eraseDups

/-- The text of a failed stream registration. -/
def upsertErrorMessage : ActiveStreamRegistry.UpsertError → String
  | .streamIdTaken => "Active stream id is already registered for another request"
  | .agentSocketMismatch => "Active stream route agent socket mismatch"
  | .agentIdMismatch => "Active stream route agent id mismatch"

/-- Open the stream of a relay response: handlers and timers are created, the stream is
registered, and the route gives its slot back. A registration that throws leaves the handlers
and timers behind. -/
def openRelayStream (env : Env) (hub : Hub) (route : RelayRequestRoute) (socketId : SocketId)
    (streamId : StreamId) : Hub × Option ActiveStreamRegistry.UpsertError :=
  let closure := hub.nextRef
  let created := { hub with nextRef := hub.nextRef + 2 }.createRelayStreamHandlers route closure
  match created.streams.upsertActiveStreamRoute
      { ref := closure + 1
        consumerSocketId := route.consumerSocketId
        agentSocketId := socketId
        agentId := route.agentId
        requestId := route.requestId
        conversationId := some route.conversationId
        handlers := .relay closure
        streamId := some streamId } with
  | .error error => (created, some error)
  | .ok streams =>
    let opened := { created with streams := streams }.releaseAgentDispatchSlot env route.requestId
      route
    ({ opened with flow := opened.flow.setRelayStreamFlowCredits route.requestId 0 }, none)

/-- The job that forwards a response. -/
def forwardJob (route : RelayRequestRoute) (socketId : SocketId) (response : AgentResponse) :
    ForwardJob :=
  { consumerSocketId := route.consumerSocketId
    socketId := socketId
    streamId := response.streamId
    content := response.content
    outboundBodyId := resolveOutboundBodyId route
    idempotencyKey := cacheKeyOf route }

/-- How a forwarded response is charged; one that opens a stream is never refused. -/
def forwardOptions (route : RelayRequestRoute) (response : AgentResponse) : EnqueueOptions :=
  { consumerSocketId := some route.consumerSocketId
    pendingBytes := response.originalSize
    priority := if response.streamId.isSome then .control else .normal }

/-- Claim the route and queue the forwarded response; a response whose bytes are refused is
replaced by an error and the route is removed at once. -/
def claimAndForward (env : Env) (hub : Hub) (route : RelayRequestRoute) (socketId : SocketId)
    (response : AgentResponse) : Hub :=
  let requestId := route.requestId
  let (queued, accepted) := (hub.settleRelayRoute requestId).enqueueRelayOutbound env requestId
    (.forward (forwardJob route socketId response)) (forwardOptions route response)
  if accepted then queued
  else
    (queued.cleanupRoute env requestId socketId).enqueue env requestId
      (.send (responseJob route
        (.rpcError (resolveOutboundBodyId route) (-32000) "Relay outbound byte budget exceeded"
          "RELAY_OUTBOUND_BYTE_LIMIT")))
      { consumerSocketId := some route.consumerSocketId, priority := .control }

/-- Answer a stream that cannot be opened for lack of capacity. -/
def rejectForStreamCapacity (env : Env) (hub : Hub) (route : RelayRequestRoute)
    (socketId : SocketId) (response : AgentResponse) (exceededAgentStreamLimit : Bool)
    (maxConcurrentStreams : Nat) : Hub :=
  let body :=
    if exceededAgentStreamLimit then
      FrameBody.rpcError (resolveOutboundBodyId route) (-32000)
        ("Agent active stream capacity reached (" ++ toString maxConcurrentStreams ++ ")")
        "AGENT_STREAM_CAPACITY_REACHED"
    else
      FrameBody.rpcError (resolveOutboundBodyId route) (-32000)
        ("Relay active stream capacity reached (" ++
          toString env.socketRelayMaxActiveStreams ++ ")")
        "RELAY_STREAM_CAPACITY_REACHED"
  (hub.settleRelayRoute route.requestId).enqueue env route.requestId
    (.send { responseJob route body with finallyDo := .cleanup socketId })
    { consumerSocketId := some route.consumerSocketId
      pendingBytes := response.originalSize
      priority := .control }

/-- Forward a response to the consumer of the first candidate route of the agent socket. A route
that was claimed is left alone. Answers the error of a failed stream registration. -/
def forwardRelayRouteResponse (env : Env) (hub : Hub) (socketId : SocketId)
    (candidateIds : List RequestId) (response : AgentResponse) (policy : ResponsePolicy) :
    Hub × Option ActiveStreamRegistry.UpsertError :=
  match hub.relay.findRelayRequestRouteForAgentSocket candidateIds socketId with
  | none => (hub, none)
  | some route =>
    if route.timedOut ∨ route.settled then (hub, none)
    else
      let disarmed := hub.updateRelayRoute route.requestId ({ · with timeoutArmed := false })
      match response.streamId with
      | none => (disarmed.claimAndForward env route socketId response, none)
      | some streamId =>
        let exceededAgentStreamLimit : Bool :=
          policy.maxConcurrentStreams ≤ disarmed.streams.countOpenStreamRoutesForAgent socketId
        if exceededAgentStreamLimit ∨ env.socketRelayMaxActiveStreams ≤
            disarmed.streams.getActiveStreamRouteCount then
          (disarmed.rejectForStreamCapacity env route socketId response exceededAgentStreamLimit
            policy.maxConcurrentStreams, none)
        else
          match disarmed.openRelayStream env route socketId streamId with
          | (failed, some error) => (failed, some error)
          | (opened, none) => (opened.claimAndForward env route socketId response, none)

/-! ## The disconnected agent -/

/-- Answer an unclaimed route of a disconnected agent; answers whether it was unclaimed. -/
def emitRelayAgentDisconnectedUnary (env : Env) (hub : Hub) (route : RelayRequestRoute) :
    Hub × Bool :=
  if route.settled then (hub, false)
  else
    let claimed := hub.updateRelayRoute route.requestId
      ({ · with settled := true, timeoutArmed := false, ackRetryArmed := false })
    ((claimed.removeRelayRequestRoute env route.requestId).enqueue env route.requestId (.send
      { responseJob route
          (.rpcError (resolveOutboundBodyId route) (-32000)
            "Agent disconnected while waiting for response"
            (unknownOutcomeCode route.jsonRpcMethod "AGENT_DISCONNECTED")) with
        idempotencyKey := idempotencyKeyOf route
        afterEmit := .fanOut }), true)

/-- End a relay stream of a disconnected agent. -/
def emitRelayAgentDisconnectedStream (env : Env) (hub : Hub) (route : RelayRequestRoute)
    (stream : ActiveStreamRoute) : Hub :=
  let body := FrameBody.streamTerminal
    (hub.flow.getRelayStreamForwardedRows route.requestId) "error" (some "AGENT_DISCONNECTED")
    stream.streamId none
  ((hub.removeRelayRequestRoute env route.requestId).removeStreamOf route.requestId).enqueue env
    route.requestId (terminalJob route.consumerSocketId body)

end Hub

end PlugHub.Bridge
