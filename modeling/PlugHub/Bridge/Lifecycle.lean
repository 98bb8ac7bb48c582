import PlugHub.Bridge.Responses

/-!
# Disconnects and the end of conversations

What the hub cleans up when a consumer or an agent disconnects, when a consumer exceeds the
hard byte limit, and when a conversation ends or expires.
-/

namespace PlugHub.Bridge.Hub

open Library Relay Registries

/-! ## Cleanups by consumer, conversation and agent -/

/-- Remove a stream with its relay route. -/
def removeStreamAndRoute (env : Env) (hub : Hub) (route : ActiveStreamRoute) : Hub :=
  let unregistered := match route.mode with
    | .relay => hub.removeRelayRequestRoute env route.requestId
    | .legacy => hub
  unregistered.removeActiveStreamRoute route

/-- Remove the listed streams, except those that are kept, with their relay routes. -/
def removeStreamsWhere (env : Env) (keep : RequestId → ActiveStreamRoute → Bool) (hub : Hub)
    (requestIds : List RequestId) : Hub :=
  requestIds.foldl
    (fun current requestId =>
      match current.streams.getActiveStreamRouteByRequestId requestId with
      | none => current
      | some route =>
        if keep requestId route then current else current.removeStreamAndRoute env route)
    hub

/-- Remove the listed relay routes. -/
def removeRelayRoutes (env : Env) (hub : Hub) (requestIds : List RequestId) : Hub :=
  requestIds.foldl (fun current requestId => current.removeRelayRequestRoute env requestId) hub

/-- The streams and relay routes of a consumer. -/
def cleanupConsumerStreamSubscriptions (env : Env) (hub : Hub) (consumerSocketId : SocketId) :
    Hub :=
  let withoutStreams := hub.removeStreamsWhere env
    (fun _ route => route.consumerSocketId ≠ consumerSocketId)
    (hub.streams.listStreamRequestIdsForConsumer consumerSocketId)
  withoutStreams.removeRelayRoutes env
    (withoutStreams.relay.listRelayRequestIdsForConsumer consumerSocketId)

/-- The streams, relay routes and idempotency entries of a conversation. -/
def cleanupConversationStreamSubscriptions (env : Env) (hub : Hub)
    (conversationId : ConversationId) : Hub :=
  let withoutStreams := hub.removeStreamsWhere env (fun _ _ => false)
    (hub.streams.listActiveStreamRequestIdsForConversation conversationId)
  let withoutRoutes := withoutStreams.removeRelayRoutes env
    (withoutStreams.relay.listRelayRequestIdsForConversation conversationId)
  { withoutRoutes with
    idempotency :=
      withoutRoutes.idempotency.clearRelayIdempotencyForConversation conversationId }

/-- Tell the consumers of a disconnected agent: its relay streams end, its unclaimed routes are
answered. Answers the requests that were told. -/
def notifyConsumersForAgentRelayDisconnect (env : Env) (hub : Hub) (agentSocketId : SocketId) :
    Hub × List RequestId :=
  let ended := (hub.streams.listStreamRequestIdsForAgent agentSocketId).foldl endStream (hub, [])
  (ended.1.relay.listRelayRequestIdsForAgent agentSocketId).foldl answer ended
where
  /-- One stream. -/
  endStream (current : Hub × List RequestId) (requestId : RequestId) : Hub × List RequestId :=
    match current.1.streams.getActiveStreamRouteByRequestId requestId,
        current.1.relay.getRelayRequestRoute requestId with
    | some stream, some route =>
      if stream.agentSocketId = agentSocketId ∧ stream.mode = .relay ∧
          route.agentSocketId = agentSocketId then
        (current.1.emitRelayAgentDisconnectedStream env route stream, requestId :: current.2)
      else current
    | _, _ => current
  /-- One route. -/
  answer (current : Hub × List RequestId) (requestId : RequestId) : Hub × List RequestId :=
    if requestId ∈ current.2 then current
    else
      match current.1.relay.getRelayRequestRoute requestId with
      | none => current
      | some route =>
        if route.agentSocketId = agentSocketId then
          let (answered, told) := current.1.emitRelayAgentDisconnectedUnary env route
          (answered, if told then requestId :: current.2 else current.2)
        else current

/-- The streams and relay routes of an agent socket. -/
def cleanupAgentStreamSubscriptions (env : Env) (hub : Hub) (agentSocketId : SocketId) : Hub :=
  let (notified, told) := hub.notifyConsumersForAgentRelayDisconnect env agentSocketId
  let withoutStreams := notified.removeStreamsWhere env
    (fun requestId route => route.agentSocketId ≠ agentSocketId ∨ requestId ∈ told)
    (notified.streams.listStreamRequestIdsForAgent agentSocketId)
  (withoutStreams.relay.listRelayRequestIdsForAgent agentSocketId).foldl
    (fun current requestId =>
      match current.relay.getRelayRequestRoute requestId with
      | none => current
      | some route =>
        if route.agentSocketId = agentSocketId then
          current.removeRelayRequestRoute env requestId
        else current)
    withoutStreams

/-- Reject the pending REST requests of an agent socket. -/
def cleanupPendingRequestsForAgentSocket (hub : Hub) (agentSocketId : SocketId) : Hub :=
  (hub.pendingByCorrelationId.entries.map Prod.snd).eraseDups.foldl
    (fun current dispatch =>
      match current.restDispatches.get dispatch with
      | none => current
      | some record =>
        if record.socketId = agentSocketId then
          (((current.clearRestTimeout dispatch).clearRestPendingRequest dispatch
            record).removeStreamOfAgent record.primaryRequestId agentSocketId).rejectRest dispatch
            "Agent disconnected while waiting for response"
        else current)
    hub

/-! ## Abort signals -/

/-- Raise the abort signal of a relay dispatch: a queued one leaves the slot queue. -/
def abortRelayDispatch (hub : Hub) (requestId : RequestId) (dispatch : RelayDispatch) : Hub :=
  let raised := { hub with
    relayDispatches := hub.relayDispatches.modify requestId fun stored =>
      { stored with
        aborted := true
        point := match stored.point with
          | .waitingSlot => .slotRefused
          | point => point } }
  match dispatch.point with
  | .waitingSlot =>
    { raised with
      relayQueue :=
        raised.relayQueue.removeQueuedWaiter dispatch.conversation.agentId requestId }
  | _ => raised

/-- Raise the abort signal of a REST dispatch: a queued one leaves the slot queue, and an
unsettled one is deregistered and rejected by its listener. -/
def abortRestDispatch (hub : Hub) (dispatch : Nat) : Hub :=
  match hub.restDispatches.get dispatch with
  | none => hub
  | some record =>
    let raised := hub.updateRestDispatch dispatch fun stored =>
      { stored with
        aborted := true
        point := match stored.point with
          | .waitingSlot => .slotRefused
          | point => point }
    let dequeued := match record.point with
      | .waitingSlot =>
        { raised with
          restQueue := raised.restQueue.removeQueuedWaiter record.agentId dispatch }
      | _ => raised
    if record.correlationIds.isEmpty ∨ record.pendingSettled then dequeued
    else
      ((dequeued.clearPendingRegistration dispatch).removeStreamOfAgent record.primaryRequestId
        record.socketId .detach).rejectRest dispatch "HTTP request aborted by client"

/-- Abort the dispatches of a consumer socket. -/
def abortPendingConsumerCommands (hub : Hub) (consumerSocketId : SocketId) : Hub :=
  let withoutRelay := hub.relayDispatches.entries.foldl
    (fun current entry =>
      if entry.2.conversation.consumerSocketId = consumerSocketId then
        current.abortRelayDispatch entry.1 entry.2
      else current)
    hub
  withoutRelay.restDispatches.entries.foldl
    (fun current entry =>
      if entry.2.commandConsumer = some consumerSocketId then current.abortRestDispatch entry.1
      else current)
    withoutRelay

/-! ## Disconnects -/

/-- End conversations that were taken out of the registry. -/
def cleanupConversations (env : Env) (hub : Hub) (conversationIds : List ConversationId) : Hub :=
  conversationIds.foldl
    (fun current conversationId =>
      current.cleanupConversationStreamSubscriptions env conversationId)
    hub

/-- Take the conversations that satisfy a check out of the registry and end them. -/
def endConversationsWhere (env : Env) (hub : Hub) (ends : Conversation → Bool) : Hub :=
  let ended := (hub.conversations.entries.filter fun entry => ends entry.2).map Prod.fst
  { hub with conversations := ended.foldl (·.erase ·) hub.conversations }.cleanupConversations env
    ended

/-- A consumer socket disconnects. -/
def consumerDisconnects (env : Env) (hub : Hub) (consumerSocketId : SocketId) : Hub :=
  let removed := { hub with
    consumerSockets := hub.consumerSockets.filter (· ≠ consumerSocketId) }
  let cleaned := (removed.abortPendingConsumerCommands
    consumerSocketId).cleanupConsumerStreamSubscriptions env consumerSocketId
  let pruned := { cleaned with
    idempotency := cleaned.idempotency.pruneRelayIdempotencyWaiterSocket consumerSocketId }
  pruned.endConversationsWhere env (·.consumerSocketId = consumerSocketId)

/-- An agent socket disconnects. -/
def agentDisconnects (env : Env) (hub : Hub) (agentSocketId : SocketId) : Hub :=
  let removed := { hub with agentSockets := hub.agentSockets.filter (· ≠ agentSocketId) }
  let cleaned := (removed.cleanupPendingRequestsForAgentSocket
    agentSocketId).cleanupAgentStreamSubscriptions env agentSocketId
  cleaned.endConversationsWhere env (·.agentSocketId = agentSocketId)

/-- A conversation ends or expires. -/
def conversationEnds (env : Env) (hub : Hub) (conversationId : ConversationId) : Hub :=
  hub.endConversationsWhere env (·.conversationId = conversationId)

end PlugHub.Bridge.Hub
