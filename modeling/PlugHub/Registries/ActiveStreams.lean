import PlugHub.Config
import PlugHub.Library.Index

/-!
# The active stream registry

Open streams of relay requests, of REST requests whose stream the hub materializes, and of
socket commands. A stream is found by request id, by stream id, by conversation, by
consumer and by agent socket; two counters, the open streams of each agent socket and the
materializations in flight, are kept in step with the routes for the admission checks.

A stream route is a shared object in the source. Two streams may carry the same request id
one after the other, so each object has a reference of its own. The stream id map of the
source holds the object; here it holds the request id under which the object is
registered, and the object is read through the request map.
-/

namespace PlugHub.Registries

open Library

/-- Who serves the frames of a stream. -/
inductive StreamMode where
  | legacy
  | relay
deriving DecidableEq

/-- The handlers of a stream. -/
inductive StreamHandlers where
  /-- The relay handlers created for one relay response, by the reference of their closure. -/
  | relay (closure : Nat)
  /-- The row collector of a REST request, by the reference of its dispatch. -/
  | materialize (dispatch : Nat)
  | command

/-- The materialization of a REST stream that was not torn down yet. -/
structure RestMaterializeStreamState where
  dispatch : Nat
  settled : Bool := false
  agentId : AgentId

/-- An open stream. -/
structure ActiveStreamRoute where
  ref : Nat
  consumerSocketId : SocketId
  agentSocketId : SocketId
  agentId : AgentId
  requestId : RequestId
  conversationId : Option ConversationId := none
  handlers : StreamHandlers := .command
  streamId : Option StreamId := none
  restMaterializeState : Option RestMaterializeStreamState := none

/-- The mode of a stream is the mode of its handlers. -/
def ActiveStreamRoute.mode (route : ActiveStreamRoute) : StreamMode :=
  match route.handlers with
  | .relay _ => .relay
  | .materialize _ => .legacy
  | .command => .legacy

/-- Whether a stream carries a materialization that is not settled. -/
def ActiveStreamRoute.materializing (route : ActiveStreamRoute) : Bool :=
  (route.restMaterializeState.map fun state => !state.settled).getD false

/-- A stream whose materialization is settled. -/
def ActiveStreamRoute.markSettled (route : ActiveStreamRoute) : ActiveStreamRoute :=
  { route with
    restMaterializeState := route.restMaterializeState.map ({ · with settled := true }) }

/-- The registry. -/
structure ActiveStreamRegistry where
  activeStreamsByRequestId : OrderedMap RequestId ActiveStreamRoute := .empty
  activeStreamsByStreamId : OrderedMap StreamId RequestId := .empty
  activeStreamRequestIdsByConversation : Index ConversationId RequestId := .empty
  streamRequestIdsByConsumer : Index SocketId RequestId := .empty
  streamRequestIdsByAgent : Index SocketId RequestId := .empty
  openStreamCountByAgentSocketId : Counter SocketId := .empty
  restMaterializeStreamsInFlight : Nat := 0

namespace ActiveStreamRegistry

/-- The stream of a request. -/
def getActiveStreamRouteByRequestId (registry : ActiveStreamRegistry) (requestId : RequestId) :
    Option ActiveStreamRoute :=
  registry.activeStreamsByRequestId.get requestId

/-- The stream with a stream id. -/
def getActiveStreamRouteByStreamId (registry : ActiveStreamRegistry) (streamId : StreamId) :
    Option ActiveStreamRoute :=
  (registry.activeStreamsByStreamId.get streamId).bind registry.activeStreamsByRequestId.get

/-- The number of streams. -/
def getActiveStreamRouteCount (registry : ActiveStreamRegistry) : Nat :=
  registry.activeStreamsByRequestId.size

/-- Streams with a stream id at one agent socket. -/
def countOpenStreamRoutesForAgent (registry : ActiveStreamRegistry) (agentSocketId : SocketId) :
    Nat :=
  registry.openStreamCountByAgentSocketId.read agentSocketId

/-- Streams of a consumer, oldest first. -/
def listStreamRequestIdsForConsumer (registry : ActiveStreamRegistry)
    (consumerSocketId : SocketId) : List RequestId :=
  registry.streamRequestIdsByConsumer.members consumerSocketId

/-- Streams of an agent socket, oldest first. -/
def listStreamRequestIdsForAgent (registry : ActiveStreamRegistry) (agentSocketId : SocketId) :
    List RequestId :=
  registry.streamRequestIdsByAgent.members agentSocketId

/-- Streams of a conversation, oldest first. -/
def listActiveStreamRequestIdsForConversation (registry : ActiveStreamRegistry)
    (conversationId : ConversationId) : List RequestId :=
  registry.activeStreamRequestIdsByConversation.members conversationId

/-- Settle the materialization of a stream: the gauge goes down once. Aborting and detaching
differ only in what the caller does with the promise. -/
def settleRestMaterialize (registry : ActiveStreamRegistry) (route : ActiveStreamRoute) :
    ActiveStreamRegistry :=
  if route.materializing then
    { registry with
      activeStreamsByRequestId := registry.activeStreamsByRequestId.modify route.requestId
        ActiveStreamRoute.markSettled
      restMaterializeStreamsInFlight := registry.restMaterializeStreamsInFlight - 1 }
  else registry

/-- Take a stream out of the maps, the counters and the indexes. -/
def deleteRoute (registry : ActiveStreamRegistry) (route : ActiveStreamRoute) :
    ActiveStreamRegistry :=
  { activeStreamsByRequestId := registry.activeStreamsByRequestId.erase route.requestId
    activeStreamsByStreamId := match route.streamId with
      | some streamId => registry.activeStreamsByStreamId.erase streamId
      | none => registry.activeStreamsByStreamId
    activeStreamRequestIdsByConversation := match route.conversationId with
      | some conversationId =>
        registry.activeStreamRequestIdsByConversation.removeFromIndex conversationId
          route.requestId
      | none => registry.activeStreamRequestIdsByConversation
    streamRequestIdsByConsumer :=
      registry.streamRequestIdsByConsumer.removeFromIndex route.consumerSocketId route.requestId
    streamRequestIdsByAgent :=
      registry.streamRequestIdsByAgent.removeFromIndex route.agentSocketId route.requestId
    openStreamCountByAgentSocketId := match route.streamId with
      | some _ => registry.openStreamCountByAgentSocketId.decrement route.agentSocketId
      | none => registry.openStreamCountByAgentSocketId
    restMaterializeStreamsInFlight := registry.restMaterializeStreamsInFlight }

/-- The registry part of a removal: the materialization is settled, then the stream goes. -/
def removeActiveStreamRoute (registry : ActiveStreamRegistry) (route : ActiveStreamRoute) :
    ActiveStreamRegistry :=
  (registry.settleRestMaterialize route).deleteRoute route

/-- Why a stream could not be registered. -/
inductive UpsertError where
  | streamIdTaken
  | agentSocketMismatch
  | agentIdMismatch

/-- Store a stream that is not registered yet. -/
def insertRoute (registry : ActiveStreamRegistry) (route : ActiveStreamRoute) :
    ActiveStreamRegistry :=
  { activeStreamsByRequestId := registry.activeStreamsByRequestId.set route.requestId route
    activeStreamsByStreamId := match route.streamId with
      | some streamId => registry.activeStreamsByStreamId.set streamId route.requestId
      | none => registry.activeStreamsByStreamId
    activeStreamRequestIdsByConversation := match route.conversationId with
      | some conversationId =>
        registry.activeStreamRequestIdsByConversation.addToIndex conversationId route.requestId
      | none => registry.activeStreamRequestIdsByConversation
    streamRequestIdsByConsumer :=
      registry.streamRequestIdsByConsumer.addToIndex route.consumerSocketId route.requestId
    streamRequestIdsByAgent :=
      registry.streamRequestIdsByAgent.addToIndex route.agentSocketId route.requestId
    openStreamCountByAgentSocketId := match route.streamId with
      | some _ => registry.openStreamCountByAgentSocketId.increment route.agentSocketId
      | none => registry.openStreamCountByAgentSocketId
    restMaterializeStreamsInFlight := match route.restMaterializeState with
      | some _ => registry.restMaterializeStreamsInFlight + 1
      | none => registry.restMaterializeStreamsInFlight }

/-- Give a registered stream a stream id: an earlier one is forgotten, and only a stream that
had none is counted anew. -/
def assignStreamId (registry : ActiveStreamRegistry) (route : ActiveStreamRoute)
    (streamId : StreamId) : ActiveStreamRegistry :=
  let cleared := match route.streamId with
    | some old =>
      if old = streamId then registry.activeStreamsByStreamId
      else registry.activeStreamsByStreamId.erase old
    | none => registry.activeStreamsByStreamId
  { registry with
    activeStreamsByRequestId := registry.activeStreamsByRequestId.modify route.requestId
      ({ · with streamId := some streamId })
    activeStreamsByStreamId := cleared.set streamId route.requestId
    openStreamCountByAgentSocketId := match route.streamId with
      | some _ => registry.openStreamCountByAgentSocketId
      | none => registry.openStreamCountByAgentSocketId.increment route.agentSocketId }

/-- Register the stream of a request, or give the registered one its stream id. The offered
route carries what a new registration would store. A registered stream keeps its handlers
and does not take the offered materialization, although the gauge counts it. -/
def upsertActiveStreamRoute (registry : ActiveStreamRegistry) (offered : ActiveStreamRoute) :
    Except UpsertError ActiveStreamRegistry :=
  let existingByStreamId := offered.streamId.bind registry.getActiveStreamRouteByStreamId
  if (existingByStreamId.map fun route => decide (route.requestId ≠ offered.requestId)).getD
      false then .error .streamIdTaken
  else
    match registry.activeStreamsByRequestId.get offered.requestId with
    | none => .ok (registry.insertRoute offered)
    | some existing =>
      if existing.agentSocketId ≠ offered.agentSocketId then .error .agentSocketMismatch
      else if existing.agentId ≠ offered.agentId then .error .agentIdMismatch
      else
        let counted :=
          if offered.restMaterializeState.isSome ∧ existing.restMaterializeState.isNone then
            { registry with
              restMaterializeStreamsInFlight := registry.restMaterializeStreamsInFlight + 1 }
          else registry
        match offered.streamId with
        | some streamId => .ok (counted.assignStreamId existing streamId)
        | none => .ok counted

/-- The stream a frame of an agent socket belongs to, by its stream id and request id fields.
A stream without a stream id learns it here. -/
def resolveActiveStreamRoute (registry : ActiveStreamRegistry) (socketId : SocketId)
    (streamId : Option StreamId) (requestId : Option RequestId) :
    Option (ActiveStreamRoute × ActiveStreamRegistry) :=
  let byStream := streamId.bind registry.getActiveStreamRouteByStreamId
  let byRequest := requestId.bind registry.getActiveStreamRouteByRequestId
  match byStream, byRequest with
  | some left, some right => if left.ref ≠ right.ref then none else learn left
  | some route, none => learn route
  | none, some route => learn route
  | none, none => none
where
  /-- The ownership check and the late stream id. -/
  learn (route : ActiveStreamRoute) : Option (ActiveStreamRoute × ActiveStreamRegistry) :=
    if route.agentSocketId ≠ socketId then none
    else
      match streamId, route.streamId with
      | some learned, none =>
        some ({ route with streamId := some learned }, registry.assignStreamId route learned)
      | _, _ => some (route, registry)

end ActiveStreamRegistry

end PlugHub.Registries
