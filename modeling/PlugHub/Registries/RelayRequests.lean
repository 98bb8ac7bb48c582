import PlugHub.Config
import PlugHub.Library.Index

/-!
# The relay request registry

Registered relay routes, the pending counters that admission compares with the configured
caps, and the three indexes the cleanup paths iterate. A dispatch reserves a place in the
counters before it waits for an agent slot; registration takes the reservation over and
removal gives the place back.

Route objects are shared and mutated in the source; a request id is registered at most
once, so the route stored under an id stands for the object.
-/

namespace PlugHub.Registries

open Library

/-- Which capacity the release function of a relay route gives back. -/
inductive AgentSlot where
  | control
  | reader
  | unlimited
deriving DecidableEq

/-- A registered relay request. -/
structure RelayRequestRoute where
  requestId : RequestId
  conversationId : ConversationId
  consumerSocketId : SocketId
  agentSocketId : SocketId
  agentId : AgentId
  jsonRpcMethod : Option String := none
  clientRequestId : Option ClientRequestId := none
  slot : AgentSlot := .unlimited
  slotReleased : Bool := false
  timeoutArmed : Bool := true
  acked : Bool := false
  ackRetryArmed : Bool := false
  ackRetriesAttempted : Nat := 0
  timedOut : Bool := false
  settled : Bool := false

/-- The registry. -/
structure RelayRequestRegistry where
  relayRequestsByRequestId : OrderedMap RequestId RelayRequestRoute := .empty
  relayReservedGlobalCount : Nat := 0
  relayPendingCountByConversation : Counter ConversationId := .empty
  relayPendingCountByConsumer : Counter SocketId := .empty
  relayRequestIdsByConversation : Index ConversationId RequestId := .empty
  relayRequestIdsByConsumer : Index SocketId RequestId := .empty
  relayRequestIdsByAgent : Index SocketId RequestId := .empty

namespace RelayRequestRegistry

/-- The registered route of a request. -/
def getRelayRequestRoute (registry : RelayRequestRegistry) (requestId : RequestId) :
    Option RelayRequestRoute :=
  registry.relayRequestsByRequestId.get requestId

/-- Whether a request is registered. -/
def hasRelayRequestRoute (registry : RelayRequestRegistry) (requestId : RequestId) : Bool :=
  (registry.getRelayRequestRoute requestId).isSome

/-- Registered routes and reservations. -/
def getRelayEffectivePendingCount (registry : RelayRequestRegistry) : Nat :=
  registry.relayRequestsByRequestId.size + registry.relayReservedGlobalCount

/-- Routes and reservations of a conversation. -/
def getRelayPendingRequestCountForConversation (registry : RelayRequestRegistry)
    (conversationId : ConversationId) : Nat :=
  registry.relayPendingCountByConversation.read conversationId

/-- Routes and reservations of a consumer. -/
def getRelayPendingRequestCountForConsumer (registry : RelayRequestRegistry)
    (consumerSocketId : SocketId) : Nat :=
  registry.relayPendingCountByConsumer.read consumerSocketId

/-- Reserve a place, unless one of the three caps is reached. -/
def reserveRelayPendingSlot (env : Env) (registry : RelayRequestRegistry)
    (conversationId : ConversationId) (consumerSocketId : SocketId) :
    Option RelayRequestRegistry :=
  if env.socketRelayMaxPendingRequests ≤ registry.getRelayEffectivePendingCount then none
  else if env.socketRelayMaxPendingRequestsPerConversation ≤
      registry.getRelayPendingRequestCountForConversation conversationId then none
  else if env.socketRelayMaxPendingRequestsPerConsumer ≤
      registry.getRelayPendingRequestCountForConsumer consumerSocketId then none
  else some
    { registry with
      relayReservedGlobalCount := registry.relayReservedGlobalCount + 1
      relayPendingCountByConversation :=
        registry.relayPendingCountByConversation.increment conversationId
      relayPendingCountByConsumer :=
        registry.relayPendingCountByConsumer.increment consumerSocketId }

/-- Give a reservation back. The source's release function runs its body once; the model
calls it from the one place that still holds an unconsumed reservation. -/
def releaseReservation (registry : RelayRequestRegistry) (conversationId : ConversationId)
    (consumerSocketId : SocketId) : RelayRequestRegistry :=
  { registry with
    relayReservedGlobalCount := registry.relayReservedGlobalCount - 1
    relayPendingCountByConversation :=
      registry.relayPendingCountByConversation.decrement conversationId
    relayPendingCountByConsumer :=
      registry.relayPendingCountByConsumer.decrement consumerSocketId }

/-- The first candidate that is registered for an agent socket. -/
def findRelayRequestRouteForAgentSocket (registry : RelayRequestRegistry)
    (candidateIds : List RequestId) (agentSocketId : SocketId) : Option RelayRequestRoute :=
  (candidateIds.filterMap registry.getRelayRequestRoute).find? (·.agentSocketId = agentSocketId)

/-- The candidates that are registered for an agent socket, each once. -/
def findRelayRequestRoutesForAgentSocket (registry : RelayRequestRegistry)
    (candidateIds : List RequestId) (agentSocketId : SocketId) : List RelayRequestRoute :=
  (candidateIds.eraseDups.filterMap registry.getRelayRequestRoute).filter
    (·.agentSocketId = agentSocketId)

/-- Requests of a conversation, oldest first. -/
def listRelayRequestIdsForConversation (registry : RelayRequestRegistry)
    (conversationId : ConversationId) : List RequestId :=
  registry.relayRequestIdsByConversation.members conversationId

/-- Requests of a consumer, oldest first. -/
def listRelayRequestIdsForConsumer (registry : RelayRequestRegistry)
    (consumerSocketId : SocketId) : List RequestId :=
  registry.relayRequestIdsByConsumer.members consumerSocketId

/-- Requests of an agent socket, oldest first. -/
def listRelayRequestIdsForAgent (registry : RelayRequestRegistry) (agentSocketId : SocketId) :
    List RequestId :=
  registry.relayRequestIdsByAgent.members agentSocketId

/-- Store a route under its id. A reservation that was taken for it is consumed; without one
the counters are incremented here. -/
def insertRoute (registry : RelayRequestRegistry) (route : RelayRequestRoute)
    (countersReserved : Bool) : RelayRequestRegistry :=
  { relayRequestsByRequestId := registry.relayRequestsByRequestId.set route.requestId route
    relayReservedGlobalCount :=
      if countersReserved then registry.relayReservedGlobalCount - 1
      else registry.relayReservedGlobalCount
    relayPendingCountByConversation :=
      if countersReserved then registry.relayPendingCountByConversation
      else registry.relayPendingCountByConversation.increment route.conversationId
    relayPendingCountByConsumer :=
      if countersReserved then registry.relayPendingCountByConsumer
      else registry.relayPendingCountByConsumer.increment route.consumerSocketId
    relayRequestIdsByConversation :=
      registry.relayRequestIdsByConversation.addToIndex route.conversationId route.requestId
    relayRequestIdsByConsumer :=
      registry.relayRequestIdsByConsumer.addToIndex route.consumerSocketId route.requestId
    relayRequestIdsByAgent :=
      registry.relayRequestIdsByAgent.addToIndex route.agentSocketId route.requestId }

/-- Take a registered route out of the map, the counters and the indexes. -/
def deleteRoute (registry : RelayRequestRegistry) (requestId : RequestId)
    (route : RelayRequestRoute) : RelayRequestRegistry :=
  { relayRequestsByRequestId := registry.relayRequestsByRequestId.erase requestId
    relayReservedGlobalCount := registry.relayReservedGlobalCount
    relayPendingCountByConversation :=
      registry.relayPendingCountByConversation.decrement route.conversationId
    relayPendingCountByConsumer :=
      registry.relayPendingCountByConsumer.decrement route.consumerSocketId
    relayRequestIdsByConversation :=
      registry.relayRequestIdsByConversation.removeFromIndex route.conversationId requestId
    relayRequestIdsByConsumer :=
      registry.relayRequestIdsByConsumer.removeFromIndex route.consumerSocketId requestId
    relayRequestIdsByAgent :=
      registry.relayRequestIdsByAgent.removeFromIndex route.agentSocketId requestId }

/-- Change the mutable flags of a registered route. -/
def updateRoute (registry : RelayRequestRegistry) (requestId : RequestId)
    (change : RelayRequestRoute → RelayRequestRoute) : RelayRequestRegistry :=
  { registry with
    relayRequestsByRequestId := registry.relayRequestsByRequestId.modify requestId change }

end RelayRequestRegistry

end PlugHub.Registries
