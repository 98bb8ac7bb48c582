import PlugHub.Bridge.RestSide
import PlugHub.Registries.RelayAccounting
import PlugHub.Registries.StreamAccounting

/-!
# What the handlers do to the registries

Every handler changes the relay request registry and the active stream registry only
through the changes their accounting knows. A series of such changes is carried along a
handler: each lemma extends the series that leads to a state by what one operation adds.
-/

namespace PlugHub.Bridge

open Library Relay Registries

/-- The reservation of a dispatch, while it holds one. -/
def RelayDispatch.reservation (dispatch : RelayDispatch) : Option Reservation :=
  match dispatch.point with
  | .encoding => none
  | _ => some (dispatch.conversation.conversationId, dispatch.conversation.consumerSocketId)

theorem RelayDispatch.reservation_eq (dispatch : RelayDispatch) :
    dispatch.reservation = if dispatch.phase = .reserved then
      some (dispatch.conversation.conversationId, dispatch.conversation.consumerSocketId)
    else none := by
  unfold reservation phase
  cases dispatch.point <;> simp

namespace Hub

/-- The reservations of the suspended relay dispatches. -/
def reservations (hub : Hub) : List Reservation :=
  hub.relayDispatches.entries.filterMap fun entry => entry.2.reservation

/-- A conversation is the one its id belongs to, as long as it is registered. -/
structure Knows (hub : Hub) (conversation : Conversation) : Prop where
  used : conversation.conversationId ∈ hub.usedConversationIds
  registered : ∀ stored, hub.conversations.get conversation.conversationId = some stored →
    stored = conversation

/-- Every suspended relay dispatch is stored under its own id, which was given out, and belongs to
a conversation the hub knows. -/
structure Named (hub : Hub) : Prop where
  dispatches : ∀ requestId dispatch, hub.relayDispatches.get requestId = some dispatch →
    dispatch.requestId = requestId ∧ requestId ∈ hub.usedRequestIds ∧
      hub.Knows dispatch.conversation
  conversations : ∀ conversationId conversation,
    hub.conversations.get conversationId = some conversation →
      conversation.conversationId = conversationId ∧ conversationId ∈ hub.usedConversationIds

/-- The suspended relay dispatches, the conversations and the ids that were given out. -/
def relayNames (hub : Hub) : OrderedMap RequestId RelayDispatch × List RequestId ×
    OrderedMap ConversationId Conversation × List ConversationId :=
  (hub.relayDispatches, hub.usedRequestIds, hub.conversations, hub.usedConversationIds)

variable {hub : Hub}

variable (named : hub.Named)

include named

theorem Named.knows {conversationId : ConversationId}
    {conversation : Conversation}
    (found : hub.conversations.get conversationId = some conversation) :
    hub.Knows conversation := by
  obtain ⟨own, used⟩ := named.conversations conversationId conversation found
  refine ⟨own ▸ used, fun stored foundStored => ?_⟩
  rw [own, found] at foundStored
  exact (Option.some.inj foundStored).symm

theorem Named.mono {after : Hub}
    (dispatches : after.relayDispatches = hub.relayDispatches)
    (used : ∀ requestId ∈ hub.usedRequestIds, requestId ∈ after.usedRequestIds)
    (conversations : after.conversations = hub.conversations)
    (usedConversations : after.usedConversationIds = hub.usedConversationIds) : after.Named where
  dispatches := by
    intro requestId dispatch found
    rw [dispatches] at found
    obtain ⟨own, given, known⟩ := named.dispatches requestId dispatch found
    refine ⟨own, used requestId given, usedConversations ▸ known.used, ?_⟩
    rw [conversations]
    exact known.registered
  conversations := by
    rw [conversations, usedConversations]
    exact named.conversations

theorem Named.like {after : Hub} (names : after.relayNames = hub.relayNames) : after.Named := by
  simp only [relayNames, Prod.mk.injEq] at names
  obtain ⟨dispatches, used, conversations, usedConversations⟩ := names
  exact named.mono dispatches (fun _ => used ▸ id) conversations usedConversations

theorem Named.modify (requestId : RequestId)
    (change : RelayDispatch → RelayDispatch)
    (same : ∀ dispatch, (change dispatch).requestId = dispatch.requestId)
    (kept : ∀ dispatch, (change dispatch).conversation = dispatch.conversation) :
    { hub with relayDispatches := hub.relayDispatches.modify requestId change }.Named where
  dispatches := by
    intro other dispatch found
    simp only [OrderedMap.get_modify] at found
    split at found
    · next target =>
      obtain ⟨stored, foundStored, rfl⟩ := Option.map_eq_some_iff.mp found
      obtain ⟨own, given, known⟩ := named.dispatches requestId stored foundStored
      rw [target, same, kept]
      exact ⟨own, given, known.used, known.registered⟩
    · obtain ⟨own, given, known⟩ := named.dispatches other dispatch found
      exact ⟨own, given, known.used, known.registered⟩
  conversations := named.conversations

theorem Named.erase (requestId : RequestId) :
    { hub with relayDispatches := hub.relayDispatches.erase requestId }.Named where
  dispatches := by
    intro other dispatch found
    simp only [OrderedMap.get_erase] at found
    split at found
    · cases found
    · obtain ⟨own, given, known⟩ := named.dispatches other dispatch found
      exact ⟨own, given, known.used, known.registered⟩
  conversations := named.conversations

theorem Named.forget (conversationIds : List ConversationId) :
    { hub with conversations := conversationIds.foldl (·.erase ·) hub.conversations }.Named := by
  have fewer : ∀ (conversationIds : List ConversationId)
      (conversations : OrderedMap ConversationId Conversation) conversationId conversation,
      (conversationIds.foldl (·.erase ·) conversations).get conversationId = some conversation →
        conversations.get conversationId = some conversation := by
    intro conversationIds
    induction conversationIds with
    | nil => exact fun _ _ _ found => found
    | cons ended rest ih =>
      intro conversations conversationId conversation found
      have earlier := ih _ _ _ found
      rw [OrderedMap.get_erase] at earlier
      split at earlier
      · cases earlier
      · exact earlier
  refine ⟨fun requestId dispatch found => ?_, fun conversationId conversation found => ?_⟩
  · obtain ⟨own, given, known⟩ := named.dispatches requestId dispatch found
    exact ⟨own, given, known.used, fun stored foundStored =>
      known.registered stored (fewer _ _ _ _ foundStored)⟩
  · exact named.conversations conversationId conversation (fewer _ _ _ _ found)

end Hub

/-- One state follows from another by changes of the two registries, and the suspended dispatches
stay named. -/
structure Moves (env : Env) (leak : Prop) (before after : Hub) : Prop where
  relay : Relation.ReflTransGen (RelayRequestRegistry.Change env)
    (before.relay, before.reservations) (after.relay, after.reservations)
  streams : Relation.ReflTransGen (ActiveStreamRegistry.Change leak) before.streams after.streams
  named : before.Named → after.Named
  rest : RestMoves env before after

namespace Moves

variable {env : Env} {leak : Prop} {origin hub : Hub}

theorem refl (hub : Hub) : Moves env leak hub hub where
  relay := .refl
  streams := .refl
  named := id
  rest := .refl hub

section

variable (moves : Moves env leak origin hub)

include moves

variable {after : Hub}

theorem streamChange (change : ActiveStreamRegistry.Change leak hub.streams after.streams)
    (relay : after.relay = hub.relay) (names : after.relayNames = hub.relayNames)
    (rest : RestMoves env hub after) : Moves env leak origin after where
  relay := by
    simp only [Hub.reservations, relay, show after.relayDispatches = hub.relayDispatches from
      congrArg Prod.fst names]
    exact moves.relay
  streams := moves.streams.tail change
  named := fun earlier => (moves.named earlier).like names
  rest := moves.rest.trans rest

theorem still (relay : after.relay = hub.relay) (streams : after.streams = hub.streams)
    (names : after.relayNames = hub.relayNames) (rest : RestMoves env hub after) :
    Moves env leak origin after where
  relay := by
    simp only [Hub.reservations, relay, show after.relayDispatches = hub.relayDispatches from
      congrArg Prod.fst names]
    exact moves.relay
  streams := streams ▸ moves.streams
  named := fun earlier => (moves.named earlier).like names
  rest := moves.rest.trans rest

theorem quiet (relay : after.relay = hub.relay) (streams : after.streams = hub.streams)
    (names : after.relayNames = hub.relayNames) (rest : after.restSide = hub.restSide) :
    Moves env leak origin after :=
  moves.still relay streams names (.same rest)

theorem ofRelaySide (same : after.relaySide = hub.relaySide) (rest : RestMoves env hub after) :
    Moves env leak origin after := by
  have relay := congrArg Hub.relay same
  have streams := congrArg Hub.streams same
  have names := congrArg Hub.relayNames same
  exact moves.still relay streams names rest

theorem relayChange (change : RelayRequestRegistry.Change env (hub.relay, hub.reservations)
      (after.relay, after.reservations))
    (streams : after.streams = hub.streams) (rest : after.restSide = hub.restSide)
    (named : hub.Named → after.Named) : Moves env leak origin after where
  relay := moves.relay.tail change
  streams := streams ▸ moves.streams
  named := named ∘ moves.named
  rest := moves.rest.trans (.same rest)

/-! ## Operations -/

theorem emit (emission : Emission)
    (plain : emission.isRestMark = false) : Moves env leak origin (hub.emit emission) :=
  moves.still rfl rfl rfl (.emit hub plain)

theorem emitToConsumer (consumerSocketId : SocketId) (event : ConsumerEvent) (frame : Frame) :
    Moves env leak origin (hub.emitToConsumer consumerSocketId event frame) := by
  unfold Hub.emitToConsumer
  split
  · exact moves.emit _ rfl
  · exact moves

theorem emitToWaiter (frame : Frame) (consumerSocketId : SocketId) :
    Moves env leak origin (hub.emitToWaiter frame consumerSocketId) := by
  unfold Hub.emitToWaiter
  split
  · exact moves.emit _ rfl
  · exact moves

variable (requestId : RequestId)

theorem enqueueRelayOutbound
    (work : OutboundWork) (options : EnqueueOptions) :
    Moves env leak origin (hub.enqueueRelayOutbound env requestId work options).1 :=
  moves.quiet rfl rfl rfl rfl

theorem enqueue (work : OutboundWork) (options : EnqueueOptions) :
    Moves env leak origin (hub.enqueue env requestId work options) :=
  moves.quiet rfl rfl rfl rfl

theorem modifyDispatch (change : RelayDispatch → RelayDispatch)
    (kept : ∀ dispatch, (change dispatch).reservation = dispatch.reservation)
    (same : ∀ dispatch, (change dispatch).requestId = dispatch.requestId)
    (conversation : ∀ dispatch, (change dispatch).conversation = dispatch.conversation) :
    Moves env leak origin
      { hub with relayDispatches := hub.relayDispatches.modify requestId change } := by
  refine moves.relayChange (.reorder ?_) rfl rfl fun named =>
    named.modify requestId change same conversation
  exact (hub.relayDispatches.filterMap_modify_perm requestId change
    (fun entry => entry.2.reservation) fun dispatch _ => kept dispatch).symm

theorem grantRelaySlot :
    Moves env leak origin (hub.grantRelaySlot requestId) := by
  refine moves.modifyDispatch requestId _ (fun dispatch => ?_) (fun dispatch => ?_)
    fun dispatch => ?_
  · cases point : dispatch.point with
    | waitingSlot => simp [RelayDispatch.reservation, point]
    | slotGranted slot | slotRefused | encoding => rfl
  · split <;> rfl
  · split <;> rfl

theorem releaseRelaySlot (agentId : AgentId)
    (slot : AgentSlot) : Moves env leak origin (hub.releaseRelaySlot env agentId slot) := by
  cases slot with
  | unlimited => exact moves
  | reader => exact moves.quiet rfl rfl rfl rfl
  | control =>
    have released : Moves env leak origin { hub with
        relayQueue :=
          (hub.relayQueue.releaseAgentDispatchSlot (relayDispatchLimits env) agentId).1 } :=
      moves.quiet rfl rfl rfl rfl
    simp only [Hub.releaseRelaySlot]
    split
    · exact released
    · exact released.grantRelaySlot _

theorem updateRelayRoute (change : RelayRequestRoute → RelayRequestRoute)
    (kept : ∀ route, (change route).SameIdentity route) :
    Moves env leak origin (hub.updateRelayRoute requestId change) :=
  moves.relayChange (.updateRoute requestId kept) rfl rfl fun named =>
    named.like rfl

theorem settleRelayRoute :
    Moves env leak origin (hub.settleRelayRoute requestId) :=
  moves.updateRelayRoute requestId _ fun _ => ⟨rfl, rfl, rfl, rfl⟩

theorem releaseAgentDispatchSlot (route : RelayRequestRoute) :
    Moves env leak origin (hub.releaseAgentDispatchSlot env requestId route) := by
  have marked := moves.updateRelayRoute requestId ({ · with slotReleased := true })
    fun _ => ⟨rfl, rfl, rfl, rfl⟩
  unfold Hub.releaseAgentDispatchSlot
  split
  · exact moves
  · exact (marked.emit _ rfl).releaseRelaySlot _ _

theorem clearRelayStreamFlowState :
    Moves env leak origin (hub.clearRelayStreamFlowState requestId) :=
  moves.quiet rfl rfl rfl rfl

theorem removeRelayRequestRoute :
    Moves env leak origin (hub.removeRelayRequestRoute env requestId) := by
  unfold Hub.removeRelayRequestRoute
  cases found : hub.relay.getRelayRequestRoute requestId with
  | none => exact moves.clearRelayStreamFlowState requestId
  | some route =>
    have registered : ∃ stored, (hub.releaseAgentDispatchSlot env requestId
        route).relay.relayRequestsByRequestId.get requestId = some stored ∧
        stored.SameIdentity route := by
      unfold Hub.releaseAgentDispatchSlot
      split
      · exact ⟨route, found, rfl, rfl, rfl, rfl⟩
      · refine ⟨{ route with slotReleased := true }, ?_, rfl, rfl, rfl, rfl⟩
        rw [Hub.relay_releaseRelaySlot]
        simp only [Hub.emit, RelayRequestRegistry.updateRoute, OrderedMap.get_modify, if_true]
        exact congrArg (Option.map _) found
    obtain ⟨stored, foundStored, -, conversation, consumer, agent⟩ := registered
    have same : (hub.releaseAgentDispatchSlot env requestId route).relay.deleteRoute requestId
        stored = (hub.releaseAgentDispatchSlot env requestId route).relay.deleteRoute requestId
          route := by
      simp only [RelayRequestRegistry.deleteRoute, conversation, consumer, agent]
    have removed : Moves env leak origin { hub.releaseAgentDispatchSlot env requestId route with
        relay := (hub.releaseAgentDispatchSlot env requestId route).relay.deleteRoute requestId
          route } :=
      (moves.releaseAgentDispatchSlot requestId route).relayChange
        (same ▸ .deleteRoute foundStored) rfl rfl fun named =>
          named.like rfl
    exact removed.clearRelayStreamFlowState requestId

theorem touchRelayStreamTimeout :
    Moves env leak origin (hub.touchRelayStreamTimeout requestId) :=
  moves.quiet rfl rfl rfl rfl

theorem removeActiveStreamRoute {requestId : RequestId} {route : ActiveStreamRoute}
    (found : hub.streams.getActiveStreamRouteByRequestId requestId = some route)
    (removal : Hub.RestMaterializeRemoval) :
    Moves env leak origin (hub.removeActiveStreamRoute route removal) := by
  have side : (hub.removeActiveStreamRoute route removal).relaySide = _ :=
    Hub.relaySide_removeActiveStreamRoute route removal
  have relay := congrArg Hub.relay side
  have streams := congrArg Hub.streams side
  have names := congrArg Hub.relayNames side
  refine moves.streamChange ?_ relay names (.removeActiveStreamRoute hub route removal)
  have removed : ActiveStreamRegistry.Change leak hub.streams
      (hub.streams.removeActiveStreamRoute route) := .remove found
  exact streams ▸ removed

theorem removeStreamOf (removal : Hub.RestMaterializeRemoval) :
    Moves env leak origin (hub.removeStreamOf requestId removal) := by
  unfold Hub.removeStreamOf
  split
  · exact moves
  · next found => exact moves.removeActiveStreamRoute found removal

theorem removeStreamOfAgent
    (socketId : SocketId) (removal : Hub.RestMaterializeRemoval) :
    Moves env leak origin (hub.removeStreamOfAgent requestId socketId removal) := by
  unfold Hub.removeStreamOfAgent
  split
  · exact moves
  · next found =>
    split
    · exact moves.removeActiveStreamRoute found removal
    · exact moves

theorem cleanupRoute
    (socketId : SocketId) : Moves env leak origin (hub.cleanupRoute env requestId socketId) :=
  (moves.removeStreamOfAgent requestId socketId _).removeRelayRequestRoute requestId

/-! ## REST requests -/

theorem advance (count : Nat) :
    Moves env leak origin { hub with nextRef := hub.nextRef + count } :=
  moves.still rfl rfl rfl (.advance hub count)

theorem rejectRest (dispatch : Nat) (message : String) :
    Moves env leak origin (hub.rejectRest dispatch message) :=
  moves.ofRelaySide (Hub.relaySide_rejectRest dispatch message) (.rejectRest hub dispatch message)

theorem resolveRest (dispatch : Nat) :
    Moves env leak origin (hub.resolveRest dispatch) :=
  moves.ofRelaySide (Hub.relaySide_resolveRest dispatch) (.resolveRest hub dispatch)

theorem clearRestTimeout (dispatch : Nat) :
    Moves env leak origin (hub.clearRestTimeout dispatch) :=
  moves.ofRelaySide (Hub.relaySide_clearRestTimeout dispatch) (.clearRestTimeout hub dispatch)

theorem clearPendingRegistration (dispatch : Nat) :
    Moves env leak origin (hub.clearPendingRegistration dispatch) :=
  moves.ofRelaySide (Hub.relaySide_clearPendingRegistration dispatch)
    (.clearPendingRegistration hub dispatch)

variable {dispatch : Nat}

theorem clearRegistered {record : RestDispatch}
    (found : hub.restDispatches.get dispatch = some record) :
    Moves env leak origin
      ((hub.clearRestTimeout dispatch).clearRestPendingRequest dispatch record) :=
  moves.ofRelaySide (by simp) (.clearRegistered hub found rfl)

theorem failPendingRequest {record : RestDispatch}
    (found : hub.restDispatches.get dispatch = some record)
    (message : String) :
    Moves env leak origin (hub.failPendingRequest dispatch record message) :=
  moves.ofRelaySide (Hub.relaySide_failPendingRequest dispatch record message)
    (.failPendingRequest hub found message)

theorem resolvePendingRequest {record stored : RestDispatch}
    (found : hub.restDispatches.get dispatch = some stored)
    (same : record.correlationIds = stored.correlationIds) :
    Moves env leak origin (hub.resolvePendingRequest dispatch record) :=
  moves.ofRelaySide (Hub.relaySide_resolvePendingRequest dispatch record)
    (.resolvePendingRequest hub found same)

theorem endRestDispatch (past : RestMoves.Past hub dispatch) :
    Moves env leak origin (hub.endRestDispatch env dispatch) :=
  moves.ofRelaySide (Hub.relaySide_endRestDispatch dispatch) (.endRestDispatch hub past)

theorem failRestDispatch (past : RestMoves.Past hub dispatch) (message : String) :
    Moves env leak origin (hub.failRestDispatch env dispatch message) :=
  moves.ofRelaySide (Hub.relaySide_failRestDispatch dispatch message)
    (.failRestDispatch hub past message)

end

end Moves

end PlugHub.Bridge
