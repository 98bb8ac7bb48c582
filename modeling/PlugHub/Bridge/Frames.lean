import PlugHub.Bridge.Step

/-!
# What operations leave alone

The relay side of the hub is everything that does not belong to REST requests. The
operations on REST promises, pending requests and slots do not touch it; the operations on
agent slots touch nothing a relay request shows to the outside.
-/

namespace PlugHub.Bridge

open Library Relay Registries

/-- Whether an emission belongs to the relay side. -/
def Emission.isRelay : Emission → Bool
  | .restRequest _ _ => false
  | .restNotification _ _ => false
  | .restResolved _ => false
  | .restRejected _ _ => false
  | .restSlotReleased _ => false
  | _ => true

/-- What a suspended relay dispatch shows: it waits for its registration, or its request is being
encoded for the agent of its conversation. -/
inductive Phase where
  | reserved
  | encoding (conversation : Conversation) (aborted : Bool)
deriving DecidableEq

/-- The phase of a suspended relay dispatch. -/
def RelayDispatch.phase (dispatch : RelayDispatch) : Phase :=
  match dispatch.point with
  | .encoding => .encoding dispatch.conversation dispatch.aborted
  | _ => .reserved

namespace Hub

variable {env : Env} {hub : Hub}

/-- The phase of the dispatch of a request. -/
def phase (hub : Hub) (requestId : RequestId) : Option Phase :=
  (hub.relayDispatches.get requestId).map RelayDispatch.phase

/-- The hub without the state of REST requests and without the places of long reads. -/
def relaySide (hub : Hub) : Hub :=
  { hub with
    readers := .empty
    restQueue := {}
    restDispatches := .empty
    pendingByCorrelationId := .empty
    logicalPendingCount := 0
    restCredits := .empty
    materializations := .empty
    emissions := hub.emissions.filter (·.isRelay) }

/-! ## REST operations -/

variable (dispatch : Nat) (route : ActiveStreamRoute) (removal : RestMaterializeRemoval)
  (agentId : AgentId) (slot : AgentSlot) (requestId other : RequestId)

@[simp] theorem relaySide_updateRestDispatch
    (change : RestDispatch → RestDispatch) :
    (hub.updateRestDispatch dispatch change).relaySide = hub.relaySide := rfl

@[simp] theorem relaySide_clearRestTimeout :
    (hub.clearRestTimeout dispatch).relaySide = hub.relaySide := rfl

variable (record : RestDispatch)

@[simp] theorem relaySide_clearRestPendingRequest :
    (hub.clearRestPendingRequest dispatch record).relaySide = hub.relaySide := rfl

theorem relaySide_emit_of_rest {emission : Emission} (rest : emission.isRelay = false) :
    (hub.emit emission).relaySide = hub.relaySide := by
  simp [relaySide, Hub.emit, rest]

theorem relaySide_settleRest {outcome : Emission}
    (rest : outcome.isRelay = false) :
    (hub.settleRest dispatch outcome).relaySide = hub.relaySide := by
  unfold settleRest
  split
  · rfl
  · split
    · rfl
    · rw [relaySide_emit_of_rest rest, relaySide_updateRestDispatch]

@[simp] theorem relaySide_rejectRest (message : String) :
    (hub.rejectRest dispatch message).relaySide = hub.relaySide :=
  relaySide_settleRest dispatch rfl

@[simp] theorem relaySide_resolveRest :
    (hub.resolveRest dispatch).relaySide = hub.relaySide :=
  relaySide_settleRest dispatch rfl

@[simp] theorem relaySide_clearPendingRegistration :
    (hub.clearPendingRegistration dispatch).relaySide = hub.relaySide := by
  unfold clearPendingRegistration
  split
  · rfl
  · split
    · simp only [relaySide_updateRestDispatch, relaySide_clearRestPendingRequest,
        relaySide_clearRestTimeout]
    · rfl

@[simp] theorem relaySide_releaseRestSlot :
    (hub.releaseRestSlot env dispatch).relaySide = hub.relaySide := by
  unfold releaseRestSlot
  split
  · rfl
  · split
    · split
      · rfl
      · rfl
      · simp only
        split
        · rfl
        · rfl
    · rfl

@[simp] theorem relaySide_endMaterialization :
    (hub.endMaterialization route removal).relaySide = hub.relaySide := by
  unfold endMaterialization
  split
  · rfl
  · split
    · rfl
    · cases removal with
      | detach => rfl
      | abort => simp

@[simp] theorem relaySide_failPendingRequest (message : String) :
    (hub.failPendingRequest dispatch record message).relaySide = hub.relaySide := by
  simp [failPendingRequest]

@[simp] theorem relaySide_resolvePendingRequest :
    (hub.resolvePendingRequest dispatch record).relaySide = hub.relaySide := by
  simp [resolvePendingRequest]

@[simp] theorem relaySide_endRestDispatch :
    (hub.endRestDispatch env dispatch).relaySide = hub.relaySide := by
  simp [endRestDispatch]

@[simp] theorem relaySide_failRestDispatch (message : String) :
    (hub.failRestDispatch env dispatch message).relaySide = hub.relaySide := by
  simp [failRestDispatch]

@[simp] theorem relaySide_acknowledgeRest (socketId : SocketId) (requestId : RequestId) :
    (hub.acknowledgeRest socketId requestId).relaySide = hub.relaySide := by
  unfold acknowledgeRest
  split
  · rfl
  · split
    · rfl
    · split <;> rfl

@[simp] theorem relaySide_suspendRestAtSlot (input : CommandInput)
    (registered : Bool) :
    (hub.suspendRestAtSlot env dispatch input registered).relaySide = hub.relaySide := by
  have acquired : (hub.acquireRestCapacity env dispatch input).1.relaySide = hub.relaySide := by
    unfold acquireRestCapacity
    split
    · split <;> rfl
    · split
      · rfl
      · split <;> rfl
  exact acquired

/-! ## Streams -/

@[simp] theorem streams_endMaterialization :
    (hub.endMaterialization route removal).streams = hub.streams := by
  have same : (hub.endMaterialization route removal).relaySide = hub.relaySide :=
    relaySide_endMaterialization route removal
  have streams := congrArg Hub.streams same
  exact streams

theorem relaySide_removeActiveStreamRoute :
    (hub.removeActiveStreamRoute route removal).relaySide =
      { hub.relaySide with
        streamTimeouts := hub.streamTimeouts.erase route.requestId
        streams := hub.streams.removeActiveStreamRoute route } := by
  have ended : ((hub.clearRelayStreamTimeouts route.requestId).endMaterialization route
      removal).relaySide = (hub.clearRelayStreamTimeouts route.requestId).relaySide :=
    relaySide_endMaterialization route removal
  calc (hub.removeActiveStreamRoute route removal).relaySide
      = { ((hub.clearRelayStreamTimeouts route.requestId).endMaterialization route
            removal).relaySide with
          streams := ((hub.clearRelayStreamTimeouts route.requestId).endMaterialization route
            removal).streams.removeActiveStreamRoute route } := rfl
    _ = { (hub.clearRelayStreamTimeouts route.requestId).relaySide with
          streams := hub.streams.removeActiveStreamRoute route } := by
        rw [ended, streams_endMaterialization]
        rfl
    _ = _ := rfl

theorem relaySide_settleRestMaterializeSuccess :
    (hub.settleRestMaterializeSuccess route).relaySide =
      { hub.relaySide with streams := hub.streams.settleRestMaterialize route } := by
  have ended : (hub.endMaterialization route .detach).relaySide = hub.relaySide :=
    relaySide_endMaterialization route .detach
  calc (hub.settleRestMaterializeSuccess route).relaySide
      = { (hub.endMaterialization route .detach).relaySide with
          streams := (hub.endMaterialization route .detach).streams.settleRestMaterialize
            route } := rfl
    _ = _ := by rw [ended, streams_endMaterialization]

/-! ## Agent slots -/

theorem releaseRelaySlot_eq :
    hub.releaseRelaySlot env agentId slot =
      { hub with
        readers := (hub.releaseRelaySlot env agentId slot).readers
        relayQueue := (hub.releaseRelaySlot env agentId slot).relayQueue
        relayDispatches := (hub.releaseRelaySlot env agentId slot).relayDispatches } := by
  cases slot with
  | unlimited | reader => rfl
  | control =>
    simp only [releaseRelaySlot]
    split
    · rfl
    · rfl

@[simp] theorem phase_grantRelaySlot :
    (hub.grantRelaySlot requestId).phase other = hub.phase other := by
  simp only [phase, grantRelaySlot, OrderedMap.get_modify]
  split
  · next same =>
    subst same
    cases hub.relayDispatches.get other with
    | none => rfl
    | some dispatch =>
      simp only [Option.map_some, Option.some.injEq, RelayDispatch.phase]
      cases point : dispatch.point with
      | waitingSlot => rfl
      | slotGranted slot => simp only [point]
      | slotRefused => simp only [point]
      | encoding => simp only [point]
  · rfl

@[simp] theorem phase_releaseRelaySlot (other : RequestId) :
    (hub.releaseRelaySlot env agentId slot).phase other = hub.phase other := by
  cases slot with
  | unlimited | reader => rfl
  | control =>
    simp only [releaseRelaySlot]
    split
    · rfl
    · rw [phase_grantRelaySlot]
      rfl

@[simp] theorem phase_releaseAgentDispatchSlot
    (route : RelayRequestRoute) :
    (hub.releaseAgentDispatchSlot env requestId route).phase other = hub.phase other := by
  unfold releaseAgentDispatchSlot
  split
  · rfl
  · rw [phase_releaseRelaySlot]
    rfl

@[simp] theorem phase_removeRelayRequestRoute :
    (hub.removeRelayRequestRoute env requestId).phase other = hub.phase other := by
  unfold removeRelayRequestRoute
  split
  · rfl
  · exact phase_releaseAgentDispatchSlot requestId other _

@[simp] theorem phase_removeActiveStreamRoute (other : RequestId) :
    (hub.removeActiveStreamRoute route removal).phase other = hub.phase other := by
  have side : (hub.removeActiveStreamRoute route removal).relaySide = _ :=
    relaySide_removeActiveStreamRoute route removal
  have dispatches := congrArg Hub.relayDispatches side
  exact congrArg (fun dispatches => Option.map _ (OrderedMap.get dispatches other)) dispatches

@[simp] theorem phase_removeStreamOfAgent (requestId : RequestId) (socketId : SocketId)
    (removal : RestMaterializeRemoval) (other : RequestId) :
    (hub.removeStreamOfAgent requestId socketId removal).phase other = hub.phase other := by
  unfold removeStreamOfAgent
  split
  · rfl
  · split
    · exact phase_removeActiveStreamRoute _ removal other
    · rfl

@[simp] theorem phase_answerWaiters (dispatch : RelayDispatch) (error : RelayDispatchError)
    (other : RequestId) : (hub.answerWaiters env dispatch error).phase other = hub.phase other := by
  unfold answerWaiters
  split
  · rfl
  · simp only
    split
    · rfl
    · rfl

@[simp] theorem phase_forgetIdempotency (conversationId : ConversationId) (command : RelayCommand)
    (other : RequestId) :
    (hub.forgetIdempotency conversationId command).phase other = hub.phase other := by
  unfold forgetIdempotency
  split <;> rfl

theorem getDispatch_grantRelaySlot {requestId : RequestId} {dispatch : RelayDispatch}
    (found : hub.relayDispatches.get requestId = some dispatch)
    (acquired : dispatch.point ≠ .waitingSlot) (waiter : RequestId) :
    (hub.grantRelaySlot waiter).relayDispatches.get requestId = some dispatch := by
  simp only [grantRelaySlot, OrderedMap.get_modify]
  split
  · next same =>
    rw [← same, found]
    cases point : dispatch.point with
    | waitingSlot => exact absurd point acquired
    | slotGranted slot | slotRefused | encoding => simp [point]
  · exact found

theorem getDispatch_removeRelayRequestRoute {requestId : RequestId} {dispatch : RelayDispatch}
    (found : hub.relayDispatches.get requestId = some dispatch)
    (acquired : dispatch.point ≠ .waitingSlot) (removed : RequestId) :
    (hub.removeRelayRequestRoute env removed).relayDispatches.get requestId = some dispatch := by
  unfold removeRelayRequestRoute
  split
  · exact found
  · next route _ =>
    have released : (hub.releaseAgentDispatchSlot env removed route).relayDispatches.get
        requestId = some dispatch := by
      unfold releaseAgentDispatchSlot
      split
      · exact found
      · cases route.slot with
        | unlimited | reader => exact found
        | control =>
          simp only [releaseRelaySlot]
          split
          · exact found
          · refine getDispatch_grantRelaySlot ?_ acquired _
            exact found
    exact released

@[simp] theorem relay_releaseRelaySlot :
    (hub.releaseRelaySlot env agentId slot).relay = hub.relay := by
  rw [releaseRelaySlot_eq]

@[simp] theorem streams_releaseRelaySlot :
    (hub.releaseRelaySlot env agentId slot).streams = hub.streams := by
  rw [releaseRelaySlot_eq]

@[simp] theorem streams_releaseAgentDispatchSlot (requestId : RequestId)
    (route : RelayRequestRoute) :
    (hub.releaseAgentDispatchSlot env requestId route).streams = hub.streams := by
  unfold releaseAgentDispatchSlot
  split
  · rfl
  · rw [streams_releaseRelaySlot]
    rfl

@[simp] theorem streams_removeRelayRequestRoute (requestId : RequestId) :
    (hub.removeRelayRequestRoute env requestId).streams = hub.streams := by
  unfold removeRelayRequestRoute
  split
  · rfl
  · exact streams_releaseAgentDispatchSlot requestId _

/-! ## Relay routes -/

theorem getRelayRequestRoute_removeRelayRequestRoute :
    (hub.removeRelayRequestRoute env requestId).relay.getRelayRequestRoute other =
      if other = requestId then none else hub.relay.getRelayRequestRoute other := by
  unfold removeRelayRequestRoute
  cases found : hub.relay.getRelayRequestRoute requestId with
  | none =>
    simp only [clearRelayStreamFlowState]
    split
    · next same => rw [same, found]
    · rfl
  | some route =>
    simp only [clearRelayStreamFlowState, RelayRequestRegistry.getRelayRequestRoute,
      RelayRequestRegistry.deleteRoute, OrderedMap.get_erase]
    split
    · rfl
    · next differs =>
      unfold releaseAgentDispatchSlot
      split
      · rfl
      · rw [relay_releaseRelaySlot]
        simp only [Hub.emit, RelayRequestRegistry.updateRoute, OrderedMap.get_modify, differs,
          if_false]

end Hub

end PlugHub.Bridge
