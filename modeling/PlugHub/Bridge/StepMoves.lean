import PlugHub.Bridge.HandlerMoves

/-!
# Dispatches, outbound jobs and steps as registry changes

A dispatch holds a reservation between the check of the caps and its suspension, and from
its resumption to the registration: there the reservation is counted although no suspended
dispatch shows it. Every other handler only continues a series of changes.
-/

namespace PlugHub.Bridge

open Library Relay Registries

/-- The reservation of a conversation. -/
def Conversation.reservation (conversation : Conversation) : Reservation :=
  (conversation.conversationId, conversation.consumerSocketId)

/-- A series of registry changes that leads to a state whose handler holds one reservation in
its hand. -/
structure Holds (env : Env) (leak : Prop) (reservation : Reservation) (before after : Hub) :
    Prop where
  relay : Relation.ReflTransGen (RelayRequestRegistry.Change env)
    (before.relay, before.reservations) (after.relay, reservation :: after.reservations)
  streams : Relation.ReflTransGen (ActiveStreamRegistry.Change leak) before.streams after.streams
  named : before.Named → after.Named
  rest : RestMoves env before after

namespace Holds

variable {env : Env} {leak : Prop} {reservation : Reservation} {origin hub : Hub}

theorem quiet (holds : Holds env leak reservation origin hub) {after : Hub}
    (relay : after.relay = hub.relay) (streams : after.streams = hub.streams)
    (dispatches : after.relayDispatches = hub.relayDispatches)
    (used : ∀ requestId ∈ hub.usedRequestIds, requestId ∈ after.usedRequestIds)
    (conversations : after.conversations = hub.conversations)
    (usedConversations : after.usedConversationIds = hub.usedConversationIds)
    (rest : after.restSide = hub.restSide) :
    Holds env leak reservation origin after where
  relay := by
    simp only [Hub.reservations, relay, dispatches]
    exact holds.relay
  streams := streams ▸ holds.streams
  named := fun earlier => (holds.named earlier).mono dispatches used conversations usedConversations
  rest := holds.rest.trans (.same rest)

variable {conversation : Conversation}

theorem failReserved
    (holds : Holds env leak conversation.reservation origin hub) (requestId : Option RequestId)
    (error : RelayDispatchError) :
    Moves env leak origin (hub.failReserved conversation requestId error) where
  relay := holds.relay.tail .release
  streams := holds.streams
  named := fun earlier => (holds.named earlier).like rfl
  rest := holds.rest.trans (.same rfl)

theorem answerRepetition (holds : Holds env leak conversation.reservation origin hub)
    (clientRequestId : ClientRequestId) (existing : RelayIdempotencyEntry Frame) :
    Moves env leak origin (hub.answerRepetition env conversation clientRequestId existing) := by
  have released : Moves env leak origin (hub.releaseReservation conversation) :=
    { relay := holds.relay.tail .release
      streams := holds.streams
      named := fun earlier => (holds.named earlier).like rfl
      rest := holds.rest.trans (.same rfl) }
  simp only [Hub.answerRepetition]
  split
  · exact (released.enqueue _ _ _).emit _ rfl
  · exact released.quiet rfl rfl rfl rfl

theorem acquireRelayCapacity (holds : Holds env leak reservation origin hub) (agentId : AgentId)
    (input : RelayDispatchInput) :
    Holds env leak reservation origin (hub.acquireRelayCapacity env agentId input).1 := by
  unfold Hub.acquireRelayCapacity
  split
  · split
    · exact holds
    · exact holds.quiet rfl rfl rfl (fun _ => id) rfl rfl rfl
  · split
    · exact holds
    · split <;> exact holds.quiet rfl rfl rfl (fun _ => id) rfl rfl rfl

theorem acquireRelayCapacity_reserved (agentId : AgentId) (input : RelayDispatchInput) :
    (hub.acquireRelayCapacity env agentId input).2 ≠ .encoding := by
  unfold Hub.acquireRelayCapacity
  split
  · split <;> (intro refuted; cases refuted)
  · split
    · intro refuted
      cases refuted
    · split <;> (intro refuted; cases refuted)

theorem acquireRelayCapacity_eq (env : Env) (hub : Hub) (agentId : AgentId)
    (input : RelayDispatchInput) :
    (hub.acquireRelayCapacity env agentId input).1 = { hub with
      readers := (hub.acquireRelayCapacity env agentId input).1.readers
      relayQueue := (hub.acquireRelayCapacity env agentId input).1.relayQueue } := by
  unfold Hub.acquireRelayCapacity
  split
  · split <;> rfl
  · split
    · rfl
    · split <;> rfl

variable (holds : Holds env leak conversation.reservation origin hub)

include holds

/-- The suspended dispatch shows the reservation its handler held. -/
theorem suspendAtSlot (input : RelayDispatchInput)
    (fresh : hub.relayDispatches.get input.requestId = none)
    (named : input.requestId ∈ hub.usedRequestIds) (known : hub.Knows conversation) :
    Moves env leak origin (hub.suspendAtSlot env conversation input) := by
  have acquired := holds.acquireRelayCapacity conversation.agentId input
  have reserved : (hub.acquireRelayCapacity env conversation.agentId input).2 ≠ .encoding :=
    acquireRelayCapacity_reserved conversation.agentId input
  have shape := acquireRelayCapacity_eq env hub conversation.agentId input
  have dispatches := congrArg Hub.relayDispatches shape
  have used := congrArg Hub.usedRequestIds shape
  have conversations := congrArg Hub.conversations shape
  have usedConversations := congrArg Hub.usedConversationIds shape
  simp only [Hub.suspendAtSlot]
  generalize hub.acquireRelayCapacity env conversation.agentId input = outcome at *
  obtain ⟨granted, point⟩ := outcome
  simp only at acquired reserved dispatches used conversations usedConversations ⊢
  refine ⟨acquired.relay.tail (.reorder ?_), acquired.streams, ?_, acquired.rest⟩
  · have stored := (granted.relayDispatches.entries_set_perm input.requestId
      ({ requestId := input.requestId
         conversation := conversation
         command := input.command
         point := point } : RelayDispatch)).filterMap fun entry => entry.2.reservation
    have untouched : granted.relayDispatches.erase input.requestId = granted.relayDispatches :=
      OrderedMap.erase_of_absent _ (by rw [dispatches]; exact fresh)
    rw [untouched, List.filterMap_cons] at stored
    have held : ({ requestId := input.requestId
                   conversation := conversation
                   command := input.command
                   point := point } : RelayDispatch).reservation =
        some conversation.reservation := by
      cases point with
      | encoding => exact absurd rfl reserved
      | waitingSlot | slotGranted _ | slotRefused => rfl
    rw [held] at stored
    exact stored.symm
  · intro earlier
    have names := acquired.named earlier
    refine ⟨fun requestId dispatch found => ?_, names.conversations⟩
    simp only [OrderedMap.get_set] at found
    split at found
    · next same =>
      cases found
      rw [same, used]
      refine ⟨rfl, named, usedConversations ▸ known.used, ?_⟩
      simp only
      rw [conversations]
      exact known.registered
    · obtain ⟨own, given, known⟩ := names.dispatches requestId dispatch found
      exact ⟨own, given, known.used, known.registered⟩

theorem dispatchChecked (input : RelayDispatchInput)
    (fresh : hub.relayDispatches.get input.requestId = none) (known : hub.Knows conversation) :
    Moves env leak origin (hub.dispatchChecked env conversation input) := by
  unfold Hub.dispatchChecked
  split
  · exact holds.answerRepetition _ _
  · simp only
    have entered : ∀ idempotency, Holds env leak conversation.reservation origin { hub with
        usedRequestIds := input.requestId :: hub.usedRequestIds
        idempotency := idempotency } := fun _ =>
      holds.quiet rfl rfl rfl (fun _ => List.mem_cons_of_mem _) rfl rfl rfl
    cases cacheable : Hub.cacheableClientRequestId input.command with
    | none =>
      have unentered := entered hub.idempotency
      simp only
      split
      · exact unentered.suspendAtSlot input fresh List.mem_cons_self
          ⟨known.used, known.registered⟩
      · exact unentered.failReserved _ _
    | some clientRequestId =>
      simp only
      split
      · exact (entered _).failReserved _ _
      · split
        · exact (entered _).suspendAtSlot input fresh List.mem_cons_self
            ⟨known.used, known.registered⟩
        · exact (entered _).failReserved _ _

theorem dispatchReserved (input : RelayDispatchInput)
    (fresh : hub.relayDispatches.get input.requestId = none) (known : hub.Knows conversation) :
    Moves env leak origin (hub.dispatchReserved env conversation input) := by
  unfold Hub.dispatchReserved
  split
  · exact holds.failReserved _ _
  · split
    · exact holds.failReserved _ _
    · split
      · exact holds.failReserved _ _
      · simp only
        split
        · exact holds.dispatchChecked input fresh known
        · refine Holds.dispatchChecked ?_ input fresh ⟨known.used, known.registered⟩
          exact holds.quiet rfl rfl rfl (fun _ => id) rfl rfl rfl

end Holds

namespace Moves

variable {env : Env} {leak : Prop} {origin hub : Hub}

/-! ## Relay dispatches -/

section

variable (moves : Moves env leak origin hub)

include moves

theorem dispatchRelayRpcToAgent (input : RelayDispatchInput)
    (named : hub.Named) : Moves env leak origin (hub.dispatchRelayRpcToAgent env input) := by
  unfold Hub.dispatchRelayRpcToAgent
  split
  · exact moves
  · next unused =>
    have fresh : hub.relayDispatches.get input.requestId = none := by
      cases stored : hub.relayDispatches.get input.requestId with
      | none => rfl
      | some dispatch => exact absurd (named.dispatches _ _ stored).2.1 unused
    split
    · exact moves.emit _ rfl
    · split
      · exact moves.emit _ rfl
      · split
        · exact moves.emit _ rfl
        · next conversation stored =>
          split
          · exact moves.emit _ rfl
          · split
            · exact moves.emit _ rfl
            · next relay granted =>
              have holds : Holds env leak conversation.reservation origin
                  { hub with relay := relay } :=
                { relay := moves.relay.tail (.reserve granted)
                  streams := moves.streams
                  named := fun earlier => (moves.named earlier).like rfl
                  rest := moves.rest }
              have known := named.knows stored
              exact holds.dispatchReserved input fresh ⟨known.used, known.registered⟩

theorem forgetIdempotency (conversationId : ConversationId) (command : RelayCommand) :
    Moves env leak origin (hub.forgetIdempotency conversationId command) := by
  unfold Hub.forgetIdempotency
  split
  · exact moves
  · exact moves.quiet rfl rfl rfl rfl

theorem endRelayDispatch (requestId : RequestId)
    (unreserved : hub.phase requestId ≠ some .reserved) :
    Moves env leak origin (hub.endRelayDispatch requestId) := by
  refine moves.relayChange (.reorder ?_) rfl rfl fun named =>
    named.erase requestId
  cases stored : hub.relayDispatches.get requestId with
  | none =>
    simp only [Hub.reservations, Hub.endRelayDispatch, OrderedMap.erase_of_absent _ stored]
    exact .refl _
  | some dispatch =>
    have split := (OrderedMap.entries_perm stored).filterMap fun entry => entry.2.reservation
    have registered : dispatch.phase ≠ .reserved := by
      simpa [Hub.phase, stored] using unreserved
    rw [List.filterMap_cons, dispatch.reservation_eq, if_neg registered] at split
    exact split

variable {dispatch : RelayDispatch}

theorem takeReservation {requestId : RequestId}
    (found : hub.relayDispatches.get requestId = some dispatch)
    (reserved : dispatch.phase = .reserved) :
    Relation.ReflTransGen (RelayRequestRegistry.Change env) (origin.relay, origin.reservations)
      (hub.relay, dispatch.conversation.reservation ::
        (hub.relayDispatches.erase requestId).entries.filterMap fun entry =>
          entry.2.reservation) := by
  have split := (OrderedMap.entries_perm found).filterMap fun entry => entry.2.reservation
  rw [List.filterMap_cons, dispatch.reservation_eq, if_pos reserved] at split
  exact moves.relay.tail (.reorder split)

theorem resumeSlotRefused (found : hub.relayDispatches.get dispatch.requestId = some dispatch)
    (reserved : dispatch.phase = .reserved) :
    Moves env leak origin (hub.resumeSlotRefused dispatch) := by
  have forgotten := moves.forgetIdempotency dispatch.conversation.conversationId dispatch.command
  have stored : (hub.forgetIdempotency dispatch.conversation.conversationId
      dispatch.command).relayDispatches = hub.relayDispatches := by
    unfold Hub.forgetIdempotency
    split <;> rfl
  have taken := forgotten.takeReservation (stored ▸ found) reserved
  have holds : Holds env leak dispatch.conversation.reservation origin
      ((hub.forgetIdempotency dispatch.conversation.conversationId
        dispatch.command).endRelayDispatch dispatch.requestId) :=
    { relay := taken
      streams := forgotten.streams
      named := fun earlier => (forgotten.named earlier).erase dispatch.requestId
      rest := forgotten.rest }
  exact holds.failReserved _ _

theorem answerWaiters (dispatch : RelayDispatch) (error : RelayDispatchError) :
    Moves env leak origin (hub.answerWaiters env dispatch error) := by
  unfold Hub.answerWaiters
  split
  · exact moves
  · simp only
    split
    · exact moves
    · exact moves.enqueue _ _ _

theorem failRegistered (dispatch : RelayDispatch)
    (error : RelayDispatchError) (unreserved : hub.phase dispatch.requestId ≠ some .reserved) :
    Moves env leak origin (hub.failRegistered env dispatch error) := by
  have detached := ((moves.removeRelayRequestRoute dispatch.requestId).removeStreamOfAgent
    dispatch.requestId dispatch.conversation.agentSocketId .abort)
  have forgotten := (detached.answerWaiters dispatch error).forgetIdempotency
    dispatch.conversation.conversationId dispatch.command
  simp only [Hub.failRegistered]
  refine (forgotten.endRelayDispatch dispatch.requestId ?_).emit _ rfl
  simpa using unreserved

section

variable (found : hub.relayDispatches.get dispatch.requestId = some dispatch)

include found

theorem registerDispatch
    (reserved : dispatch.phase = .reserved) {route : RelayRequestRoute}
    (absent : hub.relay.getRelayRequestRoute route.requestId = none)
    (conversation : route.conversationId = dispatch.conversation.conversationId)
    (consumer : route.consumerSocketId = dispatch.conversation.consumerSocketId) :
    Moves env leak origin { hub with
      relay := hub.relay.insertRoute route true
      relayDispatches := hub.relayDispatches.modify dispatch.requestId
        ({ · with point := .encoding }) } := by
  have taken := moves.takeReservation found reserved
  rw [Conversation.reservation, ← conversation, ← consumer] at taken
  refine ⟨(taken.tail (.insertRoute absent)).tail (.reorder ?_), moves.streams, fun earlier => ?_,
    moves.rest⟩
  · have modified : hub.relayDispatches.modify dispatch.requestId ({ · with point := .encoding }) =
        hub.relayDispatches.set dispatch.requestId { dispatch with point := .encoding } := by
      simp only [OrderedMap.modify, found]
    have stored := (hub.relayDispatches.entries_set_perm dispatch.requestId
      { dispatch with point := .encoding }).filterMap fun entry => entry.2.reservation
    rw [List.filterMap_cons] at stored
    simp only [Hub.reservations, modified]
    exact stored.symm
  · exact ((moves.named earlier).modify dispatch.requestId ({ · with point := .encoding })
      (fun _ => rfl) fun _ => rfl).like rfl

theorem resumeSlotGranted {slot : AgentSlot}
    (granted : dispatch.point = .slotGranted slot) :
    Moves env leak origin (hub.resumeSlotGranted env dispatch slot) := by
  have reserved : dispatch.phase = .reserved := by
    simp only [RelayDispatch.phase, granted]
  have acquired : dispatch.point ≠ .waitingSlot := by
    rw [granted]
    intro refuted
    cases refuted
  have cleared : ∃ cleared : Hub,
      cleared = (if hub.relay.hasRelayRequestRoute dispatch.requestId then
        hub.removeRelayRequestRoute env dispatch.requestId else hub) ∧
      Moves env leak origin cleared ∧
      cleared.relayDispatches.get dispatch.requestId = some dispatch ∧
      cleared.relay.getRelayRequestRoute dispatch.requestId = none := by
    refine ⟨_, rfl, ?_⟩
    split
    · refine ⟨moves.removeRelayRequestRoute _,
        Hub.getDispatch_removeRelayRequestRoute found acquired _, ?_⟩
      rw [Hub.getRelayRequestRoute_removeRelayRequestRoute, if_pos rfl]
    · next missing =>
      refine ⟨moves, found, ?_⟩
      simpa [RelayRequestRegistry.hasRelayRequestRoute] using missing
  obtain ⟨cleared, shape, moved, kept, absent⟩ := cleared
  have registered : Moves env leak origin { cleared with
      relay := cleared.relay.insertRoute (Hub.routeOf dispatch slot) true
      relayDispatches := cleared.relayDispatches.modify dispatch.requestId
        ({ · with point := .encoding }) } :=
    moved.registerDispatch kept reserved absent rfl rfl
  have consumed : Moves env leak origin { cleared with
      relay := cleared.relay.insertRoute (Hub.routeOf dispatch slot) true
      emissions := .slotTaken dispatch.requestId :: cleared.emissions
      relayDispatches := cleared.relayDispatches.modify dispatch.requestId
        ({ · with point := .encoding })
      flow := (cleared.flow.ensureRelayStreamFlowEntry
        dispatch.requestId).setRelayStreamFlowCredits dispatch.requestId 0 } :=
    registered.quiet rfl rfl rfl rfl
  have same : (hub.registerRelayRequestRoute env (Hub.routeOf dispatch slot)) =
      { cleared with
        relay := cleared.relay.insertRoute (Hub.routeOf dispatch slot) true
        emissions := .slotTaken dispatch.requestId :: cleared.emissions } := by
    subst shape
    rfl
  simp only [Hub.resumeSlotGranted, same]
  split
  · refine consumed.failRegistered dispatch _ ?_
    simp [Hub.phase, OrderedMap.get_modify, kept, RelayDispatch.phase]
  · exact consumed

theorem resumeEncoding
    (encoding : dispatch.point = .encoding) (emitOk : Bool) :
    Moves env leak origin (hub.resumeEncoding env dispatch emitOk) := by
  have unreserved : hub.phase dispatch.requestId ≠ some .reserved := by
    simp [Hub.phase, found, RelayDispatch.phase, encoding]
  unfold Hub.resumeEncoding
  split
  · exact moves.failRegistered dispatch _ unreserved
  · split
    · exact moves.failRegistered dispatch _ unreserved
    · simp only
      split
      · refine (Moves.endRelayDispatch ((moves.emit _ rfl).updateRelayRoute dispatch.requestId
          ({ · with ackRetryArmed := true }) fun _ => ⟨rfl, rfl, rfl, rfl⟩) _ ?_).emit _ rfl
        exact unreserved
      · refine (Moves.endRelayDispatch (moves.emit _ rfl) _ ?_).emit _ rfl
        exact unreserved

end

theorem resumeRelayDispatch (named : hub.Named) (requestId : RequestId) (emitOk : Bool) :
    Moves env leak origin (hub.resumeRelayDispatch env requestId emitOk) := by
  unfold Hub.resumeRelayDispatch
  split
  · exact moves
  · next dispatch stored =>
    have found : hub.relayDispatches.get dispatch.requestId = some dispatch := by
      rw [(named.dispatches requestId dispatch stored).1]
      exact stored
    split
    · exact moves
    · next refused =>
      exact moves.resumeSlotRefused found (by simp only [RelayDispatch.phase, refused])
    · next granted => exact moves.resumeSlotGranted found granted
    · next encoding => exact moves.resumeEncoding found encoding emitOk

theorem relayQueueWaitExpires (requestId : RequestId) :
    Moves env leak origin (hub.relayQueueWaitExpires requestId) := by
  unfold Hub.relayQueueWaitExpires
  split
  · exact moves
  · next dispatch found =>
    split
    · next waiting =>
      have dequeued : Moves env leak origin { hub with
          relayQueue := hub.relayQueue.removeQueuedWaiter dispatch.conversation.agentId
            requestId } := moves.quiet rfl rfl rfl rfl
      refine dequeued.relayChange (.reorder ?_) rfl rfl fun named => ?_
      · refine (hub.relayDispatches.filterMap_modify_perm requestId _
          (fun entry => entry.2.reservation) fun stored foundStored => ?_).symm
        rw [found] at foundStored
        cases foundStored
        simp [RelayDispatch.reservation, waiting]
      · exact (named.modify requestId ({ · with point := .slotRefused }) (fun _ => rfl)
          fun _ => rfl).like rfl
    · exact moves

theorem relayAckRetryFires (requestId : RequestId) :
    Moves env leak origin (hub.relayAckRetryFires env requestId) := by
  unfold Hub.relayAckRetryFires
  split
  · exact moves
  · next route _ =>
    split
    · exact moves
    · have fired := moves.updateRelayRoute requestId ({ · with ackRetryArmed := false })
        fun _ => ⟨rfl, rfl, rfl, rfl⟩
      simp only
      split
      · exact fired
      · have again := (fired.updateRelayRoute requestId
          ({ · with ackRetriesAttempted := route.ackRetriesAttempted + 1 })
          fun _ => ⟨rfl, rfl, rfl, rfl⟩).emit (.rpcRequest route.agentSocketId requestId) rfl
        split
        · exact again.updateRelayRoute requestId _ fun _ => ⟨rfl, rfl, rfl, rfl⟩
        · exact again

/-! ## REST dispatches -/

theorem name {after : Hub} (relay : after.relay = hub.relay) (streams : after.streams = hub.streams)
    (dispatches : after.relayDispatches = hub.relayDispatches)
    (used : ∀ requestId ∈ hub.usedRequestIds, requestId ∈ after.usedRequestIds)
    (conversations : after.conversations = hub.conversations)
    (usedConversations : after.usedConversationIds = hub.usedConversationIds)
    (rest : RestMoves env hub after) : Moves env leak origin after where
  relay := by
    simp only [Hub.reservations, relay, dispatches]
    exact moves.relay
  streams := streams ▸ moves.streams
  named := fun earlier => (moves.named earlier).mono dispatches used conversations usedConversations
  rest := moves.rest.trans rest

end

theorem relaySide_dispatchRpcCommandToAgent (env : Env) (hub : Hub) (input : CommandInput) :
    (hub.dispatchRpcCommandToAgent env input).relaySide = hub.relaySide ∨
      (hub.dispatchRpcCommandToAgent env input).relaySide = { hub with
        nextRef := hub.nextRef + 1
        usedRequestIds :=
          input.generatedRequestId :: input.correlationIds ++ hub.usedRequestIds }.relaySide := by
  unfold Hub.dispatchRpcCommandToAgent
  split
  · exact Or.inl rfl
  · split
    · exact Or.inl rfl
    · refine Or.inr ?_
      simp only
      split
      · exact Hub.relaySide_suspendRestAtSlot _ _ _
      · split
        · exact Hub.relaySide_emit_of_rest rfl
        · split
          · exact (Hub.relaySide_suspendRestAtSlot _ _ _).trans rfl
          · exact Hub.relaySide_emit_of_rest rfl

section

variable (moves : Moves env leak origin hub)

include moves

theorem dispatchRpcCommandToAgent (input : CommandInput) :
    Moves env leak origin (hub.dispatchRpcCommandToAgent env input) := by
  have rest : RestMoves env hub (hub.dispatchRpcCommandToAgent env input) :=
    .dispatchRpcCommandToAgent hub input
  cases relaySide_dispatchRpcCommandToAgent env hub input with
  | inl same => exact moves.ofRelaySide same rest
  | inr same =>
    have relay := congrArg Hub.relay same
    have streams := congrArg Hub.streams same
    have dispatches := congrArg Hub.relayDispatches same
    have used := congrArg Hub.usedRequestIds same
    have conversations := congrArg Hub.conversations same
    have usedConversations := congrArg Hub.usedConversationIds same
    refine moves.name relay streams dispatches (fun requestId given => ?_) conversations
      usedConversations rest
    have listed : (hub.dispatchRpcCommandToAgent env input).usedRequestIds =
      input.generatedRequestId :: input.correlationIds ++ hub.usedRequestIds := used
    simp [listed, given]

theorem resumeRestEncoding {dispatch : Nat}
    {record : RestDispatch} (found : hub.restDispatches.get dispatch = some record)
    (encoding : record.point = .encoding) (encodeOk emitOk : Bool) :
    Moves env leak origin (hub.resumeRestEncoding env dispatch record encodeOk emitOk) := by
  have past : RestMoves.Past hub dispatch := by
    intro stored present
    obtain rfl : record = stored := Option.some.inj (found.symm.trans present)
    simp [encoding]
  unfold Hub.resumeRestEncoding
  split
  · split
    · exact (moves.emit _ rfl).endRestDispatch past
    · exact moves.endRestDispatch past
  · split
    · exact moves.failRestDispatch past _
    · split
      · exact moves.failRestDispatch past _
      · split
        · have rejected := ((moves.clearPendingRegistration dispatch).removeStreamOfAgent
            record.primaryRequestId record.socketId .detach).rejectRest dispatch
            "Failed to emit rpc:request"
          refine rejected.endRestDispatch (past.like ?_)
          rw [Hub.rejectRest, RestMoves.outline_settleRest, RestMoves.outline_removeStreamOfAgent,
            RestMoves.outline_clearPendingRegistration]
        · refine (moves.emit (.restRequest record.socketId dispatch) rfl).ofRelaySide
            (Hub.relaySide_updateRestDispatch _ _) (.moveOn _ found _ rfl ?_ nofun nofun nofun)
          simp [encoding]

theorem resumeRestDispatch (dispatch : Nat) (encodeOk emitOk : Bool) :
    Moves env leak origin (hub.resumeRestDispatch env dispatch encodeOk emitOk) := by
  unfold Hub.resumeRestDispatch
  split
  · exact moves
  · next record found =>
    have past : record.point ≠ .waitingSlot → RestMoves.Past hub dispatch := by
      intro moved stored present
      obtain rfl : record = stored := Option.some.inj (found.symm.trans present)
      exact moved
    split
    · exact moves
    · next refused =>
      split
      · exact moves.ofRelaySide (Hub.relaySide_updateRestDispatch _ _)
          (.moveOn hub found ({ · with point := .done }) rfl (by simp [refused]) nofun nofun
            fun _ => refused)
      · exact moves.failRestDispatch (past (by simp [refused])) _
    · next granted =>
      exact moves.ofRelaySide (Hub.relaySide_updateRestDispatch _ _)
        (.moveOn hub found ({ · with point := .encoding }) rfl (by simp [granted]) nofun nofun
          nofun)
    · next encoding =>
      exact moves.resumeRestEncoding found encoding encodeOk emitOk
    · next awaiting =>
      split
      · exact moves.endRestDispatch (past (by simp [awaiting]))
      · exact moves
    · exact moves

theorem restTimeoutFires (dispatch : Nat) :
    Moves env leak origin (hub.restTimeoutFires dispatch) := by
  unfold Hub.restTimeoutFires
  split
  · exact moves
  · split
    · have cleared := (moves.clearRestTimeout dispatch).clearPendingRegistration dispatch
      exact (cleared.removeStreamOfAgent _ _ .detach).rejectRest _ _
    · exact moves

theorem restQueueWaitExpires (dispatch : Nat) :
    Moves env leak origin (hub.restQueueWaitExpires dispatch) := by
  refine moves.ofRelaySide ?_ (.restQueueWaitExpires hub dispatch)
  unfold Hub.restQueueWaitExpires
  split
  · rfl
  · split
    · rfl
    · rfl

theorem restAckRetryFires (dispatch : Nat) :
    Moves env leak origin (hub.restAckRetryFires env dispatch) := by
  unfold Hub.restAckRetryFires
  split
  · exact moves
  · split
    · exact moves
    · have fired := moves.ofRelaySide (Hub.relaySide_updateRestDispatch dispatch
        ({ · with ackRetryArmed := false })) (.updateRestDispatch hub dispatch _
          fun _ _ => .same rfl rfl rfl rfl rfl rfl)
      simp only
      split
      · exact fired
      · exact (fired.emit _ rfl).ofRelaySide (Hub.relaySide_updateRestDispatch _ _)
          (.updateRestDispatch _ dispatch _ fun _ _ => .same rfl rfl rfl rfl rfl rfl)

/-! ## Outbound jobs -/

variable (requestId : RequestId)

theorem suspendHead
    (point : OutboundPoint) : Moves env leak origin (hub.suspendHead requestId point) :=
  moves.quiet rfl rfl rfl rfl

theorem finishHead :
    Moves env leak origin (hub.finishHead requestId) :=
  moves.quiet rfl rfl rfl rfl

theorem replayToWaiters (waiters : List SocketId) (owner : SocketId) (frame : Frame) :
    Moves env leak origin (hub.replayToWaiters waiters owner frame) := by
  unfold Hub.replayToWaiters
  refine moves.foldl _ _ fun current waiter moves => ?_
  split
  · exact moves
  · exact moves.emitToWaiter _ _

theorem fanOutIdempotentResponse
    (owner : SocketId) (key : Option (ConversationId × ClientRequestId)) (frame : Frame) :
    Moves env leak origin (hub.fanOutIdempotentResponse env requestId owner key frame) := by
  unfold Hub.fanOutIdempotentResponse
  split
  · exact moves
  · split
    · exact moves
    · split
      · exact moves
      · refine Moves.replayToWaiters ?_ _ _ _
        exact moves.quiet rfl rfl rfl rfl

theorem persistRelayIdempotentResponseFrame (owner : SocketId)
    (key : Option (ConversationId × ClientRequestId))
    (frame : Frame) :
    Moves env leak origin
      (hub.persistRelayIdempotentResponseFrame env requestId owner key frame) := by
  unfold Hub.persistRelayIdempotentResponseFrame
  split
  · exact moves
  · refine Moves.replayToWaiters ?_ _ _ _
    exact moves.quiet rfl rfl rfl rfl

theorem afterEmit (job : SendJob) (frame : Frame) (after : AfterEmit) :
    Moves env leak origin (hub.afterEmit env requestId job frame after) := by
  cases after with
  | nothing => exact moves
  | fanOut => exact moves.fanOutIdempotentResponse _ _ _ _
  | persist => exact moves.persistRelayIdempotentResponseFrame _ _ _ _
  | cleanup socketId => exact moves.cleanupRoute requestId socketId

theorem finallyDo
    (after : FinallyDo) : Moves env leak origin (hub.finallyDo env requestId after) := by
  cases after with
  | nothing => exact moves
  | cleanup socketId => exact moves.cleanupRoute requestId socketId

theorem runSend (job : SendJob)
    (point : Option OutboundPoint) (answers : OutboundAnswers) :
    Moves env leak origin (hub.runSend env requestId job point answers) := by
  unfold Hub.runSend
  split
  · exact moves.suspendHead _ _
  · split
    · exact ((((moves.emitToConsumer _ _ _).suspendHead _ _).afterEmit _ _ _ _).finallyDo _
        _).finishHead _
    · exact (moves.finallyDo _ _).finishHead _
  · exact moves.finishHead _

theorem endForward (job : ForwardJob) (forwarded : Bool) :
    Moves env leak origin (hub.endForward env requestId job forwarded) := by
  unfold Hub.endForward
  split
  · exact moves.finishHead _
  · exact (moves.cleanupRoute _ _).finishHead _

theorem runForward (job : ForwardJob)
    (point : Option OutboundPoint) (answers : OutboundAnswers) :
    Moves env leak origin (hub.runForward env requestId job point answers) := by
  unfold Hub.runForward
  split
  · exact moves.suspendHead _ _
  · split
    · exact ((((moves.emitToConsumer _ _ _).suspendHead _
        _).persistRelayIdempotentResponseFrame _ _ _ _).endForward _ _ _)
    · exact moves.suspendHead _ _
  · simp only
    split
    · exact ((moves.emitToConsumer _ _ _).suspendHead _ _).endForward _ _ _
    · exact moves.endForward _ _ _
  · exact moves.finishHead _

variable (context : DrainContext)

theorem endDrain (paused : Bool) :
    Moves env leak origin (hub.endDrain env requestId context paused) :=
  ((moves.setDrainScheduled _ _ _).afterDrainMaybeReschedule _ _ _).finishHead _

theorem afterDrainSegment (status : DrainStatus) :
    Moves env leak origin (hub.afterDrainSegment env requestId context status) := by
  cases status with
  | suspended point => exact moves.suspendHead _ _
  | finished result => exact moves.endDrain _ _ _
  | consumerGone result => exact (moves.finalizeRelayStreamOnConsumerGone _).endDrain _ _ _
  | completed result streamId => exact (moves.onDrainComplete _ _).endDrain _ _ _
  | rejected => exact moves.endDrain _ _ _

theorem runDrain (point : Option OutboundPoint) (answers : OutboundAnswers) :
    Moves env leak origin (hub.runDrain env requestId context point answers) := by
  unfold Hub.runDrain
  simp only
  split
  · refine Moves.afterDrainSegment ?_ _ _ _
    exact moves.quiet rfl rfl rfl rfl
  · split
    · refine Moves.afterDrainSegment ?_ _ _ _
      exact moves.quiet rfl rfl rfl rfl
    · refine Moves.afterDrainSegment ?_ _ _ _
      exact moves.quiet rfl rfl rfl rfl
  · exact moves.finishHead _

theorem runOutbound (answers : OutboundAnswers) :
    Moves env leak origin (hub.runOutbound env requestId answers) := by
  unfold Hub.runOutbound
  split
  · exact moves
  · split
    · exact moves.runSend _ _ _ _
    · exact moves.runForward _ _ _ _
    · exact moves.runDrain _ _ _ _
    · exact (moves.emitToWaiter _ _).finishHead _
    · unfold Hub.runWaitersError
      split
      · exact moves.suspendHead _ _
      · split
        · refine Moves.finishHead (moves.foldl _ _ fun current waiter moves => ?_) _
          exact moves.emitToWaiter _ _
        · exact moves.finishHead _

end

end Moves

/-! ## Steps -/

theorem Hub.Named.conversationStarts {hub : Hub} (named : hub.Named) {conversation : Conversation}
    (unused : conversation.conversationId ∉ hub.usedConversationIds) :
    { hub with
      conversations := hub.conversations.set conversation.conversationId conversation
      usedConversationIds := conversation.conversationId :: hub.usedConversationIds }.Named where
  dispatches := by
    intro requestId dispatch found
    obtain ⟨own, given, known⟩ := named.dispatches requestId dispatch found
    refine ⟨own, given, List.mem_cons_of_mem _ known.used, fun stored foundStored => ?_⟩
    rw [OrderedMap.get_set] at foundStored
    split at foundStored
    · next same => exact absurd (same ▸ known.used) unused
    · exact known.registered stored foundStored
  conversations := by
    intro conversationId stored found
    rw [OrderedMap.get_set] at found
    split at found
    · next same =>
      cases found
      exact ⟨same.symm, same ▸ List.mem_cons_self⟩
    · obtain ⟨own, used⟩ := named.conversations conversationId stored found
      exact ⟨own, List.mem_cons_of_mem _ used⟩

/-- Whether an action loses track of a materialization: a stream frame that cannot be used ends
one, or one is started over a stream that has none. -/
def leaksGauge (hub : Hub) : Action → Bool
  | .agentResponse socketId response _ => hub.materializesOver socketId response
  | .agentStreamFrameInvalid socketId _ frameRequestId _ =>
    hub.endsMaterialization socketId frameRequestId
  | .agentChunk socketId frame =>
    frame.columnar && frame.normalizationError.isSome &&
      hub.endsMaterialization socketId frame.frameRequestId
  | _ => false

/-- A step is a series of registry changes; the gauge may only leak where the action says so. -/
theorem step_moves (env : Env) {hub : Hub} (indexed : hub.streams.Indexed) (named : hub.Named)
    (action : Action) : Moves env (leaksGauge hub action = true) hub (step env hub action) := by
  have moves : Moves env (leaksGauge hub action = true) hub hub := .refl hub
  cases action with
  | tick ms | agentConnects socketId => exact moves.quiet rfl rfl rfl rfl
  | agentDisconnects socketId => exact moves.agentDisconnects socketId
  | consumerConnects socketId => exact moves.quiet rfl rfl rfl rfl
  | consumerDisconnects socketId => exact moves.consumerDisconnects socketId
  | consumerOverHardLimit socketId => exact moves.cleanupConsumerStreamSubscriptions socketId
  | conversationStarts conversation =>
    simp only [step, Hub.conversationStarts]
    split
    · exact moves
    · next unused =>
      exact ⟨moves.relay, moves.streams, fun earlier => earlier.conversationStarts unused,
        moves.rest⟩
  | conversationEnds conversationId =>
    exact moves.endConversationsWhere (·.conversationId = conversationId)
  | relayRequest input => exact moves.dispatchRelayRpcToAgent input named
  | relayDispatchResumes requestId emitOk => exact moves.resumeRelayDispatch named requestId emitOk
  | relayQueueWaitExpires requestId => exact moves.relayQueueWaitExpires requestId
  | relayTimeoutFires requestId => exact moves.relayTimeoutFires requestId
  | relayAckRetryFires requestId => exact moves.relayAckRetryFires requestId
  | streamTimeoutFires requestId timer => exact moves.relayStreamTimeoutFires requestId timer
  | backpressureRetryFires requestId => exact moves.backpressureRetryFires requestId
  | pullPrepared input => exact moves.prepareAgentStreamPull indexed input
  | pullExecuted pull => exact moves.executeStreamPull pull
  | command input => exact moves.dispatchRpcCommandToAgent input
  | restDispatchResumes dispatch encodeOk emitOk =>
    exact moves.resumeRestDispatch dispatch encodeOk emitOk
  | restQueueWaitExpires dispatch => exact moves.restQueueWaitExpires dispatch
  | restTimeoutFires dispatch => exact moves.restTimeoutFires dispatch
  | restAckRetryFires dispatch => exact moves.restAckRetryFires dispatch
  | restAborted dispatch => exact moves.abortRestDispatch dispatch
  | agentResponseInvalid socketId frameRequestId reason =>
    exact moves.failFastInvalidAgentResponseFrame socketId frameRequestId reason
  | agentResponseThrew socketId frameRequestId reason =>
    exact moves.failFastUnexpectedAgentResponseError socketId frameRequestId reason
  | agentResponse socketId response policy =>
    exact moves.handleAgentRpcResponse socketId response policy id
  | agentStreamFrameInvalid socketId eventName frameRequestId reason =>
    exact moves.failFastInvalidAgentStreamFrame eventName socketId frameRequestId reason id
  | agentChunk socketId frame =>
    refine moves.handleAgentRpcChunk indexed socketId frame fun columnar failed ends => ?_
    simp only [leaksGauge, columnar, failed, ends, Bool.and_self]
  | agentComplete socketId frame => exact moves.handleAgentRpcComplete socketId frame
  | agentAck socketId requestId => exact moves.handleAgentRpcAck socketId requestId
  | agentBatchAck socketId requestIds => exact moves.handleAgentBatchAck socketId requestIds
  | outboundRuns requestId answers => exact moves.runOutbound requestId answers
  | idempotencyPruned => exact moves.quiet rfl rfl rfl rfl

/-- The registries account for what they hold, and every suspended dispatch is named. -/
structure Accounted (env : Env) (hub : Hub) : Prop where
  relay : RelayRequestRegistry.Accounted env (hub.relay, hub.reservations)
  streams : hub.streams.Indexed
  named : hub.Named

theorem Accounted.moves {env : Env} {leak : Prop} {before after : Hub}
    (accounted : Accounted env before) (moves : Moves env leak before after) :
    Accounted env after where
  relay := accounted.relay.changes moves.relay
  streams := accounted.streams.changes moves.streams
  named := moves.named accounted.named

theorem Accounted.start (env : Env) : Accounted env start where
  relay := ⟨.empty, .empty env⟩
  streams := .empty
  named := ⟨(fun _ _ found => nomatch found), (fun _ _ found => nomatch found)⟩

theorem Accounted.after {env : Env} {hub : Hub} (accounted : Accounted env hub) (action : Action) :
    Accounted env (step env hub action) :=
  accounted.moves (step_moves env accounted.streams accounted.named action)

/-- The registries are accounted for in every reachable state. -/
theorem accounted_reached (env : Env) (actions : List Action) :
    Accounted env (reached env actions) :=
  run_invariant (step env) (fun _ action accounted => accounted.after action) (.start env) actions

end PlugHub.Bridge
