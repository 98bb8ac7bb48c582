import PlugHub.Bridge.Moves

/-!
# What the steps do to the registries

The handlers of the bridge, one after the other, as series of registry changes, up to the
step function. The gauge of materializations is kept except where a stream frame that
cannot be used ends a materialization, and where a materialization finds a stream
registered under its request id.
-/

namespace PlugHub.Bridge

open Library Relay Registries

namespace Moves

variable {env : Env} {leak : Prop} {origin hub : Hub}

theorem foldl {α : Type} (moves : Moves env leak origin hub) (items : List α) (turn : Hub → α → Hub)
    (each : ∀ current item, Moves env leak origin current →
      Moves env leak origin (turn current item)) :
    Moves env leak origin (items.foldl turn hub) := by
  induction items generalizing hub with
  | nil => exact moves
  | cons item rest ih => exact ih (each hub item moves)

/-! ## Relay streams -/

section

variable (moves : Moves env leak origin hub)

include moves

variable (requestId : RequestId) (context : DrainContext)

theorem setDrainScheduled (scheduled : Bool) :
    Moves env leak origin (hub.setDrainScheduled requestId context scheduled) := by
  unfold Hub.setDrainScheduled
  split <;> exact moves.quiet rfl rfl rfl rfl

theorem abortForHardByteLimit :
    Moves env leak origin (hub.abortForHardByteLimit env requestId context) := by
  have detached := ((moves.clearRelayStreamFlowState requestId).removeStreamOf requestId
    .abort).removeRelayRequestRoute requestId
  simp only [Hub.abortForHardByteLimit]
  split
  · exact detached
  · exact detached.enqueue _ _ _

theorem enqueueDrain (priority : JobPriority) :
    Moves env leak origin (hub.enqueueDrain env requestId context priority) := by
  have queued := (moves.setDrainScheduled requestId context true).enqueueRelayOutbound requestId
    (.drain context) (hub.drainOptions requestId context priority)
  simp only [Hub.enqueueDrain]
  split
  · exact queued
  · exact (queued.setDrainScheduled requestId context false).abortForHardByteLimit requestId
      context

theorem scheduleRelayStreamDrain :
    Moves env leak origin (hub.scheduleRelayStreamDrain env requestId context) := by
  unfold Hub.scheduleRelayStreamDrain
  split
  · exact moves
  · simp only
    split
    · split
      · exact moves.enqueueDrain requestId context .control
      · exact moves
    · exact moves.enqueueDrain requestId context .normal

theorem clearBackpressureRetryTimer :
    Moves env leak origin (hub.clearBackpressureRetryTimer requestId) :=
  moves.quiet rfl rfl rfl rfl

theorem afterDrainMaybeReschedule (paused : Bool) :
    Moves env leak origin (hub.afterDrainMaybeReschedule env requestId context paused) := by
  unfold Hub.afterDrainMaybeReschedule
  split
  · exact moves.clearBackpressureRetryTimer requestId
  · simp only
    split
    · unfold Hub.scheduleBackpressureRetry
      split
      · exact moves
      · exact moves.quiet rfl rfl rfl rfl
    · split
      · exact (moves.clearBackpressureRetryTimer requestId).scheduleRelayStreamDrain requestId
          context
      · exact moves

theorem backpressureRetryFires :
    Moves env leak origin (hub.backpressureRetryFires env requestId) := by
  unfold Hub.backpressureRetryFires
  split
  · exact moves
  · simp only
    split
    · exact (moves.clearBackpressureRetryTimer requestId).scheduleRelayStreamDrain requestId _
    · exact moves.clearBackpressureRetryTimer requestId

theorem finalizeRelayStreamOnConsumerGone :
    Moves env leak origin (hub.finalizeRelayStreamOnConsumerGone env requestId) := by
  have cleared := moves.clearBackpressureRetryTimer requestId
  simp only [Hub.finalizeRelayStreamOnConsumerGone]
  split
  · exact (((cleared.settleRelayRoute requestId).removeRelayRequestRoute requestId).removeStreamOf
      requestId .abort).clearRelayStreamFlowState requestId
  · exact (cleared.removeStreamOf requestId .abort).clearRelayStreamFlowState requestId

theorem onDrainComplete :
    Moves env leak origin (hub.onDrainComplete env requestId context) := by
  simp only [Hub.onDrainComplete]
  split
  · exact (moves.removeRelayRequestRoute requestId).removeStreamOf requestId .abort
  · exact ((moves.clearBackpressureRetryTimer requestId).removeRelayRequestRoute
      requestId).removeStreamOf requestId .abort

variable (closure : Nat)

theorem updateClosure (change : RelayHandlerClosure → RelayHandlerClosure) :
    Moves env leak origin (hub.updateClosure requestId closure change) :=
  moves.quiet rfl rfl rfl rfl

theorem emitRelayTerminalComplete (terminalStatus : String) (payload : Option StreamPayload)
    (errorCode : Option String) :
    Moves env leak origin (hub.emitRelayTerminalComplete env requestId closure terminalStatus
      payload errorCode) := by
  unfold Hub.emitRelayTerminalComplete
  split
  · exact moves
  · split
    · exact moves
    · exact (((moves.updateClosure requestId closure _).removeRelayRequestRoute
        requestId).removeStreamOf requestId .abort).enqueue _ _ _

theorem relayStreamTimeoutFires (timer : Hub.StreamTimer) :
    Moves env leak origin (hub.relayStreamTimeoutFires env requestId timer) := by
  unfold Hub.relayStreamTimeoutFires
  split
  · exact moves
  · cases timer with
    | idle | lifetime =>
      simp only
      split
      · refine Moves.emitRelayTerminalComplete ?_ _ _ _ _ _
        exact moves.quiet rfl rfl rfl rfl
      · exact moves

theorem relayOnChunk
    (payload : StreamPayload) (payloadBytes : Nat) (rawForward : Option RelayChunkRawForward) :
    Moves env leak origin (hub.relayOnChunk env requestId closure payload payloadBytes
      rawForward) := by
  have touched := moves.touchRelayStreamTimeout requestId
  unfold Hub.relayOnChunk
  split
  · exact moves
  · split
    · exact moves
    · simp only
      split
      · exact touched.emitRelayTerminalComplete _ _ _ _ _
      · split
        · exact touched.emitRelayTerminalComplete _ _ _ _ _
        · refine Moves.scheduleRelayStreamDrain ?_ _ _
          exact touched.quiet rfl rfl rfl rfl

theorem relayOnComplete (payload : StreamPayload) (rawForward : Option RelayChunkRawForward) :
    Moves env leak origin (hub.relayOnComplete env requestId closure payload rawForward) := by
  unfold Hub.relayOnComplete
  split
  · exact moves
  · refine Moves.scheduleRelayStreamDrain ?_ _ _
    exact moves.quiet rfl rfl rfl rfl

theorem cleanupMissingAgentSocketRoute {requestId : RequestId} {route : ActiveStreamRoute}
    (found : hub.streams.getActiveStreamRouteByRequestId requestId = some route) :
    Moves env leak origin (hub.cleanupMissingAgentSocketRoute env route) := by
  unfold Hub.cleanupMissingAgentSocketRoute
  split
  · have kept : (hub.removeRelayRequestRoute env
        route.requestId).streams.getActiveStreamRouteByRequestId requestId = some route := by
      rw [Hub.streams_removeRelayRequestRoute]
      exact found
    exact ((moves.removeRelayRequestRoute route.requestId).removeActiveStreamRoute kept
      .detach).enqueue _ _ _
  · exact moves.removeActiveStreamRoute found .abort

end

end Moves

theorem Hub.findPulledRoute_registered {hub : Hub} (indexed : hub.streams.Indexed)
    {input : Hub.PullInput} {route : ActiveStreamRoute} {streamId : StreamId}
    (found : hub.findPulledRoute input = some (route, streamId)) :
    hub.streams.getActiveStreamRouteByRequestId route.requestId = some route := by
  have byStreamId : ∀ stream,
      input.streamId.bind hub.streams.getActiveStreamRouteByStreamId = some stream →
        hub.streams.getActiveStreamRouteByRequestId stream.requestId = some stream := by
    intro stream named
    obtain ⟨_, -, owned⟩ := Option.bind_eq_some_iff.mp named
    exact (indexed.getActiveStreamRouteByStreamId_eq.mp owned).1
  have byRequestId : ∀ stream,
      input.requestId.bind hub.streams.getActiveStreamRouteByRequestId = some stream →
        hub.streams.getActiveStreamRouteByRequestId stream.requestId = some stream := by
    intro stream named
    obtain ⟨requestId, -, stored⟩ := Option.bind_eq_some_iff.mp named
    rw [indexed.keyed _ _ stored]
    exact stored
  simp only [Hub.findPulledRoute] at found
  split at found
  · cases found
  · obtain ⟨stream, named, rest⟩ := Option.bind_eq_some_iff.mp found
    have registered : hub.streams.getActiveStreamRouteByRequestId stream.requestId =
        some stream := by
      cases left : input.streamId.bind hub.streams.getActiveStreamRouteByStreamId with
      | some owner =>
        rw [left] at named
        cases named
        exact byStreamId _ left
      | none =>
        rw [left] at named
        exact byRequestId stream named
    split at rest
    · cases rest
    · split at rest
      · cases rest
      · obtain ⟨_, -, paired⟩ := Option.bind_eq_some_iff.mp rest
        cases paired
        exact registered

namespace Moves

variable {env : Env} {leak : Prop} {origin hub : Hub}

section

variable (moves : Moves env leak origin hub)

include moves

theorem prepareAgentStreamPull (indexed : hub.streams.Indexed) (input : Hub.PullInput) :
    Moves env leak origin (hub.prepareAgentStreamPull env input) := by
  unfold Hub.prepareAgentStreamPull
  split
  · exact moves
  · next found =>
    split
    · exact (moves.advance 1).quiet rfl rfl rfl rfl
    · exact moves.cleanupMissingAgentSocketRoute (Hub.findPulledRoute_registered indexed found)

theorem executeStreamPull (pull : Nat) :
    Moves env leak origin (hub.executeStreamPull env pull) := by
  unfold Hub.executeStreamPull
  split
  · exact moves
  · simp only
    split
    · exact moves.quiet rfl rfl rfl rfl
    · refine Moves.scheduleRelayStreamDrain ?_ _ _
      exact moves.quiet rfl rfl rfl rfl

/-! ## Responses -/

variable (socketId : SocketId) (route : RelayRequestRoute) (requestId : RequestId)

theorem relayTimeoutFires :
    Moves env leak origin (hub.relayTimeoutFires env requestId) := by
  unfold Hub.relayTimeoutFires
  split
  · exact moves
  · split
    · exact moves
    · split
      · exact moves.updateRelayRoute requestId _ fun _ => ⟨rfl, rfl, rfl, rfl⟩
      · have claimed := moves.updateRelayRoute requestId
          ({ · with timeoutArmed := false, settled := true, timedOut := true })
          fun _ => ⟨rfl, rfl, rfl, rfl⟩
        exact ((claimed.removeRelayRequestRoute requestId).removeStreamOf requestId
          .abort).enqueue _ _ _

theorem failFastPendingRequest (message : String) :
    Moves env leak origin (hub.failFastPendingRequest socketId requestId message) := by
  unfold Hub.failFastPendingRequest
  split
  · exact moves
  · next dispatch _ =>
    split
    · exact moves
    · next record found =>
      split
      · have cleared := moves.clearRegistered found
        exact (cleared.removeStreamOfAgent record.primaryRequestId socketId .detach).rejectRest _ _
      · exact moves

theorem failFastRelayRoute (body : RelayRequestRoute → FrameBody) :
    Moves env leak origin (hub.failFastRelayRoute env socketId requestId body) := by
  unfold Hub.failFastRelayRoute
  split
  · exact moves
  · split
    · exact moves
    · split
      · exact moves
      · exact (moves.settleRelayRoute requestId).enqueue _ _ _

theorem failFastUnexpectedAgentResponseError (frameRequestId : Option RequestId) (reason : String) :
    Moves env leak origin
      (hub.failFastUnexpectedAgentResponseError env socketId frameRequestId reason) := by
  unfold Hub.failFastUnexpectedAgentResponseError
  split
  · exact moves
  · exact (moves.failFastPendingRequest socketId _ _).failFastRelayRoute socketId _ _

theorem failFastInvalidAgentResponseFrame (frameRequestId : Option RequestId) (reason : String) :
    Moves env leak origin
      (hub.failFastInvalidAgentResponseFrame env socketId frameRequestId reason) := by
  unfold Hub.failFastInvalidAgentResponseFrame
  split
  · exact moves
  · exact (moves.failFastPendingRequest socketId _ _).failFastRelayRoute socketId _ _

theorem emitRelayTerminalFailure (stream : ActiveStreamRoute) (socketId : SocketId) :
    Moves env leak origin (hub.emitRelayTerminalFailure env stream socketId) := by
  unfold Hub.emitRelayTerminalFailure
  split
  · exact moves
  · split
    · exact moves
    · exact moves.enqueue _ _ _

theorem rejectRelayBatchResponse (candidateIds : List RequestId) :
    Moves env leak origin (hub.rejectRelayBatchResponse env socketId candidateIds).1 := by
  unfold Hub.rejectRelayBatchResponse
  refine moves.foldl _ _ fun current requestId moves => ?_
  unfold Hub.rejectRelayBatchResponse.reject
  split
  · exact moves
  · split
    · exact moves
    · split
      · exact moves
      · exact (moves.updateRelayRoute requestId ({ · with settled := true, timeoutArmed := false })
          fun _ => ⟨rfl, rfl, rfl, rfl⟩).enqueue _ _ _

theorem upsertPlain {offered : ActiveStreamRoute} {streams : ActiveStreamRegistry}
    (upserted : hub.streams.upsertActiveStreamRoute offered = .ok streams)
    (plain : offered.restMaterializeState = none) :
    Moves env leak origin { hub with streams := streams } := by
  refine moves.streamChange (.upsert upserted ?_ (Or.inr ?_)) rfl rfl (.same rfl)
  · intro state named
    rw [plain] at named
    cases named
  · intro existing _ named
    rw [plain] at named
    cases named

theorem openRelayStream (socketId : SocketId) (streamId : StreamId) :
    Moves env leak origin (hub.openRelayStream env route socketId streamId).1 := by
  have created : Moves env leak origin
      ({ hub with nextRef := hub.nextRef + 2 }.createRelayStreamHandlers route hub.nextRef) :=
    (moves.advance 2).quiet rfl rfl rfl rfl
  simp only [Hub.openRelayStream]
  split
  · exact created
  · next upserted =>
    have opened := (created.upsertPlain upserted rfl).releaseAgentDispatchSlot route.requestId
      route
    exact opened.quiet rfl rfl rfl rfl

theorem claimAndForward
    (socketId : SocketId) (response : Hub.AgentResponse) :
    Moves env leak origin (hub.claimAndForward env route socketId response) := by
  have claimed := moves.settleRelayRoute route.requestId
  simp only [Hub.claimAndForward]
  split
  · exact claimed.enqueueRelayOutbound _ _ _
  · exact ((claimed.enqueueRelayOutbound _ _ _).cleanupRoute route.requestId socketId).enqueue _ _ _

theorem rejectForStreamCapacity
    (socketId : SocketId) (response : Hub.AgentResponse) (exceeded : Bool) (limit : Nat) :
    Moves env leak origin
      (hub.rejectForStreamCapacity env route socketId response exceeded limit) :=
  (moves.settleRelayRoute route.requestId).enqueue _ _ _

theorem forwardRelayRouteResponse
    (candidateIds : List RequestId) (response : Hub.AgentResponse) (policy : Hub.ResponsePolicy) :
    Moves env leak origin
      (hub.forwardRelayRouteResponse env socketId candidateIds response policy).1 := by
  unfold Hub.forwardRelayRouteResponse
  split
  · exact moves
  · next route _ =>
    split
    · exact moves
    · have disarmed := moves.updateRelayRoute route.requestId ({ · with timeoutArmed := false })
        fun _ => ⟨rfl, rfl, rfl, rfl⟩
      simp only
      split
      · exact disarmed.claimAndForward route socketId response
      · next streamId _ =>
        split
        · exact disarmed.rejectForStreamCapacity route socketId response _ _
        · have opened := disarmed.openRelayStream route socketId streamId
          split
          · next failed error same =>
            rw [same] at opened
            exact opened
          · next started same =>
            rw [same] at opened
            exact opened.claimAndForward route socketId response

theorem emitRelayAgentDisconnectedUnary :
    Moves env leak origin (hub.emitRelayAgentDisconnectedUnary env route).1 := by
  unfold Hub.emitRelayAgentDisconnectedUnary
  split
  · exact moves
  · have claimed := moves.updateRelayRoute route.requestId
      ({ · with settled := true, timeoutArmed := false, ackRetryArmed := false })
      fun _ => ⟨rfl, rfl, rfl, rfl⟩
    simp only
    exact (claimed.removeRelayRequestRoute route.requestId).enqueue _ _ _

theorem emitRelayAgentDisconnectedStream (stream : ActiveStreamRoute) :
    Moves env leak origin (hub.emitRelayAgentDisconnectedStream env route stream) :=
  ((moves.removeRelayRequestRoute route.requestId).removeStreamOf route.requestId .abort).enqueue
    _ _ _

/-! ## Disconnects and the end of conversations -/

theorem removeStreamAndRoute {requestId : RequestId} {route : ActiveStreamRoute}
    (found : hub.streams.getActiveStreamRouteByRequestId requestId = some route) :
    Moves env leak origin (hub.removeStreamAndRoute env route) := by
  unfold Hub.removeStreamAndRoute
  cases route.mode with
  | relay =>
    have kept : (hub.removeRelayRequestRoute env
        route.requestId).streams.getActiveStreamRouteByRequestId requestId = some route := by
      rw [Hub.streams_removeRelayRequestRoute]
      exact found
    exact (moves.removeRelayRequestRoute route.requestId).removeActiveStreamRoute kept .abort
  | legacy => exact moves.removeActiveStreamRoute found .abort

theorem removeStreamsWhere
    (keep : RequestId → ActiveStreamRoute → Bool) (requestIds : List RequestId) :
    Moves env leak origin (hub.removeStreamsWhere env keep requestIds) := by
  unfold Hub.removeStreamsWhere
  refine moves.foldl _ _ fun current requestId moves => ?_
  split
  · exact moves
  · next found =>
    split
    · exact moves
    · exact moves.removeStreamAndRoute found

theorem removeRelayRoutes (requestIds : List RequestId) :
    Moves env leak origin (hub.removeRelayRoutes env requestIds) := by
  unfold Hub.removeRelayRoutes
  exact moves.foldl _ _ fun current requestId moves => moves.removeRelayRequestRoute requestId

theorem cleanupConsumerStreamSubscriptions (consumerSocketId : SocketId) :
    Moves env leak origin (hub.cleanupConsumerStreamSubscriptions env consumerSocketId) := by
  simp only [Hub.cleanupConsumerStreamSubscriptions]
  exact (moves.removeStreamsWhere _ _).removeRelayRoutes _

theorem cleanupConversationStreamSubscriptions (conversationId : ConversationId) :
    Moves env leak origin (hub.cleanupConversationStreamSubscriptions env conversationId) := by
  have cleaned := (moves.removeStreamsWhere (fun _ _ => false)
    (hub.streams.listActiveStreamRequestIdsForConversation conversationId)).removeRelayRoutes
    (((hub.removeStreamsWhere env (fun _ _ => false)
      (hub.streams.listActiveStreamRequestIdsForConversation
        conversationId)).relay.listRelayRequestIdsForConversation conversationId))
  exact cleaned.quiet rfl rfl rfl rfl

variable (agentSocketId : SocketId)

theorem notifyConsumersForAgentRelayDisconnect :
    Moves env leak origin (hub.notifyConsumersForAgentRelayDisconnect env agentSocketId).1 := by
  -- the loops carry the requests they told beside the hub
  have folded : ∀ (turn : Hub × List RequestId → RequestId → Hub × List RequestId)
      (each : ∀ current requestId, Moves env leak origin current.1 →
        Moves env leak origin (turn current requestId).1)
      (requestIds : List RequestId) (start : Hub × List RequestId),
      Moves env leak origin start.1 → Moves env leak origin (requestIds.foldl turn start).1 := by
    intro turn each requestIds
    induction requestIds with
    | nil => exact fun _ moves => moves
    | cons requestId rest ih => exact fun start moves => ih _ (each start requestId moves)
  unfold Hub.notifyConsumersForAgentRelayDisconnect
  refine folded _ ?_ _ _ (folded _ ?_ _ _ moves)
  · intro current requestId moves
    unfold Hub.notifyConsumersForAgentRelayDisconnect.answer
    split
    · exact moves
    · split
      · exact moves
      · split
        · exact moves.emitRelayAgentDisconnectedUnary _
        · exact moves
  · intro current requestId moves
    unfold Hub.notifyConsumersForAgentRelayDisconnect.endStream
    split
    · split
      · exact moves.emitRelayAgentDisconnectedStream _ _
      · exact moves
    · exact moves

theorem cleanupAgentStreamSubscriptions :
    Moves env leak origin (hub.cleanupAgentStreamSubscriptions env agentSocketId) := by
  have notified := moves.notifyConsumersForAgentRelayDisconnect agentSocketId
  unfold Hub.cleanupAgentStreamSubscriptions
  refine (notified.removeStreamsWhere _ _).foldl _ _ fun current requestId moves => ?_
  split
  · exact moves
  · split
    · exact moves.removeRelayRequestRoute requestId
    · exact moves

theorem cleanupPendingRequestsForAgentSocket :
    Moves env leak origin (hub.cleanupPendingRequestsForAgentSocket agentSocketId) := by
  unfold Hub.cleanupPendingRequestsForAgentSocket
  refine moves.foldl _ _ fun current dispatch moves => ?_
  split
  · exact moves
  · next record found =>
    split
    · have cleared := moves.clearRegistered found
      exact (cleared.removeStreamOfAgent record.primaryRequestId agentSocketId .abort).rejectRest
        _ _
    · exact moves

theorem abortRelayDispatch (dispatch : RelayDispatch) :
    Moves env leak origin (hub.abortRelayDispatch requestId dispatch) := by
  have kept (stored : RelayDispatch) (point : RelayDispatchPoint)
      (refused : point = .slotRefused ∧ stored.point = .waitingSlot ∨ point = stored.point) :
      RelayDispatch.reservation { stored with aborted := true, point } = stored.reservation := by
    rcases refused with ⟨rfl, waits⟩ | rfl
    · simp [RelayDispatch.reservation, waits]
    · rfl
  simp only [Hub.abortRelayDispatch]
  split
  · refine (moves.modifyDispatch requestId _ (fun stored => kept stored _ ?_) (fun _ => rfl)
      fun _ => rfl).quiet rfl rfl rfl rfl
    cases point : stored.point <;> simp
  · refine moves.modifyDispatch requestId _ (fun stored => kept stored _ ?_) (fun _ => rfl)
      fun _ => rfl
    cases point : stored.point <;> simp

end

/-- The signal of a REST dispatch is raised; a waiter is refused its slot. -/
private def raise (stored : RestDispatch) : RestDispatch :=
  { stored with
    aborted := true
    point := match stored.point with
      | .waitingSlot => .slotRefused
      | point => point }

section

variable (moves : Moves env leak origin hub)

include moves

theorem abortRestDispatch (dispatch : Nat) :
    Moves env leak origin (hub.abortRestDispatch dispatch) := by
  unfold Hub.abortRestDispatch
  split
  · exact moves
  · next record found =>
    have started : Moves env leak origin (match record.point with
        | .waitingSlot =>
          { hub.updateRestDispatch dispatch raise with
            restQueue := hub.restQueue.removeQueuedWaiter record.agentId dispatch }
        | _ => hub.updateRestDispatch dispatch raise) := by
      split
      · next waiting =>
        refine moves.ofRelaySide rfl (.leave hub found waiting raise ?_)
        simp only [raise, waiting]
      · refine moves.ofRelaySide rfl (.updateRestDispatch hub dispatch raise
          fun stored present => ?_)
        obtain rfl : record = stored := Option.some.inj (found.symm.trans present)
        refine .same rfl rfl rfl rfl rfl ?_
        simp only [raise]
    simp only
    split
    · exact started
    · have cleared := started.clearPendingRegistration dispatch
      exact (cleared.removeStreamOfAgent record.primaryRequestId record.socketId
        .detach).rejectRest _ _

theorem abortPendingConsumerCommands (consumerSocketId : SocketId) :
    Moves env leak origin (hub.abortPendingConsumerCommands consumerSocketId) := by
  simp only [Hub.abortPendingConsumerCommands]
  refine Moves.foldl (moves.foldl _ _ fun current entry moves => ?_) _ _
    fun current entry moves => ?_
  · split
    · exact moves.abortRelayDispatch _ _
    · exact moves
  · split
    · exact moves.abortRestDispatch _
    · exact moves

theorem endConversationsWhere (ends : Conversation → Bool) :
    Moves env leak origin (hub.endConversationsWhere env ends) := by
  simp only [Hub.endConversationsWhere, Hub.cleanupConversations]
  refine Moves.foldl ?_ _ _ fun current conversationId moves =>
    moves.cleanupConversationStreamSubscriptions conversationId
  exact ⟨moves.relay, moves.streams, fun earlier => (moves.named earlier).forget _, moves.rest⟩

theorem consumerDisconnects (consumerSocketId : SocketId) :
    Moves env leak origin (hub.consumerDisconnects env consumerSocketId) := by
  have removed : Moves env leak origin { hub with
      consumerSockets := hub.consumerSockets.filter (· ≠ consumerSocketId) } :=
    moves.quiet rfl rfl rfl rfl
  have cleaned := (removed.abortPendingConsumerCommands
    consumerSocketId).cleanupConsumerStreamSubscriptions consumerSocketId
  simp only [Hub.consumerDisconnects]
  refine Moves.endConversationsWhere ?_ _
  exact cleaned.quiet rfl rfl rfl rfl

theorem agentDisconnects (agentSocketId : SocketId) :
    Moves env leak origin (hub.agentDisconnects env agentSocketId) := by
  have removed : Moves env leak origin { hub with
      agentSockets := hub.agentSockets.filter (· ≠ agentSocketId) } :=
    moves.quiet rfl rfl rfl rfl
  have cleaned := (removed.cleanupPendingRequestsForAgentSocket
    agentSocketId).cleanupAgentStreamSubscriptions agentSocketId
  simp only [Hub.agentDisconnects]
  exact cleaned.endConversationsWhere _

end

end Moves

/-! ## Frames of agents -/

namespace Hub

/-- Whether a stream frame that cannot be used would end a materialization. -/
def endsMaterialization (hub : Hub) (socketId : SocketId) (frameRequestId : Option RequestId) :
    Bool :=
  match frameRequestId.bind hub.streams.getActiveStreamRouteByRequestId with
  | none => false
  | some route => decide (route.agentSocketId = socketId) && route.materializing

/-- Whether a response would start a materialization over a stream that has none. -/
def materializesOver (hub : Hub) (socketId : SocketId) (response : AgentResponse) : Bool :=
  match hub.findRestPendingRequestByIds socketId (candidateIdsOf response) with
  | none => false
  | some (_, record) =>
    match hub.streams.getActiveStreamRouteByRequestId record.primaryRequestId with
    | none => false
    | some existing =>
      record.restStreamAggregate && response.streamId.isSome &&
        existing.restMaterializeState.isNone

theorem endsMaterialization_resolved {hub : Hub} (indexed : hub.streams.Indexed)
    {socketId : SocketId} {streamId : Option StreamId} {requestId : Option RequestId}
    {route : ActiveStreamRoute} {streams : ActiveStreamRegistry}
    (resolves : hub.streams.resolveActiveStreamRoute socketId streamId requestId =
      some (route, streams)) (owner : SocketId) (frameRequestId : Option RequestId) :
    { hub with streams := streams }.endsMaterialization owner frameRequestId =
      hub.endsMaterialization owner frameRequestId := by
  obtain ⟨stored, found, -, ⟨-, rfl⟩ | ⟨learned, -, -, -, -, rfl⟩⟩ := indexed.resolve_cases resolves
  · rfl
  · cases frameRequestId with
    | none => rfl
    | some frameId =>
      simp only [endsMaterialization, Option.bind_some,
        ActiveStreamRegistry.getActiveStreamRouteByRequestId,
        ActiveStreamRegistry.assignStreamId, OrderedMap.get_modify]
      by_cases same : frameId = stored.requestId
      · subst same
        simp only [if_true, found, Option.map_some]
        rfl
      · simp only [same, if_false]

end Hub

namespace Moves

variable {env : Env} {leak : Prop} {origin hub : Hub}

section

variable (moves : Moves env leak origin hub)

include moves

theorem emitRpcStreamPullForRoute {requestId : RequestId} {route : ActiveStreamRoute}
    (found : hub.streams.getActiveStreamRouteByRequestId requestId = some route)
    (windowSize : Nat) :
    Moves env leak origin (hub.emitRpcStreamPullForRoute env route windowSize) := by
  unfold Hub.emitRpcStreamPullForRoute
  split
  · exact moves
  · split
    · simp only
      split
      · exact (moves.emit _ rfl).touchRelayStreamTimeout _
      · exact moves.emit _ rfl
    · exact moves.cleanupMissingAgentSocketRoute found

theorem startRestStreamMaterialization (socketId : SocketId)
    (dispatch : Nat) (record : RestDispatch) (response : Hub.AgentResponse) (streamId : StreamId)
    (policy : Hub.ResponsePolicy)
    (stored : hub.restDispatches.get dispatch = some record)
    (kept : leak ∨ ∀ existing,
      hub.streams.getActiveStreamRouteByRequestId record.primaryRequestId = some existing →
        existing.restMaterializeState.isSome) :
    Moves env leak origin (hub.startRestStreamMaterialization env socketId dispatch record response
      streamId policy).1 := by
  unfold Hub.startRestStreamMaterialization
  split
  · exact moves.failPendingRequest stored _
  · split
    · exact moves.failPendingRequest stored _
    · simp only
      split
      · exact moves
      · next streams upserted =>
        have registered : Moves env leak origin { hub with streams := streams } := by
          refine moves.streamChange (.upsert upserted ?_ ?_) rfl rfl (.same rfl)
          · rintro state ⟨⟩
            rfl
          · exact kept.imp id fun kept existing stored _ => kept existing stored
        have opened : Moves env leak origin { hub with
            nextRef := hub.nextRef + 1
            streams := streams
            materializations := hub.materializations.set dispatch
              { aggregatedRowCount := response.rowCount
                aggregatedByteCount :=
                  if 0 < env.socketRestSqlStreamMaterializeMaxBytes then response.originalSize
                  else 0 } } :=
          (registered.advance 1).quiet rfl rfl rfl rfl
        have cleared := opened.ofRelaySide (Hub.relaySide_clearRestPendingRequest dispatch record)
          (.clearRestPendingRequest _ stored rfl)
        have begun := cleared.ofRelaySide (Hub.relaySide_releaseRestSlot dispatch)
          (.releaseRestSlot _ dispatch)
        split
        · exact begun
        · next found =>
          exact (begun.emitRpcStreamPullForRoute found policy.pullWindow).quiet rfl rfl rfl rfl

theorem admitNormalizedChunk (dispatch : Nat) (requestId : RequestId) (chunkRows chunkBytes : Nat) :
    Moves env leak origin
      (hub.admitNormalizedChunk env dispatch requestId chunkRows chunkBytes).1 := by
  unfold Hub.admitNormalizedChunk
  simp only
  split
  · exact moves
  · exact (moves.removeStreamOf requestId .detach).rejectRest _ _

theorem materializeOnChunk (dispatch : Nat)
    (requestId : RequestId) (chunkRows chunkBytes pullWindow : Nat) :
    Moves env leak origin
      (hub.materializeOnChunk env dispatch requestId chunkRows chunkBytes pullWindow) := by
  have admits := moves.admitNormalizedChunk dispatch requestId chunkRows chunkBytes
  unfold Hub.materializeOnChunk
  split
  · next same =>
    rw [same] at admits
    exact admits
  · next admitted same =>
    rw [same] at admits
    have counted : Moves env leak origin
        (admitted.countMaterializedChunk env dispatch chunkRows chunkBytes) :=
      admits.quiet rfl rfl rfl rfl
    simp only
    split
    · split
      · exact counted.quiet rfl rfl rfl rfl
      · next found =>
        exact (counted.emitRpcStreamPullForRoute found pullWindow).quiet rfl rfl rfl rfl
    · exact counted.quiet rfl rfl rfl rfl

theorem materializeOnComplete (dispatch : Nat)
    (requestId : RequestId) (mergeError : Option String) :
    Moves env leak origin (hub.materializeOnComplete dispatch requestId mergeError) := by
  have settled : Moves env leak origin
      (match hub.streams.getActiveStreamRouteByRequestId requestId with
        | none => hub.clearRestTimeout dispatch
        | some route => hub.settleRestMaterializeSuccess route) := by
    split
    · exact moves.clearRestTimeout dispatch
    · next route found =>
      have side : (hub.settleRestMaterializeSuccess route).relaySide = _ :=
        Hub.relaySide_settleRestMaterializeSuccess route
      have relay := congrArg Hub.relay side
      have streams := congrArg Hub.streams side
      have names := congrArg Hub.relayNames side
      refine moves.streamChange ?_ relay names (.settleRestMaterializeSuccess hub route)
      have change : ActiveStreamRegistry.Change leak hub.streams
          (hub.streams.settleRestMaterialize route) := .settle found
      exact streams ▸ change
  unfold Hub.materializeOnComplete
  simp only
  split
  · exact settled.resolveRest _
  · exact settled.rejectRest _ _

theorem openCommandStream (socketId : SocketId)
    (dispatch : Nat) (record : RestDispatch) (consumerSocketId : SocketId)
    (streamId : Option StreamId) (policy : Hub.ResponsePolicy)
    (stored : hub.restDispatches.get dispatch = some record) :
    Moves env leak origin
      (hub.openCommandStream socketId dispatch record consumerSocketId streamId policy).1 := by
  unfold Hub.openCommandStream
  split
  · exact moves.removeStreamOfAgent _ _ _
  · split
    · exact moves.failPendingRequest stored _
    · split
      · exact moves
      · next upserted => exact (moves.upsertPlain upserted rfl).advance 1

end

theorem outline_openCommandStream (socketId : SocketId) (dispatch : Nat) (record : RestDispatch)
    (consumerSocketId : SocketId) (streamId : Option StreamId) (policy : Hub.ResponsePolicy)
    {opened : Hub} (same : hub.openCommandStream socketId dispatch record consumerSocketId streamId
      policy = (opened, none, false)) (other : Nat) :
    RestMoves.outline opened other = RestMoves.outline hub other := by
  unfold Hub.openCommandStream at same
  split at same
  · cases same
    exact RestMoves.outline_removeStreamOfAgent hub _ _ _ other
  · split at same
    · cases same
    · split at same
      · cases same
      · cases same
        rfl

theorem findRestPendingRequestByIds_stored {socketId : SocketId} {ids : List RequestId}
    {dispatch : Nat} {record : RestDispatch}
    (found : hub.findRestPendingRequestByIds socketId ids = some (dispatch, record)) :
    hub.restDispatches.get dispatch = some record := by
  have listed := List.mem_of_find?_eq_some found
  obtain ⟨requestId, -, pending⟩ := List.mem_filterMap.mp listed
  obtain ⟨registered, -, paired⟩ := Option.bind_eq_some_iff.mp pending
  obtain ⟨stored, present, same⟩ := Option.map_eq_some_iff.mp paired
  cases same
  exact present

section

variable (moves : Moves env leak origin hub)

include moves

variable (socketId : SocketId)

theorem answerPendingRequest
    (dispatch : Nat) (record : RestDispatch) (response : Hub.AgentResponse)
    (policy : Hub.ResponsePolicy) (stored : hub.restDispatches.get dispatch = some record)
    (kept : leak ∨ (record.restStreamAggregate = true → response.streamId.isSome → ∀ existing,
      hub.streams.getActiveStreamRouteByRequestId record.primaryRequestId = some existing →
        existing.restMaterializeState.isSome)) :
    Moves env leak origin
      (hub.answerPendingRequest env socketId dispatch record response policy).1 := by
  unfold Hub.answerPendingRequest
  split
  · next streamId named aggregate =>
    simp only
    refine moves.startRestStreamMaterialization _ _ _ _ _ _ stored (kept.imp id fun kept => ?_)
    exact kept aggregate (by rw [named]; rfl)
  · split
    · exact moves.resolvePendingRequest stored rfl
    · next consumerSocketId _ =>
      have opened := moves.openCommandStream socketId dispatch record consumerSocketId
        response.streamId policy stored
      split
      · next same => rw [same] at opened; exact opened
      · next same => rw [same] at opened; exact opened
      · next same =>
        rw [same] at opened
        obtain ⟨later, present, ids⟩ := RestMoves.ids_of_outline
          (outline_openCommandStream _ _ _ _ _ _ same dispatch) stored
        exact opened.resolvePendingRequest present ids

theorem answerRelayRoutes
    (candidateIds : List RequestId) (response : Hub.AgentResponse) (policy : Hub.ResponsePolicy) :
    Moves env leak origin
      (hub.answerRelayRoutes env socketId candidateIds response policy).1 := by
  unfold Hub.answerRelayRoutes
  split
  · have rejected := moves.rejectRelayBatchResponse socketId candidateIds
    split
    · next same => rw [same] at rejected; exact rejected
    · next same =>
      rw [same] at rejected
      exact rejected.forwardRelayRouteResponse socketId candidateIds response policy
  · exact moves.forwardRelayRouteResponse socketId candidateIds response policy

theorem answerRestRequest
    (response : Hub.AgentResponse) (policy : Hub.ResponsePolicy)
    (kept : hub.materializesOver socketId response = true → leak) :
    Moves env leak origin (hub.answerRestRequest env socketId response policy).1 := by
  unfold Hub.answerRestRequest
  split
  · exact moves
  · next dispatch record found =>
    refine moves.answerPendingRequest socketId dispatch record response policy
      (findRestPendingRequestByIds_stored found) ?_
    by_cases leaks : leak
    · exact Or.inl leaks
    · refine Or.inr fun aggregate named existing stored => ?_
      have tight := mt kept leaks
      simp only [Hub.materializesOver, found, aggregate, named, stored] at tight
      simpa [Option.isSome_iff_ne_none] using tight

theorem handleAgentRpcResponse
    (response : Hub.AgentResponse) (policy : Hub.ResponsePolicy)
    (kept : hub.materializesOver socketId response = true → leak) :
    Moves env leak origin (hub.handleAgentRpcResponse env socketId response policy) := by
  have answered : Moves env leak origin (hub.answerResponse env socketId response policy).1 := by
    have first := moves.answerRestRequest socketId response policy kept
    unfold Hub.answerResponse
    split
    · next same => rw [same] at first; exact first
    · next same => rw [same] at first; exact first
    · next same => rw [same] at first; exact first.answerRelayRoutes _ _ _ _
  unfold Hub.handleAgentRpcResponse
  split
  · exact moves
  · split
    · exact moves.failFastInvalidAgentResponseFrame _ _ _
    · split
      · next same => rw [same] at answered; exact answered
      · next same =>
        rw [same] at answered
        exact answered.failFastUnexpectedAgentResponseError _ _ _

theorem legacyOnComplete (route : ActiveStreamRoute) (mergeError : Option String) :
    Moves env leak origin (hub.legacyOnComplete route mergeError) := by
  unfold Hub.legacyOnComplete
  split
  · exact moves.materializeOnComplete _ _ _
  · exact moves

theorem failFastInvalidAgentStreamFrame (eventName : String)
    (socketId : SocketId) (frameRequestId : Option RequestId) (reason : String)
    (kept : hub.endsMaterialization socketId frameRequestId = true → leak) :
    Moves env leak origin
      (hub.failFastInvalidAgentStreamFrame env eventName socketId frameRequestId reason) := by
  unfold Hub.failFastInvalidAgentStreamFrame
  split
  · exact moves
  · next route found =>
    split
    · exact moves
    · next owned =>
      split
      · next state _ materializing =>
        have leaks : leak := kept (by
          simp only [Hub.endsMaterialization, found, materializing, Bool.and_true]
          simpa using owned)
        have marked : Moves env leak origin (hub.markMaterializeSettled route.requestId) :=
          moves.streamChange (.mark leaks route.requestId) rfl rfl (.same rfl)
        have cleared := marked.clearRestTimeout state.dispatch
        exact (cleared.removeStreamOf route.requestId .detach).rejectRest _ _
      · exact moves.emitRelayTerminalFailure _ _
      · exact (moves.legacyOnComplete _ _).removeStreamOf _ _

theorem onChunk (route : ActiveStreamRoute)
    (frame : Hub.AgentStreamFrame) : Moves env leak origin (hub.onChunk env route frame) := by
  unfold Hub.onChunk
  split
  · exact moves.relayOnChunk _ _ _ _ _
  · exact moves.materializeOnChunk _ _ _ _ _
  · exact moves

theorem admitColumnar (route : ActiveStreamRoute) (frame : Hub.AgentStreamFrame) :
    Moves env leak origin (hub.admitColumnar env route frame).1 := by
  unfold Hub.admitColumnar
  split
  · exact moves.admitNormalizedChunk _ _ _ _
  · exact moves

theorem handleAgentRpcChunk (indexed : hub.streams.Indexed)
    (socketId : SocketId) (frame : Hub.AgentStreamFrame)
    (kept : frame.columnar = true → frame.normalizationError.isSome →
      hub.endsMaterialization socketId frame.frameRequestId = true → leak) :
    Moves env leak origin (hub.handleAgentRpcChunk env socketId frame) := by
  unfold Hub.handleAgentRpcChunk
  split
  · exact moves
  · next route streams resolves =>
    have resolved : Moves env leak origin { hub with streams := streams } :=
      moves.streamChange (.resolve resolves) rfl rfl (.same rfl)
    simp only
    split
    · next columnar =>
      split
      · next reason failed =>
        refine resolved.failFastInvalidAgentStreamFrame _ _ _ _ fun ends => ?_
        refine kept columnar (by rw [failed]; rfl) ?_
        rw [← ends]
        exact (Hub.endsMaterialization_resolved indexed resolves _ _).symm
      · have admitted := resolved.admitColumnar route frame
        split
        · next same => rw [same] at admitted; exact admitted
        · next same => rw [same] at admitted; exact admitted.onChunk route frame
    · exact resolved.onChunk route frame

theorem handleAgentRpcComplete (frame : Hub.AgentStreamFrame) :
    Moves env leak origin (hub.handleAgentRpcComplete env socketId frame) := by
  unfold Hub.handleAgentRpcComplete
  split
  · exact moves
  · next route streams resolves =>
    have resolved : Moves env leak origin { hub with streams := streams } :=
      moves.streamChange (.resolve resolves) rfl rfl (.same rfl)
    simp only
    split
    · exact resolved.relayOnComplete _ _ _ _
    · exact (resolved.legacyOnComplete _ _).removeStreamOf _ _

theorem acknowledgeRelay (requestId : RequestId) :
    Moves env leak origin (hub.acknowledgeRelay socketId requestId).1 := by
  unfold Hub.acknowledgeRelay
  split
  · exact moves
  · split
    · exact moves.updateRelayRoute requestId _ fun _ => ⟨rfl, rfl, rfl, rfl⟩
    · exact moves

theorem acknowledge (requestId : RequestId) :
    Moves env leak origin
      ((hub.acknowledgeRest socketId requestId).acknowledgeRelay socketId requestId).1 :=
  (moves.ofRelaySide (Hub.relaySide_acknowledgeRest socketId requestId)
    (.acknowledgeRest hub socketId requestId)).acknowledgeRelay socketId requestId

theorem handleAgentRpcAck (requestId : RequestId) :
    Moves env leak origin (hub.handleAgentRpcAck env socketId requestId) := by
  have acknowledged := moves.acknowledge socketId requestId
  unfold Hub.handleAgentRpcAck
  split
  · next same => rw [same] at acknowledged; exact acknowledged
  · next same => rw [same] at acknowledged; exact acknowledged.enqueue _ _ _

theorem handleAgentBatchAck (requestIds : List RequestId) :
    Moves env leak origin (hub.handleAgentBatchAck env socketId requestIds) := by
  have folded : ∀ (requestIds : List RequestId)
      (start : Hub × OrderedMap SocketId (List RequestId)), Moves env leak origin start.1 →
      Moves env leak origin
        (requestIds.foldl (Hub.handleAgentBatchAck.acknowledge socketId) start).1 := by
    intro requestIds
    induction requestIds with
    | nil => exact fun _ moves => moves
    | cons requestId rest ih =>
      refine fun start moves => ih _ ?_
      have acknowledged := moves.acknowledge socketId requestId
      unfold Hub.handleAgentBatchAck.acknowledge
      split
      · next same => rw [same] at acknowledged; exact acknowledged
      · next same => rw [same] at acknowledged; exact acknowledged
  unfold Hub.handleAgentBatchAck
  split
  · exact moves
  · simp only
    refine (folded _ (hub, .empty) moves).foldl _ _ fun current group moves => ?_
    split
    · exact moves
    · exact moves.enqueue _ _ _

end

end Moves

end PlugHub.Bridge
