import PlugHub.Bridge.CommandReplay

/-!
# Commands of different agents

Two states of the bridge that differ in the pending requests of other agents may decide
differently about a command: a pending request of another agent with one of its ids turns the
command away. The decisions agree exactly when the ids are taken elsewhere in both states or in
neither, or when something else decides.
-/

namespace PlugHub.Bridge

open Library Relay Registries

namespace Hub

/-! ## Who holds an id -/

/-- The pending request of an agent under an id. -/
def pendingHere (hub : Hub) (agentId : AgentId) (requestId : RequestId) : Option Nat :=
  (hub.getRestPendingRequestByCorrelationId requestId).filter fun dispatch =>
    (hub.restDispatches.get dispatch).any fun record => decide (record.agentId = agentId)

/-- A pending request of another agent holds an id. -/
def isPendingElsewhere (hub : Hub) (agentId : AgentId) (requestId : RequestId) : Bool :=
  (hub.getRestPendingRequestByCorrelationId requestId).any fun dispatch =>
    !(hub.restDispatches.get dispatch).any fun record => decide (record.agentId = agentId)

theorem isSome_pending (hub : Hub) (agentId : AgentId) (requestId : RequestId) :
    (hub.getRestPendingRequestByCorrelationId requestId).isSome =
      ((hub.pendingHere agentId requestId).isSome || hub.isPendingElsewhere agentId requestId) := by
  unfold pendingHere isPendingElsewhere
  cases hub.getRestPendingRequestByCorrelationId requestId with
  | none => rfl
  | some dispatch =>
    rw [Option.filter_some, Option.any_some]
    cases (hub.restDispatches.get dispatch).any fun record => decide (record.agentId = agentId) with
    | true => rfl
    | false => rfl

/-- A command has an id that the agent holds. -/
def heldHere (hub : Hub) (agentId : AgentId) (command : BridgeCommand) : Bool :=
  (toCorrelationIds command).any fun requestId => (hub.pendingHere agentId requestId).isSome

/-- A command has an id that another agent holds. -/
def heldElsewhere (hub : Hub) (agentId : AgentId) (command : BridgeCommand) : Bool :=
  (toCorrelationIds command).any (hub.isPendingElsewhere agentId)

/-- A command has the id of a stream or of a relay request. -/
def isRouted (hub : Hub) (command : BridgeCommand) : Bool :=
  (toCorrelationIds command).any fun requestId =>
    (hub.streams.getActiveStreamRouteByRequestId requestId).isSome ||
      hub.relay.hasRelayRequestRoute requestId

theorem any_pending (hub : Hub) (agentId : AgentId) (command : BridgeCommand) :
    ((toCorrelationIds command).any fun requestId =>
      (hub.getRestPendingRequestByCorrelationId requestId).isSome) =
      (hub.heldHere agentId command || hub.heldElsewhere agentId command) := by
  unfold heldHere heldElsewhere
  simp only [hub.isSome_pending agentId]
  induction toCorrelationIds command with
  | nil => rfl
  | cons requestId rest ih =>
    simp only [List.any_cons, ih]
    cases (hub.pendingHere agentId requestId).isSome <;>
      cases hub.isPendingElsewhere agentId requestId <;> simp

theorem all_free (hub : Hub) (agentId : AgentId) (command : BridgeCommand) :
    (toCorrelationIds command).all hub.isCorrelationIdFree =
      !(hub.heldHere agentId command || hub.heldElsewhere agentId command ||
        hub.isRouted command) := by
  rw [← hub.any_pending agentId]
  unfold isRouted
  induction toCorrelationIds command with
  | nil => rfl
  | cons requestId rest ih =>
    have free : hub.isCorrelationIdFree requestId =
        !((hub.getRestPendingRequestByCorrelationId requestId).isSome ||
          ((hub.streams.getActiveStreamRouteByRequestId requestId).isSome ||
            hub.relay.hasRelayRequestRoute requestId)) := by
      unfold isCorrelationIdFree getRestPendingRequestByCorrelationId
      cases hub.pendingByCorrelationId.get requestId <;>
        cases hub.streams.getActiveStreamRouteByRequestId requestId <;> rfl
    rw [List.all_cons, ih, free, List.any_cons, List.any_cons]
    cases (hub.getRestPendingRequestByCorrelationId requestId).isSome <;>
      cases ((hub.streams.getActiveStreamRouteByRequestId requestId).isSome ||
        hub.relay.hasRelayRequestRoute requestId) <;> simp

/-- The dispatch looks for a repetition in flight: a single command whose id has no blanks at its
ends. -/
def checksInFlight (command : BridgeCommand) : Bool :=
  (getSingleBridgeCommandReplayId command).any fun replayId =>
    decide (replayId.requestId ∈ toCorrelationIds command)

theorem inFlightReplay_eq (hub : Hub) (agentId : AgentId) (command : BridgeCommand) :
    hub.inFlightReplay command =
      if (checksInFlight command &&
          (hub.heldHere agentId command || hub.heldElsewhere agentId command)) = true then
        getSingleBridgeCommandReplayId command
      else none := by
  rw [← hub.any_pending agentId]
  unfold inFlightReplay checksInFlight
  cases named : getSingleBridgeCommandReplayId command with
  | none => rfl
  | some replayId =>
    rw [Option.any_some]
    cases command with
    | batch ids => cases named
    | single id =>
      rcases Option.eq_none_or_eq_some (toRequestId id) with unnamed | ⟨requestId, known⟩
      · simp only [toCorrelationIds, unnamed, Option.toList_none, List.any_nil, Bool.and_false]
      · simp only [toCorrelationIds, known, Option.toList_some, List.any_cons, List.any_nil,
          Bool.or_false, List.mem_singleton]

/-! ## The dispatch registers what it accepts -/

theorem pending_suspendRestAtSlot (env : Env) (hub : Hub) (dispatch : Nat) (input : CommandInput)
    (pendingRegistered : Bool) :
    (hub.suspendRestAtSlot env dispatch input pendingRegistered).pendingByCorrelationId =
      hub.pendingByCorrelationId := by
  have kept : (hub.acquireRestCapacity env dispatch input).1.pendingByCorrelationId =
      hub.pendingByCorrelationId := by
    unfold acquireRestCapacity
    split
    · split <;> rfl
    · split
      · rfl
      · split <;> rfl
  exact kept

/-- The bridge registers the ids of a command exactly when the dispatch accepts it. -/
theorem pending_dispatchRpcCommandToAgent (env : Env) (replays : ReplayGuard) (hub : Hub)
    (request : CommandRequest) {generated : RequestId}
    (fresh : generated ∉ toCorrelationIds request.command ++ hub.usedRequestIds) :
    (hub.dispatchRpcCommandToAgent env
        (hub.inputOf replays request generated)).pendingByCorrelationId =
      if hub.dispatchOutcome env replays request = .accepted then
        (toCorrelationIds request.command).foldl
          (fun pending requestId => pending.set requestId hub.nextRef) hub.pendingByCorrelationId
      else hub.pendingByCorrelationId := by
  unfold dispatchRpcCommandToAgent dispatchOutcome
  have unused : (hub.inputOf replays request generated).generatedRequestId ∉
      (hub.inputOf replays request generated).correlationIds ++ hub.usedRequestIds := fresh
  rw [if_neg unused]
  have connected : (hub.inputOf replays request generated).socketId = request.socketId := rfl
  have ids : (hub.inputOf replays request generated).correlationIds =
    toCorrelationIds request.command := rfl
  have admitted : (hub.inputOf replays request generated).admitted = (request.preflightOk &&
      (replays.getCompletedBridgeCommandReplay request.agentId request.command
        request.nowMs).isNone && (hub.inFlightReplay request.command).isNone) := rfl
  rw [connected, ids, admitted]
  by_cases refused : (!request.preflightOk) = true ∨
      (!hub.isAgentConnected request.socketId) = true
  · have stops : (!(request.preflightOk &&
        (replays.getCompletedBridgeCommandReplay request.agentId request.command
          request.nowMs).isNone && (hub.inFlightReplay request.command).isNone)) = true ∨
        (!hub.isAgentConnected request.socketId) = true := by
      refine refused.imp (fun failed => ?_) id
      rw [Bool.not_eq_true'] at failed
      rw [failed]
      rfl
    rw [if_pos stops, if_pos refused, if_neg nofun]
  · have passes : request.preflightOk = true := by
      by_contra failed
      exact refused (Or.inl (by simpa using failed))
    have there : hub.isAgentConnected request.socketId = true := by
      by_contra gone
      exact refused (Or.inr (by simpa using gone))
    rw [if_neg refused, passes, there]
    cases replays.getCompletedBridgeCommandReplay request.agentId request.command
        request.nowMs with
    | some replayId => simp
    | none =>
      cases hub.inFlightReplay request.command with
      | some replayId => simp
      | none =>
        simp only [Option.isNone_none, Bool.and_self, Bool.not_true, Bool.false_eq_true, or_self,
          if_false]
        by_cases silent : (toCorrelationIds request.command).isEmpty = true
        · rw [if_pos silent, if_pos silent, if_neg nofun, pending_suspendRestAtSlot]
        · rw [if_neg silent, if_neg silent]
          by_cases full : env.socketRestMaxPendingRequests ≤ hub.logicalPendingCount
          · rw [if_pos full, if_pos full, if_neg nofun]
            rfl
          · rw [if_neg full, if_neg full]
            by_cases free : (toCorrelationIds request.command).all hub.isCorrelationIdFree = true
            · rw [if_pos free, if_pos free, if_pos rfl, pending_suspendRestAtSlot]
            · rw [if_neg free, if_neg free, if_neg nofun]
              rfl

/-! ## Two states -/

/-- Two states that differ only in the pending requests of other agents than one. -/
structure SameFor (agentId : AgentId) (left right : Hub) : Prop where
  agentSockets : left.agentSockets = right.agentSockets
  streams : left.streams = right.streams
  relay : left.relay = right.relay
  own : ∀ requestId, left.pendingHere agentId requestId = right.pendingHere agentId requestId

/-- What a dispatch decides below the cap, by who holds its ids. -/
def outcomeBy (replays : ReplayGuard) (hub : Hub) (request : CommandRequest)
    (held routed : Bool) : DispatchOutcome :=
  if !request.preflightOk ∨ !hub.isAgentConnected request.socketId then .refused
  else
    match replays.getCompletedBridgeCommandReplay request.agentId request.command
        request.nowMs, getSingleBridgeCommandReplayId request.command with
    | some replayId, _ => .replayDetected replayId .completedWindow
    | none, replayId =>
      match (if (checksInFlight request.command && held) = true then replayId else none) with
      | some replayId => .replayDetected replayId .inFlight
      | none =>
        if (toCorrelationIds request.command).isEmpty then .notification
        else if held || routed then .alreadyPending
        else .accepted

theorem dispatchOutcome_eq (env : Env) (replays : ReplayGuard) (hub : Hub)
    (request : CommandRequest)
    (below : hub.logicalPendingCount < env.socketRestMaxPendingRequests) :
    hub.dispatchOutcome env replays request =
      hub.outcomeBy replays request
        (hub.heldHere request.agentId request.command ||
          hub.heldElsewhere request.agentId request.command) (hub.isRouted request.command) := by
  unfold dispatchOutcome outcomeBy
  rw [hub.inFlightReplay_eq request.agentId, hub.all_free request.agentId]
  by_cases refused : (!request.preflightOk) = true ∨
      (!hub.isAgentConnected request.socketId) = true
  · rw [if_pos refused, if_pos refused]
  · rw [if_neg refused, if_neg refused]
    cases replays.getCompletedBridgeCommandReplay request.agentId request.command
        request.nowMs with
    | some replayId => rfl
    | none =>
      dsimp only
      have room : ¬ env.socketRestMaxPendingRequests ≤ hub.logicalPendingCount := by omega
      rw [if_neg room]
      cases (hub.heldHere request.agentId request.command ||
        hub.heldElsewhere request.agentId request.command || hub.isRouted request.command) <;> rfl

/-- The outcome of a dispatch does not depend on the pending requests of other agents. -/
def decidedHere (replays : ReplayGuard) (hub : Hub) (request : CommandRequest) : Bool :=
  !request.preflightOk || !hub.isAgentConnected request.socketId ||
    (replays.getCompletedBridgeCommandReplay request.agentId request.command
      request.nowMs).isSome ||
    (toCorrelationIds request.command).isEmpty ||
    hub.heldHere request.agentId request.command ||
    (!checksInFlight request.command && hub.isRouted request.command)

theorem replayId_of_checksInFlight {command : BridgeCommand}
    (checks : checksInFlight command = true) :
    ∃ replayId, getSingleBridgeCommandReplayId command = some replayId := by
  unfold checksInFlight at checks
  cases named : getSingleBridgeCommandReplayId command with
  | none =>
    rw [named] at checks
    cases checks
  | some replayId => exact ⟨replayId, rfl⟩

/-- When the decisions about a command agree for two sets of held ids. -/
theorem outcomeBy_eq_iff (replays : ReplayGuard) (hub : Hub) (request : CommandRequest)
    (routed here left right : Bool) :
    hub.outcomeBy replays request (here || left) routed =
        hub.outcomeBy replays request (here || right) routed ↔
      (!request.preflightOk || !hub.isAgentConnected request.socketId ||
        (replays.getCompletedBridgeCommandReplay request.agentId request.command
          request.nowMs).isSome ||
        (toCorrelationIds request.command).isEmpty || here ||
        (!checksInFlight request.command && routed)) = true ∨ left = right := by
  unfold outcomeBy
  by_cases refused : (!request.preflightOk) = true ∨
      (!hub.isAgentConnected request.socketId) = true
  · rw [if_pos refused, if_pos refused]
    rw [← Bool.or_eq_true] at refused
    simp only [refused, Bool.true_or, true_or]
  · rw [if_neg refused, if_neg refused]
    rw [← Bool.or_eq_true, Bool.not_eq_true] at refused
    rw [refused, Bool.false_or]
    cases replays.getCompletedBridgeCommandReplay request.agentId request.command
        request.nowMs with
    | some replayId => simp only [Option.isSome_some, Bool.true_or, true_or]
    | none =>
      rw [Option.isSome_none, Bool.false_or]
      dsimp only
      cases here with
      | true => simp only [Bool.true_or, Bool.or_true, Bool.true_or, true_or]
      | false =>
        rw [Bool.false_or, Bool.false_or, Bool.or_false]
        cases checks : checksInFlight request.command with
        | true =>
          obtain ⟨replayId, named⟩ := replayId_of_checksInFlight checks
          have some : (toCorrelationIds request.command).isEmpty = false := by
            unfold checksInFlight at checks
            rw [named, Option.any_some, decide_eq_true_eq] at checks
            cases ids : toCorrelationIds request.command with
            | nil =>
              rw [ids] at checks
              cases checks
            | cons first rest => rfl
          rw [named, some]
          cases left <;> cases right <;> cases routed <;> simp
        | false =>
          simp only [Bool.false_and, Bool.false_eq_true, if_false, Bool.not_false, Bool.true_and]
          cases (toCorrelationIds request.command).isEmpty <;> cases left <;> cases right <;>
            cases routed <;> simp

theorem SameFor.outcomeBy {agentId : AgentId} {left right : Hub} (same : SameFor agentId left right)
    (replays : ReplayGuard) (request : CommandRequest) (held routed : Bool) :
    left.outcomeBy replays request held routed = right.outcomeBy replays request held routed := by
  unfold Hub.outcomeBy isAgentConnected
  rw [same.agentSockets]

/-- Two states that differ only in the pending requests of other agents decide alike about a
command for an agent, exactly when its ids are held by other agents in both states or in neither,
or when the outcome does not depend on them. -/
theorem rest_dispatch_isolated_iff (env : Env) (replays : ReplayGuard) (left right : Hub)
    (request : CommandRequest) (same : SameFor request.agentId left right)
    (leftBelow : left.logicalPendingCount < env.socketRestMaxPendingRequests)
    (rightBelow : right.logicalPendingCount < env.socketRestMaxPendingRequests) :
    left.dispatchOutcome env replays request = right.dispatchOutcome env replays request ↔
      left.decidedHere replays request = true ∨
        left.heldElsewhere request.agentId request.command =
          right.heldElsewhere request.agentId request.command := by
  have here : right.heldHere request.agentId request.command =
      left.heldHere request.agentId request.command := by
    unfold heldHere
    simp only [same.own]
  have routed : right.isRouted request.command = left.isRouted request.command := by
    unfold isRouted
    rw [same.streams, same.relay]
  rw [left.dispatchOutcome_eq env replays request leftBelow,
    right.dispatchOutcome_eq env replays request rightBelow, ← same.outcomeBy, here, routed]
  exact left.outcomeBy_eq_iff replays request _ _ _ _

end Hub

/-- Two agents are connected, and a command with an id was sent to the second. -/
def busyElsewhere : Hub :=
  reached {} [.agentConnects "socket-1", .agentConnects "socket-2",
    .command
      { agentId := "agent-2", socketId := "socket-2", generatedRequestId := "generated-1",
        correlationIds := ["order-1"] }]

/-- The same without the command. -/
def idleElsewhere : Hub := reached {} [.agentConnects "socket-1", .agentConnects "socket-2"]

/-- A command with the same id for the first agent. -/
def sameIdHere : CommandRequest :=
  { agentId := "agent-1", socketId := "socket-1", command := .single (some (.text "order-1")) }

/-- A command with another id for the first agent. -/
def otherIdHere : CommandRequest :=
  { agentId := "agent-1", socketId := "socket-1", command := .single (some (.text "order-2")) }

theorem busyElsewhere_sameFor : Hub.SameFor "agent-1" busyElsewhere idleElsewhere where
  agentSockets := rfl
  streams := rfl
  relay := rfl
  own := by
    intro requestId
    have none : idleElsewhere.pendingHere "agent-1" requestId = none := rfl
    rw [none]
    unfold Hub.pendingHere
    cases found : busyElsewhere.getRestPendingRequestByCorrelationId requestId with
    | none => rfl
    | some dispatch =>
      have first : dispatch = 0 := by
        have pending : busyElsewhere.pendingByCorrelationId = OrderedMap.empty.set "order-1" 0 := rfl
        unfold Hub.getRestPendingRequestByCorrelationId at found
        rw [pending, OrderedMap.get_set] at found
        split at found
        · exact (Option.some.inj found).symm
        · cases found
      rw [first]
      rfl

/-- A command with another id is decided alike in both states. -/
theorem other_id_decided_alike :
    busyElsewhere.dispatchOutcome {} .empty otherIdHere =
      idleElsewhere.dispatchOutcome {} .empty otherIdHere :=
  (Hub.rest_dispatch_isolated_iff {} .empty busyElsewhere idleElsewhere otherIdHere
    busyElsewhere_sameFor (by decide) (by decide)).mpr (Or.inr (by decide))

/-- A command whose id is in flight on another agent is answered as a repetition. -/
theorem same_id_taken_for_repetition :
    ¬ ∀ (left right : Hub) (request : CommandRequest), Hub.SameFor request.agentId left right →
      left.logicalPendingCount < ({} : Env).socketRestMaxPendingRequests →
      right.logicalPendingCount < ({} : Env).socketRestMaxPendingRequests →
      left.dispatchOutcome {} .empty request = right.dispatchOutcome {} .empty request := by
  intro alike
  have equal := alike busyElsewhere idleElsewhere sameIdHere busyElsewhere_sameFor (by decide)
    (by decide)
  revert equal
  decide

end PlugHub.Bridge
