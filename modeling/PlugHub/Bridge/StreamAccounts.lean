import PlugHub.Bridge.StepMoves

/-!
# Active streams over whole runs

In every reached state the indexes of the active stream registry are those of the
registered streams, and the open-stream counter counts the streams of each agent socket.
The gauge of materializations follows the registered streams as long as no step loses
track of one.
-/

namespace PlugHub.Bridge

open Library Relay Registries

/-- The registries are accounted for and the gauge counts the materializations in progress. -/
structure Metered (env : Env) (hub : Hub) : Prop extends Accounted env hub where
  metered : hub.streams.Metered

theorem Metered.after {env : Env} {hub : Hub} (metered : Metered env hub) {action : Action}
    (tight : leaksGauge hub action = false) : Metered env (step env hub action) where
  toAccounted := metered.toAccounted.after action
  metered := by
    have moves := step_moves env metered.streams metered.named action
    exact metered.metered.changes (by simp [tight]) metered.streams moves.streams

theorem metered_zero {registry : ActiveStreamRegistry} (metered : registry.Metered)
    (none : registry.getActiveStreamRouteCount = 0) :
    registry.restMaterializeStreamsInFlight = 0 := by
  have shown : registry.materializingCount ≤ registry.getActiveStreamRouteCount :=
    List.countP_le_length
  rw [metered]
  omega

/-- The registry is indexed in every reached state. Its gauge counts the materializations in
progress after every run without a step that loses track of one, and is zero when no stream
is registered. -/
theorem active_streams_accounted (env : Env) (actions : List Action) :
    (reached env actions).streams.Indexed ∧
      (Meets (step env) (fun hub action => leaksGauge hub action = false) start actions →
        (reached env actions).streams.restMaterializeStreamsInFlight =
            (reached env actions).streams.materializingCount ∧
          ((reached env actions).streams.getActiveStreamRouteCount = 0 →
            (reached env actions).streams.restMaterializeStreamsInFlight = 0)) := by
  refine ⟨(accounted_reached env actions).streams, fun tight => ?_⟩
  have initially : Metered env start := ⟨.start env, rfl⟩
  have kept : Metered env (reached env actions) :=
    run_invariant_of_meets (step env) (fun _ _ metered tight => metered.after tight) initially tight
  exact ⟨kept.metered, metered_zero kept.metered⟩

/-- A REST command whose stream the hub collects. -/
def materializing : List Action :=
  [.agentConnects "agent-socket",
    .command
      { agentId := "agent"
        socketId := "agent-socket"
        generatedRequestId := "generated-1"
        correlationIds := ["rest-1"]
        isSqlExecute := true },
    .restDispatchResumes 0 true true,
    .restDispatchResumes 0 true true,
    .agentResponse "agent-socket"
      { frameRequestId := some "rest-1", responseIds := ["rest-1"], streamId := some "stream-1" }
      {}]

/-- After such a command one materialization is in flight and one stream carries it. -/
theorem active_streams_accounted_materializing :
    Meets (step {}) (fun hub action => leaksGauge hub action = false) start materializing ∧
      (reached {} materializing).streams.restMaterializeStreamsInFlight = 1 ∧
      (reached {} materializing).streams.materializingCount = 1 := by
  have tight : Meets (step {}) (fun hub action => leaksGauge hub action = false) start
      materializing := by decide +kernel
  have counted := ((active_streams_accounted {} materializing).2 tight).1
  have inFlight : (reached {} materializing).streams.restMaterializeStreamsInFlight = 1 := by
    decide +kernel
  exact ⟨tight, inFlight, counted ▸ inFlight⟩

/-- A relay request whose response opens a stream. -/
def streaming : List Action :=
  [.agentConnects "agent-socket", .consumerConnects "consumer-socket",
    .conversationStarts
      { conversationId := "conversation"
        consumerSocketId := "consumer-socket"
        agentSocketId := "agent-socket"
        agentId := "agent" },
    .relayRequest
      { conversationId := "conversation"
        consumerSocketId := "consumer-socket"
        command := { method := "sql.execute", clientRequestId := some "client-1" }
        requestId := "request-1" },
    .relayDispatchResumes "request-1" true,
    .relayDispatchResumes "request-1" true,
    .agentResponse "agent-socket"
      { frameRequestId := some "request-1"
        responseIds := ["request-1"]
        streamId := some "stream-1" } {}]

/-- The open-stream counter does not count the streams of consumers: one registered stream of the
consumer has a stream id, and the counter holds nothing for it. -/
theorem open_streams_not_counted_for_consumers :
    (reached {} streaming).streams.activeStreamsByRequestId.count
        (fun _ route => route.consumerSocketId = "consumer-socket" ∧ route.streamId.isSome) = 1 ∧
      (reached {} streaming).streams.openStreamCountByAgentSocketId.read "consumer-socket" = 0 := by
  decide +kernel

end PlugHub.Bridge
