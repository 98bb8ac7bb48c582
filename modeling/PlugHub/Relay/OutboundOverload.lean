import PlugHub.Relay.OutboundChain

/-!
# Overload over whole runs

The overload the queue reports, compared with the history of the signal it names. Each action of
the queue evaluates both signals a number of times; the signals stay separate in a run exactly
when no evaluation finds one of them between its thresholds while only the other one made the
queue overloaded.
-/

namespace PlugHub.Relay

open Library

namespace OutboundChains

/-- The values an action evaluates the signals with, in order. -/
def evaluations (env : Env) (chains : OutboundChains) : Action → List (Nat × Nat)
  | .enqueue _ options _ =>
    if chains.refusal env options = none then
      [({ chains with jobsEnqueuedTotal := chains.jobsEnqueuedTotal + 1 }.deriveBacklog,
        chains.overload.cache.p95Ms)]
    else []
  | .start _ _ => []
  | .finish ref _ _ _ =>
    match chains.jobs.get ref with
    | none => []
    | some job =>
      if job.phase = .running then
        [({ chains with jobsFinishedTotal := chains.jobsFinishedTotal + 1 }.deriveBacklog,
          chains.overload.cache.p95Ms)]
      else []
  | .sweep nowMs =>
    [((chains.sweepRelayOutboundQueueState env nowMs).deriveBacklog,
      percentile chains.durationRing 95)]
  | .query nowMs =>
    let noted := chains.noteBacklog env
    (chains.deriveBacklog, chains.overload.cache.p95Ms) ::
      if noted.overload.cache.reason ≠ some .backlog ∧
          0 < env.socketRelayOutboundOverloadP95Ms ∧
          overloadStateMaxStaleMs ≤ nowMs - noted.overload.cache.computedAtMs then
        [(chains.deriveBacklog, percentile chains.durationRing 95)]
      else []
  | .snapshot _ => [(chains.deriveBacklog, percentile chains.durationRing 95)]
  | .admitWork _ => []

/-- An action takes one signal for the other. -/
def confuses (env : Env) (chains : OutboundChains) (action : Action) : Bool :=
  OverloadState.confusesAny env chains.overload (chains.evaluations env action)

variable (env : Env)

theorem overload_step (chains : OutboundChains) (action : Action) :
    (chains.step env action).overload.observed =
        (chains.overload.evaluateAll env (chains.evaluations env action)).observed ∧
      (chains.step env action).overload.cache.overloaded =
        (chains.overload.evaluateAll env (chains.evaluations env action)).cache.overloaded ∧
      (chains.step env action).overload.cache.reason =
        (chains.overload.evaluateAll env (chains.evaluations env action)).cache.reason := by
  cases action with
  | enqueue requestId options nowMs =>
    simp only [step, enqueueRelayOutbound, evaluations]
    cases refused : chains.refusal env options with
    | none => exact ⟨rfl, rfl, rfl⟩
    | some decision => cases decision <;> exact ⟨rfl, rfl, rfl⟩
  | start ref nowMs =>
    simp only [step, startJob, evaluations]
    split
    · exact ⟨rfl, rfl, rfl⟩
    · split <;> exact ⟨rfl, rfl, rfl⟩
  | finish ref failed duration nowMs =>
    simp only [step, finishJob, evaluations]
    cases chains.jobs.get ref with
    | none => exact ⟨rfl, rfl, rfl⟩
    | some job =>
      by_cases running : job.phase = .running
      · simp only [running, if_true]
        exact ⟨rfl, rfl, rfl⟩
      · simp only [running, if_false]
        exact ⟨rfl, rfl, rfl⟩
  | sweep nowMs => exact ⟨rfl, rfl, rfl⟩
  | query nowMs =>
    simp only [step, getRelayOutboundQueueOverloadState, evaluations]
    split <;> exact ⟨rfl, rfl, rfl⟩
  | snapshot nowMs => exact ⟨rfl, rfl, rfl⟩
  | admitWork consumerSocketId =>
    simp only [step, admitRelayOutboundConsumerWork, evaluations]
    cases chains.ledger.evaluateRelayOutboundByteBudget env consumerSocketId 0 <;>
      exact ⟨rfl, rfl, rfl⟩

theorem reports_congr {left right : OverloadState} (observed : left.observed = right.observed)
    (overloaded : left.cache.overloaded = right.cache.overloaded)
    (reason : left.cache.reason = right.cache.reason) (reports : right.Reports) : left.Reports := by
  unfold OverloadState.Reports at reports ⊢
  rw [observed, overloaded, reason]
  exact reports

theorem reports_step (chains : OutboundChains) (action : Action)
    (reports : chains.overload.Reports) : (chains.step env action).overload.Reports := by
  obtain ⟨observed, overloaded, reason⟩ := overload_step env chains action
  exact reports_congr observed overloaded reason
    (OverloadState.reports_evaluateAll env reports _)

/-- A signal reached its enter threshold at some evaluation and its exit threshold at every
evaluation since; values are newest first. -/
def Entered (thresholds : Thresholds) (values : List Nat) : Prop :=
  ∃ since value before, values = since ++ value :: before ∧ thresholds.enter ≤ value ∧
    ∀ later ∈ since, thresholds.exit ≤ later

/-- Every overload is the overload of its own signal. -/
structure PerSignal (env : Env) (overload : OverloadState) : Prop where
  backlog : overload.cache.reason = some .backlog →
    Entered (resolveBacklogThresholds env) (overload.observed.map (·.backlog))
  p95Latency : overload.cache.reason = some .p95Latency →
    Entered (resolveP95Thresholds env) (overload.observed.map (·.p95Ms))
  /-- What was observed as overloaded had entered its own thresholds. -/
  counted : ∀ since latest before, overload.observed = since ++ latest :: before →
    (latest.overloadedByBacklog = true →
      Entered (resolveBacklogThresholds env) ((latest :: before).map (·.backlog))) ∧
    (latest.overloadedByP95 = true →
      Entered (resolveP95Thresholds env) ((latest :: before).map (·.p95Ms)))

theorem separate_iff (observed : List Observation) :
    OverloadState.Separate env observed ↔
      ∀ since latest before, observed = since ++ latest :: before →
        (latest.overloadedByBacklog = true →
          Entered (resolveBacklogThresholds env) ((latest :: before).map (·.backlog))) ∧
        (latest.overloadedByP95 = true →
          Entered (resolveP95Thresholds env) ((latest :: before).map (·.p95Ms))) := by
  induction observed with
  | nil =>
    refine ⟨fun _ since latest before shape => ?_, fun _ => trivial⟩
    have impossible := congrArg List.length shape
    rw [List.length_append, List.length_cons, List.length_nil] at impossible
    omega
  | cons newest earlier ih =>
    simp only [OverloadState.Separate, OverloadState.latched_iff, ih]
    constructor
    · rintro ⟨byBacklog, byP95, rest⟩ since latest before shape
      cases since with
      | nil =>
        cases shape
        exact ⟨byBacklog, byP95⟩
      | cons head tail =>
        cases shape
        exact rest tail latest before rfl
    · intro every
      have own := every [] newest earlier rfl
      refine ⟨own.1, own.2, fun since latest before shape => ?_⟩
      exact every (newest :: since) latest before (by rw [shape]; rfl)

theorem perSignal_iff {overload : OverloadState} (reports : overload.Reports) :
    PerSignal env overload ↔ OverloadState.Separate env overload.observed := by
  rw [separate_iff]
  refine ⟨fun own => own.counted, fun counted => ⟨?_, ?_, counted⟩⟩
  · intro reported
    cases observed : overload.observed with
    | nil =>
      rw [OverloadState.Reports, observed] at reports
      rw [reports.2] at reported
      cases reported
    | cons latest before =>
      rw [OverloadState.Reports, observed] at reports
      exact (counted [] latest before observed).1 (reports.2.1.mp reported)
  · intro reported
    cases observed : overload.observed with
    | nil =>
      rw [OverloadState.Reports, observed] at reports
      rw [reports.2] at reported
      cases reported
    | cons latest before =>
      rw [OverloadState.Reports, observed] at reports
      exact (counted [] latest before observed).2 (reports.2.2.mp reported).2

theorem perSignal_step_iff (chains : OutboundChains) (action : Action)
    (reports : chains.overload.Reports) (own : PerSignal env chains.overload) :
    chains.confuses env action = false ↔ PerSignal env (chains.step env action).overload := by
  rw [perSignal_iff env (reports_step env chains action reports),
    (overload_step env chains action).1,
    OverloadState.separate_evaluateAll_iff]
  have separate := (perSignal_iff env reports).mp own
  exact ⟨fun clear => ⟨separate, clear⟩, fun both => both.2⟩

/-- The overload that is reported is that of its own signal in every state reached when no
evaluation takes one signal for the other, and only then. -/
theorem overload_per_signal (env : Env) (actions : List Action) :
    Meets (step env) (fun chains action => chains.confuses env action = false) {} actions ↔
      ∀ taken, taken <+: actions → PerSignal env (run (step env) {} taken).overload :=
  @meets_iff_every_state OutboundChains Action (step env)
    (fun chains action => chains.confuses env action = false)
    (fun chains => chains.overload.Reports)
    (fun chains => PerSignal env chains.overload)
    (fun chains action reports _ _ => reports_step env chains action reports)
    (fun chains action reports own => perSignal_step_iff env chains action reports own)
    {} ⟨rfl, rfl⟩ ⟨nofun, nofun, fun since latest before shape => by
      have impossible := congrArg List.length shape
      simp at impossible⟩ actions

/-- Both signals have an exit threshold below the enter threshold. -/
def hystereticEnv : Env :=
  { socketRelayOutboundOverloadBacklog := 4
    socketRelayOutboundOverloadBacklogExit := 2
    socketRelayOutboundOverloadP95Ms := 2
    socketRelayOutboundOverloadP95ExitMs := 1 }

/-- A slow job makes the queue overloaded, then two jobs are accepted. -/
def slowThenBusy : List Action :=
  [.enqueue "slow" {} 0, .start 0 0, .finish 0 false 300 3, .query 1000, .enqueue "first" {} 1001,
    .enqueue "second" {} 1002]

/-- The queue reports a backlog that never reached its enter threshold. -/
theorem backlog_reported_without_entering :
    let overload := (run (step hystereticEnv) {} slowThenBusy).overload
    overload.cache.reason = some .backlog ∧
      ¬ Entered (resolveBacklogThresholds hystereticEnv) (overload.observed.map (·.backlog)) := by
  intro overload
  refine ⟨by decide, ?_⟩
  unfold Entered
  rw [← OverloadState.latched_iff]
  decide

/-- A slow job alone. -/
def slowOnly : List Action :=
  [.enqueue "slow" {} 0, .start 0 0, .finish 0 false 300 3, .query 1000]

/-- It is reported as latency, which entered its overload. -/
theorem latency_reported_after_entering :
    let overload := (run (step hystereticEnv) {} slowOnly).overload
    overload.cache.reason = some .p95Latency ∧
      Entered (resolveP95Thresholds hystereticEnv) (overload.observed.map (·.p95Ms)) := by
  have own := (overload_per_signal hystereticEnv slowOnly).mp (by decide) slowOnly
    (List.prefix_refl _)
  have reported : (run (step hystereticEnv) {} slowOnly).overload.cache.reason = some .p95Latency := by
    decide
  exact ⟨reported, own.p95Latency reported⟩

end OutboundChains

end PlugHub.Relay
