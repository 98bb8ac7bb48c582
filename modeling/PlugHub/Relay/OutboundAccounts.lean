import PlugHub.Relay.OutboundOrder

/-!
# Accounts of the outbound queue

The pending bytes, the backlog and the request ids of the consumers, compared with the accepted
jobs that did not finish. Bytes and backlog are exact in every run. The request ids are exact as
long as no job ends that is the last one of its request with its consumer while other jobs of the
request go on: the id is withdrawn by the job that leaves the tail object idle, and only from the
consumer of that job.
-/

namespace PlugHub.Relay

open Library
open OutboundQueue

namespace OutboundChains

/-- The bytes an unfinished job holds. -/
def heldBytes (job : ChainedJob) : Nat :=
  if job.phase = .finished then 0 else job.pendingBytes

/-- The bytes an unfinished job holds of a consumer. -/
def heldOf (consumer : SocketId) (job : ChainedJob) : Nat :=
  if job.phase = .finished then 0
  else chargedTo job.consumerSocketId job.pendingBytes consumer

/-- An unfinished job. -/
def isUnfinished (_ref : Nat) (job : ChainedJob) : Bool := decide (job.phase ≠ .finished)

/-- An unfinished job of a request that was enqueued with a consumer. -/
def isCharged (consumer : SocketId) (requestId : RequestId) (ref : Nat) (job : ChainedJob) : Bool :=
  isPending requestId ref job && decide (job.consumerSocketId = some consumer)

/-- The bytes and the backlog are those of the unfinished jobs. -/
structure Charged (chains : OutboundChains) : Prop where
  bytes : chains.ledger.pendingBytes = chains.jobs.total heldBytes
  consumerBytes : ∀ consumer,
    chains.ledger.pendingBytesByConsumer.read consumer = chains.jobs.total (heldOf consumer)
  unfinished : chains.jobsEnqueuedTotal = chains.jobsFinishedTotal + chains.jobs.count isUnfinished
  swept : chains.jobsSweptOrphanedTotal = 0

/-- The request ids of a consumer are those of its unfinished jobs. -/
def Tracked (chains : OutboundChains) : Prop :=
  ∀ consumer requestId, requestId ∈ chains.ledger.requestIdsByConsumer.members consumer ↔
    0 < chains.jobs.count (isCharged consumer requestId)

variable {chains : OutboundChains}

theorem Charged.deriveBacklog (charged : Charged chains) :
    chains.deriveBacklog = chains.jobs.count isUnfinished := by
  rw [OutboundChains.deriveBacklog, charged.unfinished, charged.swept]
  omega

theorem count_isCharged_pos_iff (consumer : SocketId) (requestId : RequestId) :
    0 < chains.jobs.count (isCharged consumer requestId) ↔
      ∃ ref job, chains.jobs.get ref = some job ∧ job.requestId = requestId ∧
        job.phase ≠ .finished ∧ job.consumerSocketId = some consumer := by
  constructor
  · intro positive
    by_contra none
    have zero : chains.jobs.count (isCharged consumer requestId) = 0 := by
      rw [OrderedMap.count_eq_zero_iff]
      intro ref job present
      by_contra passes
      have holds : isCharged consumer requestId ref job = true := by simpa using passes
      simp only [isCharged, isPending, Bool.and_eq_true, decide_eq_true_eq] at holds
      exact none ⟨ref, job, present, holds.1.1, holds.1.2, holds.2⟩
    omega
  · rintro ⟨ref, job, present, owner, unfinished, place⟩
    refine chains.jobs.count_pos present ?_
    simp only [isCharged, isPending, owner, unfinished, place, ne_eq, not_false_eq_true,
      decide_true, Bool.and_true]

theorem Charged.carry (charged : Charged chains) {next : OutboundChains}
    (jobs : next.jobs = chains.jobs) (ledger : next.ledger = chains.ledger)
    (enqueued : next.jobsEnqueuedTotal = chains.jobsEnqueuedTotal)
    (finished : next.jobsFinishedTotal = chains.jobsFinishedTotal)
    (swept : next.jobsSweptOrphanedTotal = chains.jobsSweptOrphanedTotal) : Charged next where
  bytes := by rw [jobs, ledger]; exact charged.bytes
  consumerBytes := by rw [jobs, ledger]; exact charged.consumerBytes
  unfinished := by rw [jobs, enqueued, finished]; exact charged.unfinished
  swept := by rw [swept]; exact charged.swept

/-! ## A job is accepted -/

/-- The job an enqueue call adds. -/
def accepted (chains : OutboundChains) (requestId : RequestId) (options : EnqueueOptions)
    (nowMs : Nat) : ChainedJob :=
  { requestId := requestId
    consumerSocketId := options.consumerSocketId
    pendingBytes := options.pendingBytes
    entry := (chains.tailFor requestId nowMs).1
    prev := (chains.tailFor requestId nowMs).2.tail }

theorem jobs_accept (env : Env) (requestId : RequestId) (options : EnqueueOptions) (nowMs : Nat) :
    (chains.accept env requestId options nowMs).jobs =
      chains.jobs.set chains.nextJob (chains.accepted requestId options nowMs) := rfl

theorem ledger_accept (env : Env) (requestId : RequestId) (options : EnqueueOptions)
    (nowMs : Nat) :
    (chains.accept env requestId options nowMs).ledger =
      (chains.ledger.addPendingBytes options.consumerSocketId options.pendingBytes).trackRequestId
        options.consumerSocketId requestId := rfl

theorem Charged.accept (charged : Charged chains) (chained : Chained chains) (env : Env)
    (requestId : RequestId) (options : EnqueueOptions) (nowMs : Nat) :
    Charged (chains.accept env requestId options nowMs) where
  bytes := by
    rw [jobs_accept, ledger_accept, (pendingBytes_trackRequestId _ _ _).1,
      pendingBytes_addPendingBytes, charged.bytes]
    rw [chains.jobs.total_set_of_absent _ _ chained.fresh]
    rfl
  consumerBytes := by
    intro consumer
    rw [jobs_accept, ledger_accept, (pendingBytes_trackRequestId _ _ _).2,
      read_addPendingBytes, charged.consumerBytes]
    rw [chains.jobs.total_set_of_absent _ _ chained.fresh]
    rfl
  unfinished := by
    show chains.jobsEnqueuedTotal + 1 = chains.jobsFinishedTotal +
      (chains.accept env requestId options nowMs).jobs.count isUnfinished
    rw [jobs_accept, chains.jobs.count_set_of_absent _ _ chained.fresh, charged.unfinished]
    rfl
  swept := charged.swept

theorem Tracked.accept (tracked : Tracked chains) (chained : Chained chains) (env : Env)
    (requestId : RequestId) (options : EnqueueOptions) (nowMs : Nat) :
    Tracked (chains.accept env requestId options nowMs) := by
  intro consumer other
  rw [jobs_accept, ledger_accept, mem_trackRequestId,
    requestIds_addPendingBytes,
    tracked consumer other, chains.jobs.count_set_of_absent _ _ chained.fresh]
  by_cases both : options.consumerSocketId = some consumer ∧ requestId = other
  · simp [isCharged, isPending, accepted, both]
  · have other_job : isCharged consumer other chains.nextJob
        (chains.accepted requestId options nowMs) = false := by
      by_contra holds
      simp only [isCharged, isPending, accepted, Bool.not_eq_false, Bool.and_eq_true] at holds
      exact both ⟨of_decide_eq_true holds.2, of_decide_eq_true holds.1.1⟩
    rw [other_job]
    simp only [both, or_false, Bool.false_eq_true, if_false, Nat.add_zero]

/-! ## A job starts or ends -/

variable {ref : Nat} {job : ChainedJob}

theorem totals_withPhase (phase : JobPhase)
    (present : chains.jobs.get ref = some job) (measure : ChainedJob → Nat) (amount : Nat)
    (before : measure job = amount)
    (after : measure { job with phase := phase } = if phase = .finished then 0 else amount) :
    (chains.withPhase ref job phase).total measure + (if phase = .finished then amount else 0) =
      chains.jobs.total measure := by
  have counted := chains.jobs.total_set_of_present { job with phase := phase } measure present
  rw [before, after] at counted
  rw [withPhase]
  by_cases ended : phase = .finished
  · rw [if_pos ended] at counted ⊢
    omega
  · rw [if_neg ended] at counted ⊢
    omega

theorem unfinished_withPhase (phase : JobPhase)
    (present : chains.jobs.get ref = some job) (unfinished : job.phase ≠ .finished) :
    (chains.withPhase ref job phase).count isUnfinished + (if phase = .finished then 1 else 0) =
      chains.jobs.count isUnfinished := by
  have counted := chains.jobs.count_set_of_present { job with phase := phase } isUnfinished present
  have was : isUnfinished ref job = true := by simp [isUnfinished, unfinished]
  have becomes : isUnfinished ref { job with phase := phase } = decide (phase ≠ .finished) := rfl
  rw [was, becomes, if_pos rfl] at counted
  rw [withPhase]
  by_cases ended : phase = .finished
  · simp only [ended, ne_eq, not_true_eq_false, decide_false, Bool.false_eq_true, if_false,
      if_true] at counted ⊢
    omega
  · simp only [ended, ne_eq, not_false_eq_true, decide_true, if_true, if_false] at counted ⊢
    omega

theorem charged_withPhase (phase : JobPhase)
    (present : chains.jobs.get ref = some job) (unfinished : job.phase ≠ .finished)
    (consumer : SocketId) (requestId : RequestId) :
    (chains.withPhase ref job phase).count (isCharged consumer requestId) +
        (if phase = .finished ∧ job.requestId = requestId ∧
          job.consumerSocketId = some consumer then 1 else 0) =
      chains.jobs.count (isCharged consumer requestId) := by
  have counted := chains.jobs.count_set_of_present { job with phase := phase }
    (isCharged consumer requestId) present
  have was : (isCharged consumer requestId ref job = true) ↔
      job.requestId = requestId ∧ job.consumerSocketId = some consumer := by
    simp [isCharged, isPending, unfinished]
  have becomes : (isCharged consumer requestId ref { job with phase := phase } = true) ↔
      (job.requestId = requestId ∧ job.consumerSocketId = some consumer) ∧ phase ≠ .finished := by
    simp only [isCharged, isPending, Bool.and_eq_true, decide_eq_true_eq]
    constructor
    · rintro ⟨⟨owner, pending⟩, place⟩
      exact ⟨⟨owner, place⟩, pending⟩
    · rintro ⟨⟨owner, place⟩, pending⟩
      exact ⟨⟨owner, pending⟩, place⟩
  simp only [was, becomes] at counted
  rw [withPhase]
  by_cases own : job.requestId = requestId ∧ job.consumerSocketId = some consumer
  · by_cases ended : phase = .finished
    · simp only [own, ended, and_self, ne_eq, not_true_eq_false, and_false, if_true,
        if_false] at counted ⊢
      omega
    · simp only [own, ended, and_self, ne_eq, not_false_eq_true, false_and, if_true,
        if_false] at counted ⊢
      omega
  · simp only [own, false_and, and_false, if_false, Nat.add_zero] at counted ⊢
    exact counted

theorem Charged.startJob (charged : Charged chains) (ref nowMs : Nat) :
    Charged (chains.startJob ref nowMs) := by
  unfold OutboundChains.startJob
  split
  · exact charged
  · next job present =>
    split
    · next ready =>
      have unfinished : job.phase ≠ .finished := by rw [ready.1]; decide
      refine ⟨?_, fun consumer => ?_, ?_, charged.swept⟩
      · have same := totals_withPhase .running present heldBytes job.pendingBytes
          (if_neg unfinished) rfl
        exact charged.bytes.trans same.symm
      · have same := totals_withPhase .running present (heldOf consumer) _ (if_neg unfinished) rfl
        exact (charged.consumerBytes consumer).trans same.symm
      · have same := unfinished_withPhase .running present unfinished
        rw [if_neg (by decide), Nat.add_zero] at same
        exact charged.unfinished.trans (by rw [← same]; rfl)
    · exact charged

theorem Tracked.startJob (tracked : Tracked chains) (ref nowMs : Nat) :
    Tracked (chains.startJob ref nowMs) := by
  unfold OutboundChains.startJob
  split
  · exact tracked
  · next job present =>
    split
    · next ready =>
      have unfinished : job.phase ≠ .finished := by rw [ready.1]; decide
      intro consumer requestId
      have counted := charged_withPhase .running present unfinished consumer requestId
      rw [if_neg fun both => absurd both.1 (by decide), Nat.add_zero] at counted
      show _ ↔ 0 < (chains.withPhase ref job .running).count (isCharged consumer requestId)
      rw [counted]
      exact tracked consumer requestId
    · exact tracked

theorem Charged.endJob (charged : Charged chains)
    (present : chains.jobs.get ref = some job) (running : job.phase = .running) (nowMs : Nat) :
    Charged { chains.endJob ref job nowMs with
      jobsFinishedTotal := chains.jobsFinishedTotal + 1 } := by
  have unfinished : job.phase ≠ .finished := by rw [running]; decide
  have ledgers : ∀ (ledger : OutboundQueue Unit Unit) (entry : TailEntry),
      (untrackRequestIdIfIdle ledger job.consumerSocketId job.requestId entry).pendingBytes =
        ledger.pendingBytes ∧
      (untrackRequestIdIfIdle ledger job.consumerSocketId job.requestId entry).pendingBytesByConsumer
        = ledger.pendingBytesByConsumer := by
    intro ledger entry
    unfold untrackRequestIdIfIdle
    split
    · exact ⟨rfl, rfl⟩
    · split <;> exact ⟨rfl, rfl⟩
  refine ⟨?_, fun consumer => ?_, ?_, charged.swept⟩
  · have parts := totals_withPhase .finished present heldBytes job.pendingBytes
      (if_neg unfinished) rfl
    rw [if_pos rfl] at parts
    show (untrackRequestIdIfIdle _ _ _ _).pendingBytes =
      (chains.withPhase ref job .finished).total heldBytes
    rw [(ledgers _ _).1, pendingBytes_subtractPendingBytes, charged.bytes]
    omega
  · have parts := totals_withPhase .finished present (heldOf consumer) _ (if_neg unfinished) rfl
    rw [if_pos rfl] at parts
    show (untrackRequestIdIfIdle _ _ _ _).pendingBytesByConsumer.read consumer =
      (chains.withPhase ref job .finished).total (heldOf consumer)
    rw [(ledgers _ _).2, read_subtractPendingBytes, charged.consumerBytes]
    omega
  · have parts := unfinished_withPhase .finished present unfinished
    rw [if_pos rfl] at parts
    show chains.jobsEnqueuedTotal = chains.jobsFinishedTotal + 1 +
      (chains.withPhase ref job .finished).count isUnfinished
    rw [charged.unfinished]
    omega

theorem Charged.finishJob (charged : Charged chains) (env : Env) (ref : Nat) (failed : Bool)
    (duration nowMs : Nat) : Charged (chains.finishJob env ref failed duration nowMs) := by
  unfold OutboundChains.finishJob
  split
  · exact charged
  · next job present =>
    split
    · next running => exact (charged.endJob present running nowMs).carry rfl rfl rfl rfl rfl
    · exact charged

/-! ## Request ids -/

/-- The end of a job leaves its request id with a consumer that has no unfinished job of the
request: the job is the last one with its consumer, and other jobs of the request go on. -/
def leavesRequestId (chains : OutboundChains) : Action → Bool
  | .finish ref _ _ _ =>
    match chains.jobs.get ref with
    | none => false
    | some job =>
      match job.consumerSocketId with
      | none => false
      | some consumer =>
        decide (job.phase = .running) &&
          decide (1 < chains.jobs.count (isPending job.requestId)) &&
          decide (chains.jobs.count (isCharged consumer job.requestId) = 1)
  | _ => false

theorem active_le_pending (jobs : OrderedMap Nat ChainedJob) (requestId : RequestId) :
    jobs.count (isActive requestId) ≤ jobs.count (isPending requestId) := by
  refine jobs.count_le_count fun ref job holds => ?_
  simp only [isActive, isPending, Bool.and_eq_true, decide_eq_true_eq] at holds ⊢
  refine ⟨holds.1, ?_⟩
  rw [holds.2]
  decide

theorem charged_le_pending (jobs : OrderedMap Nat ChainedJob) (consumer : SocketId)
    (requestId : RequestId) :
    jobs.count (isCharged consumer requestId) ≤ jobs.count (isPending requestId) := by
  refine jobs.count_le_count fun ref job holds => ?_
  simp only [isCharged, Bool.and_eq_true] at holds
  exact holds.1

/-- The request ids after a job ended: the last unfinished job of a request withdraws the id from
its consumer. -/
theorem Chained.mem_endJob (chained : Chained chains)
    (present : chains.jobs.get ref = some job) (running : job.phase = .running) (nowMs : Nat)
    (consumer : SocketId) (requestId : RequestId) :
    requestId ∈ (chains.endJob ref job nowMs).ledger.requestIdsByConsumer.members consumer ↔
      requestId ∈ chains.ledger.requestIdsByConsumer.members consumer ∧
        ¬ (job.consumerSocketId = some consumer ∧ requestId = job.requestId ∧
          chains.jobs.count (isPending job.requestId) = 1) := by
  have unfinished : job.phase ≠ .finished := by rw [running]; decide
  obtain ⟨entry, own⟩ := chained.own_tail present unfinished
  have counts := Chained.leave_counts present running own nowMs
  have bound := active_le_pending (chains.withPhase ref job .finished) job.requestId
  have pending := pending_withPhase .finished present unfinished job.requestId
  rw [if_pos ⟨rfl, rfl⟩] at pending
  have idle : (0 < (TailEntry.leave entry nowMs).pendingJobs ∨
      0 < (TailEntry.leave entry nowMs).activeJobs) ↔
        chains.jobs.count (isPending job.requestId) ≠ 1 := by
    rw [counts.1, counts.2]
    omega
  have ledger : (chains.endJob ref job nowMs).ledger = untrackRequestIdIfIdle
      (chains.ledger.subtractPendingBytes job.consumerSocketId job.pendingBytes)
      job.consumerSocketId job.requestId (TailEntry.leave entry nowMs) := by
    simp only [OutboundChains.endJob, own.stored, Option.getD_some]
  rw [ledger]
  unfold untrackRequestIdIfIdle
  cases job.consumerSocketId with
  | none =>
    simp only [requestIds_subtractPendingBytes, reduceCtorEq, false_and,
      not_false_eq_true, and_true]
  | some place =>
    simp only [idle, Option.some.injEq]
    by_cases last : chains.jobs.count (isPending job.requestId) = 1
    · simp only [last, ne_eq, not_true_eq_false, if_false, Index.mem_removeFromIndex,
        requestIds_subtractPendingBytes, and_true, eq_comm]
    · simp only [last, ne_eq, not_false_eq_true, if_true, and_false, and_true,
        requestIds_subtractPendingBytes]

/-- The end of a job keeps the request ids exact when it does not leave its id behind, and only
then. -/
theorem Tracked.endJob_iff (tracked : Tracked chains) (chained : Chained chains)
    (present : chains.jobs.get ref = some job) (running : job.phase = .running)
    (failed : Bool) (duration nowMs : Nat) :
    chains.leavesRequestId (.finish ref failed duration nowMs) = false ↔
      Tracked (chains.endJob ref job nowMs) := by
  have unfinished : job.phase ≠ .finished := by rw [running]; decide
  have counted := charged_withPhase .finished present unfinished
  have members := chained.mem_endJob present running nowMs
  have jobs : (chains.endJob ref job nowMs).jobs = chains.withPhase ref job .finished := rfl
  constructor
  · intro clear consumer requestId
    have parts := counted consumer requestId
    rw [members, jobs, tracked consumer requestId]
    by_cases own : job.consumerSocketId = some consumer ∧ requestId = job.requestId
    · obtain ⟨place, rfl⟩ := own
      rw [if_pos ⟨rfl, rfl, place⟩] at parts
      have bound := charged_le_pending chains.jobs consumer job.requestId
      simp only [leavesRequestId, present, place, running, decide_true, Bool.true_and,
        Bool.and_eq_false_iff, decide_eq_false_iff_not] at clear
      rw [place]
      simp only [true_and]
      omega
    · rw [if_neg fun all => own ⟨all.2.2, all.2.1.symm⟩, Nat.add_zero] at parts
      rw [parts]
      exact ⟨fun both => both.1, fun member => ⟨member, fun all => own ⟨all.1, all.2.1⟩⟩⟩
  · intro after
    cases place : job.consumerSocketId with
    | none => simp only [leavesRequestId, present, place]
    | some consumer =>
      have exact_after := after consumer job.requestId
      have parts := counted consumer job.requestId
      rw [if_pos ⟨rfl, rfl, place⟩] at parts
      rw [members, jobs, tracked consumer job.requestId, place] at exact_after
      simp only [true_and] at exact_after
      simp only [leavesRequestId, present, place, running, decide_true, Bool.true_and,
        Bool.and_eq_false_iff, decide_eq_false_iff_not]
      omega

/-! ## Refusals -/

theorem countRefusal_eq (decision : ByteBudgetDecision) :
    ∃ shed overload hard, chains.countRefusal decision =
      { chains with
        shedRejectedTotal := shed
        overloadRejectedTotal := overload
        hardRejectedTotal := hard } := by
  cases decision with
  | ok | shed | hard => exact ⟨_, _, _, rfl⟩

/-- A number of pending bytes stays within a multiple of a maximum, if there is one. -/
def Fits (times maximum bytes : Nat) : Prop := 0 < maximum → bytes ≤ times * maximum

theorem fits_of_budget {env : Env} {queue : OutboundQueue Unit Unit} {consumer : SocketId}
    {bytes times : Nat}
    (allowed : times = 2 ∧ queue.evaluateRelayOutboundByteBudget env consumer bytes ≠ .hard ∨
      times = 1 ∧ queue.evaluateRelayOutboundByteBudget env consumer bytes = .ok) :
    Fits times env.socketRelayOutboundMaxPendingBytes (queue.pendingBytes + bytes) ∧
      Fits times env.socketRelayOutboundMaxPendingBytesPerConsumer
        (queue.pendingBytesByConsumer.read consumer + bytes) := by
  unfold evaluateRelayOutboundByteBudget at allowed
  unfold Fits
  dsimp only at allowed
  split at allowed
  · next isOver =>
    split at allowed
    · simp only [ne_eq, not_true_eq_false, and_false, reduceCtorEq, or_self] at allowed
    · next within =>
      simp only [reduceCtorEq, and_false, or_false] at allowed
      rw [allowed.1]
      omega
  · next within =>
    rcases allowed with ⟨twice, -⟩ | ⟨once, -⟩
    · rw [twice]
      omega
    · rw [once]
      omega

theorem fits_of_accepted {env : Env} {options : EnqueueOptions} {consumer : SocketId}
    (charged : options.consumerSocketId = some consumer) (sized : 0 < options.pendingBytes)
    (normal : options.priority ≠ .control) (accepted : chains.refusal env options = none)
    (requestId : RequestId) (nowMs : Nat) {times : Nat}
    (policy : times = 2 ∨ times = 1 ∧ options.shedPolicy = .reject) :
    let next := chains.enqueueRelayOutbound env requestId options nowMs
    Fits times env.socketRelayOutboundMaxPendingBytes next.ledger.pendingBytes ∧
      Fits times env.socketRelayOutboundMaxPendingBytesPerConsumer
        (next.ledger.pendingBytesByConsumer.read consumer) := by
  have ledger : (chains.enqueueRelayOutbound env requestId options nowMs).ledger =
      (chains.ledger.addPendingBytes options.consumerSocketId options.pendingBytes).trackRequestId
        options.consumerSocketId requestId := by
    rw [OutboundChains.enqueueRelayOutbound, accepted]
    exact ledger_accept env requestId options nowMs
  simp only [ledger, pendingBytes_trackRequestId,
    pendingBytes_addPendingBytes, read_addPendingBytes,
    chargedTo, charged, if_true]
  refine fits_of_budget ?_
  rw [refusal, charged] at accepted
  simp only [sized, normal, ne_eq, not_false_eq_true, and_self, if_true] at accepted
  split at accepted
  · next within =>
    rw [within]
    rcases policy with two | one
    · exact Or.inl ⟨two, by decide⟩
    · exact Or.inr ⟨one.1, rfl⟩
  · next shed =>
    rw [shed]
    rcases policy with two | one
    · exact Or.inl ⟨two, by decide⟩
    · rw [if_pos one.2] at accepted
      cases accepted
  · cases accepted

/-! ## Every run -/

/-- Every action keeps the backlog charged. -/
theorem Charged.step (charged : Charged chains) (chained : Chained chains) (env : Env)
    (action : Action) : Charged (chains.step env action) := by
  cases action with
  | enqueue requestId options nowMs =>
    show Charged (chains.enqueueRelayOutbound env requestId options nowMs)
    unfold OutboundChains.enqueueRelayOutbound
    split
    · next decision _ => cases decision <;> exact charged.carry rfl rfl rfl rfl rfl
    · exact charged.accept chained env requestId options nowMs
  | start ref nowMs => exact charged.startJob ref nowMs
  | finish ref failed duration nowMs => exact charged.finishJob env ref failed duration nowMs
  | sweep nowMs =>
    refine charged.carry rfl rfl rfl rfl ?_
    show chains.jobsSweptOrphanedTotal + _ = _
    rw [chained.orphanedTails env nowMs]
    rfl
  | query nowMs =>
    show Charged (chains.getRelayOutboundQueueOverloadState env nowMs)
    unfold getRelayOutboundQueueOverloadState
    dsimp only
    split <;> exact charged.carry rfl rfl rfl rfl rfl
  | snapshot nowMs => exact charged.carry rfl rfl rfl rfl rfl
  | admitWork consumerSocketId =>
    show Charged (chains.admitRelayOutboundConsumerWork env consumerSocketId)
    unfold admitRelayOutboundConsumerWork
    cases chains.ledger.evaluateRelayOutboundByteBudget env consumerSocketId 0 <;>
      exact charged.carry rfl rfl rfl rfl rfl

/-- So the counters are right in every run. -/
theorem charged_run (env : Env) (actions : List Action) :
    Charged (run (OutboundChains.step env) {} actions) := by
  have keeps : ∀ (chains : OutboundChains) (action : Action), Chained chains ∧ Charged chains →
      Chained (chains.step env action) ∧ Charged (chains.step env action) :=
    fun _ action kept => ⟨kept.1.step env action, kept.2.step kept.1 env action⟩
  have initially : Chained {} ∧ Charged {} :=
    ⟨chained_empty, ⟨rfl, fun _ => rfl, rfl, rfl⟩⟩
  exact (run_invariant _ keeps initially actions).2

/-- One step keeps the request ids exact when it does not leave an id behind, and only then. -/
theorem Tracked.step_iff (tracked : Tracked chains) (chained : Chained chains) (env : Env)
    (action : Action) :
    chains.leavesRequestId action = false ↔ Tracked (chains.step env action) := by
  cases action with
  | enqueue requestId options nowMs =>
    refine iff_of_true rfl ?_
    show Tracked (chains.enqueueRelayOutbound env requestId options nowMs)
    unfold OutboundChains.enqueueRelayOutbound
    split
    · next decision _ => cases decision <;> exact tracked
    · exact tracked.accept chained env requestId options nowMs
  | start ref nowMs => exact iff_of_true rfl (tracked.startJob ref nowMs)
  | finish ref failed duration nowMs =>
    show _ ↔ Tracked (chains.finishJob env ref failed duration nowMs)
    cases present : chains.jobs.get ref with
    | none =>
      simp only [OutboundChains.finishJob, present]
      exact iff_of_true (by simp only [leavesRequestId, present]) tracked
    | some job =>
      by_cases running : job.phase = .running
      · simp only [OutboundChains.finishJob, present, running, if_true]
        exact tracked.endJob_iff chained present running failed duration nowMs
      · simp only [OutboundChains.finishJob, present, running, if_false]
        refine iff_of_true ?_ tracked
        simp only [leavesRequestId, present, running, decide_false, Bool.false_and]
        cases job.consumerSocketId <;> rfl
  | sweep nowMs => exact iff_of_true rfl tracked
  | query nowMs =>
    refine iff_of_true rfl ?_
    show Tracked (chains.getRelayOutboundQueueOverloadState env nowMs)
    unfold getRelayOutboundQueueOverloadState
    dsimp only
    split <;> exact tracked
  | snapshot nowMs => exact iff_of_true rfl tracked
  | admitWork consumerSocketId =>
    refine iff_of_true rfl ?_
    show Tracked (chains.admitRelayOutboundConsumerWork env consumerSocketId)
    unfold admitRelayOutboundConsumerWork
    cases chains.ledger.evaluateRelayOutboundByteBudget env consumerSocketId 0 <;> exact tracked

/-- The bytes and the backlog are those of the unfinished jobs in every run, accepted calls stay
within the budget and refused ones are only counted; the request ids of the consumers are exact in
every state reached when no ending job leaves its id behind, and only then. -/
theorem outbound_accounts_exact (env : Env) (actions : List Action) :
    let chains := run (OutboundChains.step env) {} actions
    chains.ledger.pendingBytes = chains.jobs.total heldBytes ∧
    (∀ consumer, chains.ledger.pendingBytesByConsumer.read consumer =
      chains.jobs.total (heldOf consumer)) ∧
    chains.deriveBacklog = chains.jobs.count isUnfinished ∧
    (∀ requestId options consumer nowMs, options.consumerSocketId = some consumer →
      0 < options.pendingBytes → options.priority ≠ .control → chains.refusal env options = none →
      let next := chains.step env (.enqueue requestId options nowMs)
      ∀ times, times = 2 ∨ times = 1 ∧ options.shedPolicy = .reject →
        Fits times env.socketRelayOutboundMaxPendingBytes next.ledger.pendingBytes ∧
        Fits times env.socketRelayOutboundMaxPendingBytesPerConsumer
          (next.ledger.pendingBytesByConsumer.read consumer)) ∧
    (∀ requestId options nowMs decision, chains.refusal env options = some decision →
      ∃ shed overload hard, chains.step env (.enqueue requestId options nowMs) =
        { chains with
          shedRejectedTotal := shed
          overloadRejectedTotal := overload
          hardRejectedTotal := hard }) ∧
    (Meets (OutboundChains.step env) (fun state action => state.leavesRequestId action = false) {}
        actions ↔
      ∀ taken, taken <+: actions → ∀ consumer requestId,
        requestId ∈ (run (OutboundChains.step env) {}
          taken).ledger.requestIdsByConsumer.members consumer ↔
        ∃ ref job, (run (OutboundChains.step env) {} taken).jobs.get ref = some job ∧
          job.requestId = requestId ∧ job.phase ≠ .finished ∧
          job.consumerSocketId = some consumer) := by
  intro chains
  have charged : Charged chains := charged_run env actions
  refine ⟨charged.bytes, charged.consumerBytes, charged.deriveBacklog, ?_, ?_, ?_⟩
  · intro requestId options consumer nowMs place sized normal accepted next times policy
    exact fits_of_accepted place sized normal accepted requestId nowMs policy
  · intro requestId options nowMs decision refused
    show ∃ shed overload hard, chains.enqueueRelayOutbound env requestId options nowMs = _
    rw [OutboundChains.enqueueRelayOutbound, refused]
    exact countRefusal_eq decision
  · have runs := @meets_iff_every_state OutboundChains Action (OutboundChains.step env)
      (fun state action => state.leavesRequestId action = false) Chained Tracked
      (fun _ action chained _ _ => chained.step env action)
      (fun _ action chained tracked => tracked.step_iff chained env action)
      {} chained_empty (fun _ _ => ⟨nofun, nofun⟩) actions
    rw [runs]
    refine forall_congr' fun taken => forall_congr' fun _ => ?_
    exact forall_congr' fun consumer => forall_congr' fun requestId => by
      rw [count_isCharged_pos_iff]

/-- A job that is charged to a consumer and one that is not, of one request. -/
def mixedJobs : List Action :=
  [.enqueue "r" { consumerSocketId := some "c", pendingBytes := 10 } 0, .enqueue "r" {} 0,
    .start 0 0, .finish 0 false 0 0, .start 1 0, .finish 1 false 0 0]

/-- The consumer keeps the request id although every job finished. -/
theorem request_id_left_behind :
    let chains := run (OutboundChains.step {}) {} mixedJobs
    "r" ∈ chains.ledger.requestIdsByConsumer.members "c" ∧
      ¬ ∃ ref job, chains.jobs.get ref = some job ∧ job.requestId = "r" ∧
        job.phase ≠ .finished ∧ job.consumerSocketId = some "c" := by
  intro chains
  refine ⟨by decide, ?_⟩
  rw [← count_isCharged_pos_iff]
  decide

/-- Jobs of one request that are all charged to the consumer. -/
def chargedJobs : List Action :=
  [.enqueue "r" { consumerSocketId := some "c", pendingBytes := 10 } 0,
    .enqueue "r" { consumerSocketId := some "c" } 0, .start 0 0, .finish 0 true 0 0, .start 1 0]

/-- The consumer has the request id while one of them is unfinished. -/
theorem request_id_of_charged_jobs :
    "r" ∈ (run (OutboundChains.step {}) {} chargedJobs).ledger.requestIdsByConsumer.members "c" :=
  ((outbound_accounts_exact {} chargedJobs).2.2.2.2.2.mp (by decide) chargedJobs
    (List.prefix_refl _) "c" "r").mpr ⟨1, _, rfl, rfl, by decide, rfl⟩

end OutboundChains

end PlugHub.Relay
